import HexWorld.Text.Integer
import HexWorld.Text.Quoted

/-!
# Rooms

Rooms lie on a hexagonal grid and are named by their axial coordinates. The canonical text of a
room is `q,r`; a reader also takes `q;r`, blanks around either number and an explicit plus sign.

## Contents
- `Axial`, a place on the grid, and `RoomId`, a room.
- The order by column, then row, which is the order of rooms wherever they are listed by key.
- `RoomId.text`, `RoomId.parse`, `InvalidRoomId`.
-/

namespace HexWorld

/-- A place on the grid. -/
structure Axial where
  q : Int32
  r : Int32
  deriving DecidableEq, Inhabited

/-- A room, named by its place. -/
structure RoomId where
  axial : Axial
  deriving DecidableEq, Inhabited

namespace Axial

def text (a : Axial) : String :=
  s!"({a.q.toInt}, {a.r.toInt})"

end Axial

namespace RoomId

/-! ## Order -/

/-- By column, then by row. -/
instance : LT RoomId where
  lt a b := a.axial.q.toInt < b.axial.q.toInt ∨
    (a.axial.q.toInt = b.axial.q.toInt ∧ a.axial.r.toInt < b.axial.r.toInt)

instance (a b : RoomId) : Decidable (a < b) :=
  inferInstanceAs (Decidable (_ ∨ (_ ∧ _)))

theorem lt_def (a b : RoomId) : a < b ↔ a.axial.q.toInt < b.axial.q.toInt ∨
    (a.axial.q.toInt = b.axial.q.toInt ∧ a.axial.r.toInt < b.axial.r.toInt) :=
  Iff.rfl

theorem ext_toInt {a b : RoomId} (hq : a.axial.q.toInt = b.axial.q.toInt)
    (hr : a.axial.r.toInt = b.axial.r.toInt) : a = b := by
  obtain ⟨⟨aq, ar⟩⟩ := a
  obtain ⟨⟨bq, br⟩⟩ := b
  cases Int32.toInt_inj.mp hq
  cases Int32.toInt_inj.mp hr
  rfl

protected theorem lt_irrefl (a : RoomId) : ¬ a < a := by
  rw [lt_def]
  omega

protected theorem lt_trans {a b c : RoomId} (h : a < b) (h' : b < c) : a < c := by
  rw [lt_def] at *
  omega

protected theorem lt_trichotomy (a b : RoomId) : a < b ∨ a = b ∨ b < a := by
  by_cases hq : a.axial.q.toInt = b.axial.q.toInt
  · by_cases hr : a.axial.r.toInt = b.axial.r.toInt
    · exact Or.inr (Or.inl (ext_toInt hq hr))
    · simp only [lt_def]
      omega
  · simp only [lt_def]
    omega

/-! ## Text -/

/-- The canonical text. -/
def text (room : RoomId) : String :=
  s!"{room.axial.q.toInt},{room.axial.r.toInt}"

end RoomId

/-- A text that names no room. -/
structure InvalidRoomId where
  input : String
  deriving DecidableEq, Repr

/-- The wording of the error. -/
def InvalidRoomId.message (e : InvalidRoomId) : String :=
  s!"invalid room id {Text.quoted e.input}: expected \"q,r\" or \"q;r\" with integer axes"

namespace RoomId

/-- The characters that separate the two numbers of a room. -/
def isSeparator (c : Char) : Bool :=
  c == ',' || c == ';'

/-- One coordinate, with blanks around it. -/
def parseAxis? (text : List Char) : Option Int32 :=
  match Text.readInteger (.signed 32) (Text.trim text) with
  | .ok n => some (Int32.ofInt n)
  | .error _ => none

/-- The room named by a text: two numbers on either side of the first separator. -/
def ofText? (text : List Char) : Option RoomId :=
  let text := Text.trim text
  match text.dropWhile fun c => !isSeparator c with
  | [] => none
  | _ :: after => do
    let q ← parseAxis? (text.takeWhile fun c => !isSeparator c)
    let r ← parseAxis? after
    return ⟨q, r⟩

/-- The room named by a text. -/
def parse (text : String) : Except InvalidRoomId RoomId :=
  match ofText? text.toList with
  | some room => .ok room
  | none => .error ⟨text⟩

end RoomId

end HexWorld
