import HexWorld.Json.Document

/-!
# Records in JSON

A record is read from an object or from an array. In an object the fields come in any order, each
at most once, among any others; in an array they come by position, and trailing ones may be absent.

## Contents
- `slots`, the values given for the fields of a record.
- `required`, `optional`, `nullable`: readings of one slot.
- Readings of the word types that records hold.
-/

namespace HexWorld.Json

/-- The value of one field in an object, `some none` if it is absent. -/
def member? (members : List (List Char × Value)) (name : String) : Option (Option Value) :=
  match members.filter (·.1 = name.toList) with
  | [] => some none
  | [(_, v)] => some (some v)
  | _ => none

/-- The members of an object with the texts of their names. -/
def namedMembers? (members : List (Literal × Value)) : Option (List (List Char × Value)) :=
  members.mapM fun (name, v) => name.text?.map (·, v)

/-- The values given for the fields `names`, in this order. -/
def slots (names : List String) : Value → Option (List (Option Value))
  | .object members => do
    let members ← namedMembers? members
    names.mapM (member? members)
  | .array items =>
    if items.length ≤ names.length then
      some (items.map some ++ List.replicate (names.length - items.length) none)
    else none
  | _ => none

section Readings

variable {α : Type}

/-- A field that has to be there. -/
def required (read : Value → Option α) (slot : Option Value) : Option α :=
  slot.bind read

/-- A field with a value of its own when absent. -/
def optional (absent : α) (read : Value → Option α) : Option Value → Option α
  | none => some absent
  | some v => read v

/-- A field that may be absent or `null`. -/
def nullable (read : Value → Option α) : Option Value → Option (Option α)
  | none => some none
  | some .null => some none
  | some v => (read v).map some

/-- A list of values of one kind. -/
def listOf (read : Value → Option α) (v : Value) : Option (List α) := do
  let items ← v.array?
  items.mapM read

end Readings

namespace Value

def uint64? (v : Value) : Option UInt64 :=
  (v.int? (.unsigned 64)).map fun n => .ofNat n.toNat

def uint32? (v : Value) : Option UInt32 :=
  (v.int? (.unsigned 32)).map fun n => .ofNat n.toNat

def int64? (v : Value) : Option Int64 :=
  (v.int? (.signed 64)).map Int64.ofInt

def int32? (v : Value) : Option Int32 :=
  (v.int? (.signed 32)).map Int32.ofInt

def single? : Value → Option Single
  | .number n => n.single?
  | _ => none

def double? : Value → Option Double
  | .number n => n.double?
  | _ => none

def ofUInt64 (n : UInt64) : Value := .ofNat n.toNat
def ofUInt32 (n : UInt32) : Value := .ofNat n.toNat
def ofInt64 (n : Int64) : Value := .ofInt n.toInt
def ofInt32 (n : Int32) : Value := .ofInt n.toInt

end Value

end HexWorld.Json
