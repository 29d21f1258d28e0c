import HexWorld.Decimal.Reading

/-!
# JSON values

The tree of a JSON text. Strings and numbers are kept as they were written, because whether they
mean anything depends on who asks: a lone surrogate or a number beyond all doubles spoils a field
that is read and is of no account in one that is skipped.

## Contents
- `Piece`, `Literal`: the content of a string; `Literal.text?`, the text that it means.
- `Number`, with its readings as an integer and as a number of 64 and 32 bits.
- `Value`, the tree, with constructors for texts, integers and binary numbers.
- `Value.isMeaningful`: every part of a value means something.
-/

namespace HexWorld.Json

/-! ## Strings -/

/-- A piece of a string: a character, a unit of sixteen bits written in hexadecimal, or a byte that
belongs to no character. -/
inductive Piece where
  | char (c : Char)
  | unit (u : UInt16)
  | stray
  deriving DecidableEq, Repr

/-- The content of a string. -/
abbrev Literal := List Piece

namespace Literal

def ofText (text : List Char) : Literal :=
  text.map .char

/-- The first half of a pair of units. -/
def isHigh (u : UInt16) : Bool :=
  0xD800 ≤ u && u < 0xDC00

/-- The second half of a pair of units. -/
def isLow (u : UInt16) : Bool :=
  0xDC00 ≤ u && u < 0xE000

/-- The character that a pair of units stands for. -/
def joined (high low : UInt16) : Char :=
  Char.ofNat (0x10000 + (high.toNat - 0xD800) * 1024 + (low.toNat - 0xDC00))

/-- The text of a string, if its units pair up and no byte is stray. -/
def text? : Literal → Option (List Char)
  | [] => some []
  | .char c :: rest => (text? rest).map (c :: ·)
  | .unit high :: .unit low :: rest =>
    if isHigh high then
      if isLow low then (text? rest).map (joined high low :: ·) else none
    else if isLow high then none
    else (text? (.unit low :: rest)).map (Char.ofNat high.toNat :: ·)
  | .unit u :: rest =>
    if isHigh u || isLow u then none else (text? rest).map (Char.ofNat u.toNat :: ·)
  | .stray :: _ => none

theorem text?_ofText (text : List Char) : text? (ofText text) = some text := by
  induction text with
  | nil => rfl
  | cons c rest ih =>
    show (text? (ofText rest)).map (c :: ·) = _
    rw [ih]
    rfl

end Literal

/-! ## Numbers -/

/-- A number as it is written. The integer part has no leading zeros, and an absent fraction is
empty, since a point is always followed by a digit. -/
structure Number extends Written where
  negative : Bool
  deriving DecidableEq, Repr

namespace Number

def ofInt (n : Int) : Number :=
  ⟨⟨n.natAbs, [], none⟩, n < 0⟩

def isIntegral (n : Number) : Bool :=
  n.fraction.isEmpty && n.exponent.isNone

/-- The integer that is written without fraction or exponent and fits 64 bits, signed if it is
negative. A negative zero is no integer. -/
def int? (n : Number) : Option Int :=
  if !n.isIntegral then none
  else if n.negative then
    if n.whole ≠ 0 ∧ n.whole ≤ 0x8000000000000000 then some (-n.whole) else none
  else if n.whole < UInt64.size then some n.whole
  else none

/-- The number of 64 bits; `none` beyond the greatest. -/
def double? (n : Number) : Option Double :=
  match n.int? with
  | some i => some (.ofInt .double i)
  | none =>
    Double.ofParts? n.negative (Decimal.digitsOf n.whole) n.fraction (n.exponent.getD 0)

/-- The number of 32 bits: an integer directly, any other by way of 64 bits. Beyond the greatest
number of 32 bits it is infinite. -/
def single? (n : Number) : Option Single :=
  match n.int? with
  | some i => some (.ofInt .single i)
  | none => n.double?.map (.convert .single)

end Number

/-! ## Trees -/

/-- A JSON value. Members stay in order, repeated names included. -/
inductive Value where
  | null
  | bool (b : Bool)
  | number (n : Number)
  | string (s : Literal)
  | array (items : List Value)
  | object (members : List (Literal × Value))
  deriving Repr

instance : Inhabited Value := ⟨.null⟩

namespace Value

def ofText (text : List Char) : Value :=
  .string (.ofText text)

def ofString (text : String) : Value :=
  .ofText text.toList

def ofInt (n : Int) : Value :=
  .number (.ofInt n)

def ofNat (n : Nat) : Value :=
  .ofInt n

/-- A finite number in a layout; JSON has no other numbers. -/
def ofBinary {f : Format} (layout : Layout) : Binary f → Value
  | .finite negative x => .number ⟨(shortest f x).write layout, negative⟩
  | _ => .null

def ofDouble (x : Double) : Value :=
  ofBinary .double x

def ofSingle (x : Single) : Value :=
  ofBinary .single x

/-- An object with these names in this order. -/
def ofFields (fields : List (String × Value)) : Value :=
  .object (fields.map fun (name, v) => (.ofText name.toList, v))

/-- A value, or `null` for none. -/
def ofOption {α : Type} (f : α → Value) : Option α → Value
  | some a => f a
  | none => .null

/-- The text of a string. -/
def text? : Value → Option (List Char)
  | .string s => s.text?
  | _ => none

/-- The text of a string. -/
def string? (v : Value) : Option String :=
  v.text?.map String.ofList

/-- An integer of a range. -/
def int? (range : Text.IntegerRange) : Value → Option Int
  | .number n => n.int?.filter range.contains
  | _ => none

def array? : Value → Option (List Value)
  | .array items => some items
  | _ => none

/-! ### Meaning in every part -/

mutual
/-- Whether all strings have a text, all numbers are of 64 bits, and containers lie at most `depth`
deep. -/
def isMeaningful (depth : Nat) : Value → Bool
  | .null => true
  | .bool _ => true
  | .number n => n.double?.isSome
  | .string s => s.text?.isSome
  | .array items => match depth with
    | 0 => false
    | depth + 1 => itemsMeaningful depth items
  | .object members => match depth with
    | 0 => false
    | depth + 1 => membersMeaningful depth members

def itemsMeaningful (depth : Nat) : List Value → Bool
  | [] => true
  | v :: rest => isMeaningful depth v && itemsMeaningful depth rest

def membersMeaningful (depth : Nat) : List (Literal × Value) → Bool
  | [] => true
  | (name, v) :: rest => name.text?.isSome && isMeaningful depth v && membersMeaningful depth rest
end

end Value

end HexWorld.Json
