import HexWorld.Json.Token

/-!
# Universally unique identifiers

An identifier has 128 bits. It is written as 32 lower-case hexadecimal digits in five groups, and
read in four forms and either case: the groups, the digits without hyphens, the groups in braces,
and the groups after `urn:uuid:`.

## Contents
- `Uuid`, `Uuid.text`, `Uuid.ofText?`.
-/

namespace HexWorld

/-- A universally unique identifier. -/
structure Uuid where
  bits : BitVec 128
  deriving DecidableEq, Inhabited

namespace Uuid

/-- Lengths of the groups of digits. -/
def groups : List Nat := [8, 4, 4, 4, 12]

/-- Puts hyphens between groups of the lengths given. -/
def hyphenate : List Nat → List Char → List Char
  | [], digits => digits
  | [_], digits => digits
  | n :: rest, digits => digits.take n ++ '-' :: hyphenate rest (digits.drop n)

/-- Takes the hyphens between groups of the lengths given out again. -/
def unhyphenate? : List Nat → List Char → Option (List Char)
  | [], digits => some digits
  | [_], digits => some digits
  | n :: rest, digits =>
    match digits.drop n with
    | '-' :: after => (unhyphenate? rest after).map (digits.take n ++ ·)
    | _ => none

/-- The canonical text. -/
def text (u : Uuid) : List Char :=
  hyphenate groups (Json.padHex 32 u.bits.toNat)

/-- The identifier of 32 digits. -/
def ofDigits? (digits : List Char) : Option Uuid := do
  guard (digits.length = 32)
  let values ← digits.mapM Json.hexValue?
  return ⟨.ofNat 128 (values.foldl (fun n d => n * 16 + d) 0)⟩

/-- The identifier of five groups of digits. -/
def ofGroups? (text : List Char) : Option Uuid := do
  let digits ← unhyphenate? groups text
  ofDigits? digits

/-- The identifier that a text names in one of the four forms. -/
def ofText? (text : List Char) : Option Uuid :=
  match text.length, text with
  | 32, digits => ofDigits? digits
  | 36, body => ofGroups? body
  | 38, '\x7b' :: rest => if rest.getLast? = some '\x7d' then ofGroups? rest.dropLast else none
  | 45, body =>
    if (body.take 9).map Char.toLower = "urn:uuid:".toList then ofGroups? (body.drop 9) else none
  | _, _ => none

end Uuid

end HexWorld
