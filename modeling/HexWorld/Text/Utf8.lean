/-!
# UTF-8, leniently

Bytes as a list of characters in which a byte that begins no well-formed sequence stands for
itself. A reader can then decide whether a stray byte matters where it was found.

## Contents
- `decode`, the reading of bytes; `none` stands for a stray byte.
- `valid?`, the text of bytes without stray ones.
-/

namespace HexWorld.Text.Utf8

/-- The payload of a continuation byte. -/
def continuation? (b : UInt8) : Option Nat :=
  if 0x80 ≤ b ∧ b < 0xC0 then some (b.toNat - 0x80) else none

/-- The scalar value `n`, if it is one and is not below the least value `least` of its length. -/
def scalar? (least n : Nat) : Option Char :=
  if h : n.isValidChar then if least ≤ n then some (Char.ofNatAux n h) else none else none

/-- The character at the front of `bytes`, with the bytes that it leaves. -/
def front? : List UInt8 → Option (Char × List UInt8)
  | [] => none
  | a :: rest =>
    if a < 0x80 then (scalar? 0 a.toNat).map (·, rest)
    else if 0xC0 ≤ a ∧ a < 0xE0 then
      match rest with
      | b :: rest => do
        let b ← continuation? b
        let c ← scalar? 0x80 ((a.toNat - 0xC0) * 64 + b)
        return (c, rest)
      | _ => none
    else if 0xE0 ≤ a ∧ a < 0xF0 then
      match rest with
      | b :: c :: rest => do
        let b ← continuation? b
        let c ← continuation? c
        let d ← scalar? 0x800 (((a.toNat - 0xE0) * 64 + b) * 64 + c)
        return (d, rest)
      | _ => none
    else if 0xF0 ≤ a ∧ a < 0xF8 then
      match rest with
      | b :: c :: d :: rest => do
        let b ← continuation? b
        let c ← continuation? c
        let d ← continuation? d
        let e ← scalar? 0x10000 ((((a.toNat - 0xF0) * 64 + b) * 64 + c) * 64 + d)
        return (e, rest)
      | _ => none
    else none

/-- At most `fuel` characters of `bytes`; each step takes at least one byte. -/
def decodeFrom : Nat → List UInt8 → List (Option Char)
  | 0, _ => []
  | _, [] => []
  | fuel + 1, b :: rest =>
    match front? (b :: rest) with
    | some (c, rest) => some c :: decodeFrom fuel rest
    | none => none :: decodeFrom fuel rest

/-- The characters of `bytes`, with `none` for each byte that belongs to none. -/
def decode (bytes : List UInt8) : List (Option Char) :=
  decodeFrom bytes.length bytes

/-- The text of `bytes`, if every byte belongs to a character. -/
def valid? (bytes : List UInt8) : Option (List Char) :=
  (decode bytes).mapM id

end HexWorld.Text.Utf8
