import HexWorld.Text.Hidden

/-!
# Quoted texts

The form in which messages quote a text: between double quotes, with a backslash before quotes and
backslashes, short escapes for five controls, and the code point in braces for every character that
would not show.

## Contents
- `hexDigits`, lower-case hexadecimal.
- `quotedChar`, `quoted`: the form of a character and of a text.
-/

namespace HexWorld.Text

/-- Lower-case hexadecimal digits without leading zeros. -/
def hexDigits (n : Nat) : List Char :=
  Nat.toDigits 16 n

/-- A character inside quotes. -/
def quotedChar (c : Char) : List Char :=
  match c with
  | '"' => ['\\', '"']
  | '\\' => ['\\', '\\']
  | '\t' => ['\\', 't']
  | '\r' => ['\\', 'r']
  | '\n' => ['\\', 'n']
  | '\x00' => ['\\', '0']
  | c => if isHidden c then ['\\', 'u', '\x7b'] ++ hexDigits c.toNat ++ ['\x7d'] else [c]

/-- A text between quotes. -/
def quotedChars (text : List Char) : List Char :=
  '"' :: text.flatMap quotedChar ++ ['"']

/-- A text between quotes. -/
def quoted (text : String) : String :=
  String.ofList (quotedChars text.toList)

end HexWorld.Text
