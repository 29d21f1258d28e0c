import HexWorld.Json.Value

/-!
# JSON tokens

The tokens of a JSON text, their canonical spelling, and the scanner that finds them. Blanks
between tokens are skipped, and every symbol of the input is either blank or part of a token.

## Contents
- `Token`, `Token.render`.
- `stringBody`, `number?`, `token?`: one token at the front of the input.
- `Token.scan?`, all tokens of an input.
-/

namespace HexWorld.Json

/-- What an input is made of: characters and stray bytes. -/
abbrev Input := List (Option Char)

inductive Token where
  | arrayOpen
  | arrayClose
  | objectOpen
  | objectClose
  | comma
  | colon
  | null
  | bool (b : Bool)
  | number (n : Number)
  | string (s : Literal)
  deriving DecidableEq, Repr

/-! ## Spelling -/

/-- Hexadecimal digits, at least `width` of them. -/
def padHex (width n : Nat) : List Char :=
  let digits := Nat.toDigits 16 n
  List.replicate (width - digits.length) '0' ++ digits

/-- A character inside a string: quotes, backslashes and controls are escaped, and nothing else. -/
def escapeChar (c : Char) : List Char :=
  match c with
  | '"' => ['\\', '"']
  | '\\' => ['\\', '\\']
  | '\n' => ['\\', 'n']
  | '\r' => ['\\', 'r']
  | '\t' => ['\\', 't']
  | '\x08' => ['\\', 'b']
  | '\x0c' => ['\\', 'f']
  | c => if c.toNat < 0x20 then ['\\', 'u'] ++ padHex 4 c.toNat else [c]

/-- A piece of a string. A stray byte has no spelling, and a replacement character stands in. -/
def Piece.render : Piece → List Char
  | .char c => escapeChar c
  | .unit u => ['\\', 'u'] ++ padHex 4 u.toNat
  | .stray => [Char.ofNat 0xFFFD]

/-- A number; an exponent always has a sign. -/
def Number.render (n : Number) : List Char :=
  (if n.negative then ['-'] else []) ++ Nat.toDigits 10 n.whole ++
    (if n.fraction.isEmpty then [] else '.' :: n.fraction.map digitChar) ++
    match n.exponent with
    | none => []
    | some e => 'e' :: (if e < 0 then '-' else '+') :: Nat.toDigits 10 e.natAbs

def Token.render : Token → List Char
  | .arrayOpen => ['[']
  | .arrayClose => [']']
  | .objectOpen => ['\x7b']
  | .objectClose => ['\x7d']
  | .comma => [',']
  | .colon => [':']
  | .null => ['n', 'u', 'l', 'l']
  | .bool true => ['t', 'r', 'u', 'e']
  | .bool false => ['f', 'a', 'l', 's', 'e']
  | .number n => n.render
  | .string s => '"' :: s.flatMap Piece.render ++ ['"']

/-! ## Scanning -/

/-- The value of a hexadecimal digit. -/
def hexValue? (c : Char) : Option Nat :=
  if '0' ≤ c ∧ c ≤ '9' then some (c.toNat - '0'.toNat)
  else if 'a' ≤ c ∧ c ≤ 'f' then some (c.toNat - 'a'.toNat + 10)
  else if 'A' ≤ c ∧ c ≤ 'F' then some (c.toNat - 'A'.toNat + 10)
  else none

/-- The unit that four hexadecimal digits write. -/
def unit? (a b c d : Char) : Option UInt16 := do
  let a ← hexValue? a
  let b ← hexValue? b
  let c ← hexValue? c
  let d ← hexValue? d
  return (((a * 16 + b) * 16 + c) * 16 + d).toUInt16

/-- The character that a one-letter escape stands for. -/
def escaped? : Char → Option Char
  | '"' => some '"'
  | '\\' => some '\\'
  | '/' => some '/'
  | 'b' => some '\x08'
  | 'f' => some '\x0c'
  | 'n' => some '\n'
  | 'r' => some '\r'
  | 't' => some '\t'
  | _ => none

/-- The rest of a string after its opening quote, and what follows the closing one. -/
def stringBody : Input → Option (Literal × Input)
  | [] => none
  | none :: rest => (stringBody rest).map fun (s, rest) => (.stray :: s, rest)
  | some '"' :: rest => some ([], rest)
  | some '\\' :: some 'u' :: some a :: some b :: some c :: some d :: rest => do
    let u ← unit? a b c d
    let (s, rest) ← stringBody rest
    return (.unit u :: s, rest)
  | some '\\' :: some c :: rest => do
    let c ← escaped? c
    let (s, rest) ← stringBody rest
    return (.char c :: s, rest)
  | some c :: rest =>
    if c.toNat < 0x20 ∨ c = '\\' then none
    else (stringBody rest).map fun (s, rest) => (.char c :: s, rest)

/-- The digits at the front. -/
def digitRun : Input → List Nat × Input
  | some c :: rest =>
    match Text.digitValue? c with
    | some d => let (ds, rest) := digitRun rest; (d :: ds, rest)
    | none => ([], some c :: rest)
  | rest => ([], rest)

/-- The digits after a point, if there is one; at least one digit has to follow. -/
def fraction? : Input → Option (List Nat × Input)
  | some '.' :: rest =>
    match digitRun rest with
    | ([], _) => none
    | found => some found
  | rest => some ([], rest)

/-- The digits after an exponent's sign. -/
def exponentDigits? (negative : Bool) (rest : Input) : Option (Option Int × Input) :=
  match digitRun rest with
  | ([], _) => none
  | (ds, rest) =>
    let e : Int := Decimal.ofDigits ds
    some (some (if negative then -e else e), rest)

/-- The exponent, if there is one. -/
def exponent? : Input → Option (Option Int × Input)
  | some c :: rest =>
    if c = 'e' ∨ c = 'E' then
      match rest with
      | some '-' :: rest => exponentDigits? true rest
      | some '+' :: rest => exponentDigits? false rest
      | rest => exponentDigits? false rest
    else some (none, some c :: rest)
  | rest => some (none, rest)

/-- A number without its sign. An integer part of several digits does not begin with zero. -/
def unsigned? (negative : Bool) (input : Input) : Option (Number × Input) :=
  match digitRun input with
  | ([], _) => none
  | (0 :: _ :: _, _) => none
  | (whole, rest) => do
    let (fraction, rest) ← fraction? rest
    let (exponent, rest) ← exponent? rest
    return (⟨⟨Decimal.ofDigits whole, fraction, exponent⟩, negative⟩, rest)

/-- A number at the front. -/
def number? : Input → Option (Number × Input)
  | some '-' :: rest => unsigned? true rest
  | rest => unsigned? false rest

/-- The blanks that may stand between tokens. -/
def isGap (c : Char) : Bool :=
  c == ' ' || c == '\n' || c == '\r' || c == '\t'

/-- The token at the front of an input without leading blanks. -/
def token? : Input → Option (Token × Input)
  | some '[' :: rest => some (.arrayOpen, rest)
  | some ']' :: rest => some (.arrayClose, rest)
  | some '\x7b' :: rest => some (.objectOpen, rest)
  | some '\x7d' :: rest => some (.objectClose, rest)
  | some ',' :: rest => some (.comma, rest)
  | some ':' :: rest => some (.colon, rest)
  | some 'n' :: some 'u' :: some 'l' :: some 'l' :: rest => some (.null, rest)
  | some 't' :: some 'r' :: some 'u' :: some 'e' :: rest => some (.bool true, rest)
  | some 'f' :: some 'a' :: some 'l' :: some 's' :: some 'e' :: rest => some (.bool false, rest)
  | some '"' :: rest => (stringBody rest).map fun (s, rest) => (.string s, rest)
  | input => (number? input).map fun (n, rest) => (.number n, rest)

namespace Token

/-- Scans with at most `fuel` steps; each takes a blank or a token. -/
def scanFrom : Nat → Input → Option (List Token)
  | _, [] => some []
  | 0, _ :: _ => none
  | fuel + 1, c :: rest =>
    if c.any isGap then scanFrom fuel rest
    else do
      let (t, rest) ← token? (c :: rest)
      let ts ← scanFrom fuel rest
      return t :: ts

/-- The tokens of an input. No token is empty, so as many steps as symbols are enough. -/
def scan? (input : Input) : Option (List Token) :=
  scanFrom input.length input

end Token

end HexWorld.Json
