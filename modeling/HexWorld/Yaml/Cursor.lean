/-!
# Places in a YAML text

## Contents
- Classes of characters: breaks, blanks, characters of names and of tags.
- `Cursor`, a place with what follows it; `Cursor.skip`, `Cursor.lineBreak?` and the runs built on
  them.
-/

namespace HexWorld.Yaml

/-! ## Characters -/

/-- A line break. -/
def isBreak (c : Char) : Bool :=
  c == '\n' || c == '\r' || c == '\x85' || c == '\u2028' || c == '\u2029'

/-- A space or tab. -/
def isBlank (c : Char) : Bool :=
  c == ' ' || c == '\t'

/-- A character of the name of an anchor. -/
def isWordChar (c : Char) : Bool :=
  c.isAlphanum || c == '_' || c == '-'

/-- Whether a text may hold the character. -/
def isAllowed (c : Char) : Bool :=
  let n := c.toNat
  n == 0x09 || n == 0x0A || n == 0x0D || (0x20 ≤ n && n ≤ 0x7E) || n == 0x85 ||
    (0xA0 ≤ n && n ≤ 0xD7FF) || (0xE000 ≤ n && n ≤ 0xFFFD) || 0x10000 ≤ n

/-- The byte order mark. -/
def byteOrderMark : Char := '\ufeff'

/-! ## Places -/

/-- A place in a text: what follows, and how many characters, lines and columns lie before. -/
structure Cursor where
  rest : List Char
  index : Nat
  line : Nat
  column : Nat

namespace Cursor

/-- The beginning of a text. -/
def start (text : List Char) : Cursor := ⟨text, 0, 0, 0⟩

/-- The character `n` places ahead. -/
def ahead (c : Cursor) (n : Nat) : Option Char :=
  c.rest[n]?

def next (c : Cursor) : Option Char :=
  c.rest.head?

/-- Whether the character `n` places ahead is one of those that `p` accepts. -/
def isAt (c : Cursor) (n : Nat) (p : Char → Bool) : Bool :=
  (c.ahead n).any p

/-- Whether the text, the line or the word ends `n` places ahead. -/
def endsAt (c : Cursor) (n : Nat) : Bool :=
  (c.ahead n).all fun d => isBlank d || isBreak d

/-- Whether the text or the line ends here. -/
def lineEnds (c : Cursor) : Bool :=
  c.next.all isBreak

/-- Past `n` characters of one line. -/
def skip (c : Cursor) (n : Nat) : Cursor :=
  { c with rest := c.rest.drop n, index := c.index + n, column := c.column + n }

/-- The run of characters of one line that `p` accepts, and the place after it. -/
def run (p : Char → Bool) (c : Cursor) : List Char × Cursor :=
  let found := c.rest.takeWhile p
  (found, c.skip found.length)

/-- Past a line break, with the character that it counts as: the break of a paragraph or line stays
what it is, and any other is a line feed. -/
def lineBreak? (c : Cursor) : Option (Char × Cursor) :=
  let past (n : Nat) (rest : List Char) : Cursor := ⟨rest, c.index + n, c.line + 1, 0⟩
  match c.rest with
  | '\r' :: '\n' :: rest => some ('\n', past 2 rest)
  | d :: rest =>
    if isBreak d then
      some (if d == '\u2028' || d == '\u2029' then d else '\n', past 1 rest)
    else none
  | [] => none

/-- Whether a document marker stands here: three of a character at the beginning of a line. -/
def isMarker (c : Cursor) (mark : Char) : Bool :=
  c.column == 0 && c.rest.take 3 == [mark, mark, mark] && c.endsAt 3

/-- Whether a document begins or ends here. -/
def isDocumentMarker (c : Cursor) : Bool :=
  c.isMarker '-' || c.isMarker '.'

end Cursor

/-! ## Folding -/

/-- Lines and blanks between two words of a scalar that may be folded. -/
structure Gap where
  blanks : List Char
  firstBreak : Option Char
  moreBreaks : List Char

namespace Gap

def none : Gap := ⟨[], .none, []⟩

/-- The text of a gap: blanks stay within a line, a single line feed becomes a space, and of several
all but the first stay. -/
def fold (g : Gap) (broken : Bool) : List Char :=
  if !broken then g.blanks
  else
    match g.firstBreak with
    | some '\n' => if g.moreBreaks.isEmpty then [' '] else g.moreBreaks
    | some d => d :: g.moreBreaks
    | .none => g.moreBreaks

end Gap

end HexWorld.Yaml
