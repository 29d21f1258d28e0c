import HexWorld.Yaml.Scalar

/-!
# Tokens of a YAML text

Indentation becomes tokens of its own: a block collection begins where a line is indented further,
and ends where one is indented less. Whether a scalar is a key shows only at the colon after it, so
a place where a key may have begun is remembered, and the key's token is put in there later.

## Contents
- `Token`.
- `PossibleKey`, `Scanner`: a text partly read.
- `Scanner.step`, one token or several; `Token.scan?`, all tokens of a text.
-/

namespace HexWorld.Yaml

inductive Token where
  | version (major minor : Nat)
  | tagDirective (handle leading : List Char)
  | documentStart
  | documentEnd
  | blockSequenceStart
  | blockMappingStart
  | blockEnd
  | flowSequenceStart
  | flowSequenceEnd
  | flowMappingStart
  | flowMappingEnd
  | blockEntry
  | flowEntry
  | key
  | value
  | alias (name : List Char)
  | anchor (name : List Char)
  | tag (handle suffix : List Char)
  | scalar (style : Style) (text : List Char)
  | streamEnd
  deriving DecidableEq

/-- A place where a key may have begun: which token it would be, and where it stands. A required key
is the only thing that can stand there. -/
structure PossibleKey where
  required : Bool
  position : Nat
  index : Nat
  line : Nat
  column : Nat

/-- A text partly read. `keys` has an element for the block context and one for each open flow
collection, innermost first. -/
structure Scanner where
  cursor : Cursor
  tokens : List Token
  indent : Int
  outerIndents : List Int
  keyAllowed : Bool
  keys : List (Option PossibleKey)

namespace Scanner

def start (text : List Char) : Scanner :=
  ⟨.start text, [], -1, [], true, [none]⟩

/-- Whether the place is inside a flow collection. -/
def inFlow (s : Scanner) : Bool :=
  1 < s.keys.length

/-- The innermost possible key. -/
def possibleKey (s : Scanner) : Option PossibleKey :=
  s.keys.headD none

def setPossibleKey (key : Option PossibleKey) (s : Scanner) : Scanner :=
  { s with keys := key :: s.keys.tail }

def append (t : Token) (s : Scanner) : Scanner :=
  { s with tokens := s.tokens ++ [t] }

/-- Puts a token before the one at a position. -/
def insertAt (position : Nat) (t : Token) (s : Scanner) : Scanner :=
  { s with tokens := s.tokens.take position ++ t :: s.tokens.drop position }

def moveTo (c : Cursor) (s : Scanner) : Scanner :=
  { s with cursor := c }

/-- Past `n` characters, which are the token `t`. -/
def take (n : Nat) (t : Token) (s : Scanner) : Scanner :=
  (s.moveTo (s.cursor.skip n)).append t

/-! ## Indentation -/

/-- Ends the block collections that are indented further than `column`. -/
def unrollFrom (column : Int) : List Int → Scanner → Scanner
  | [], s => s
  | outer :: more, s =>
    if column < s.indent then
      unrollFrom column more (({ s with indent := outer, outerIndents := more }).append .blockEnd)
    else s

/-- Ends the block collections that are indented further than `column`. Flow collections are not
indented. -/
def unroll (column : Int) (s : Scanner) : Scanner :=
  if s.inFlow then s else unrollFrom column s.outerIndents s

/-- Begins a block collection if `column` is indented further, with its token at a position. -/
def roll (column : Nat) (position : Nat) (t : Token) (s : Scanner) : Scanner :=
  if !s.inFlow && s.indent < column then
    ({ s with indent := column, outerIndents := s.indent :: s.outerIndents }).insertAt position t
  else s

/-! ## Keys -/

/-- Forgets the possible key. A required one cannot be forgotten. -/
def dropKey (s : Scanner) : Option Scanner :=
  if s.possibleKey.any (·.required) then none else some (s.setPossibleKey none)

/-- Remembers that a key may begin here. -/
def saveKey (s : Scanner) : Option Scanner :=
  if s.keyAllowed then do
    let required := !s.inFlow && s.indent == s.cursor.column
    let s ← s.dropKey
    return s.setPossibleKey <| some
      ⟨required, s.tokens.length, s.cursor.index, s.cursor.line, s.cursor.column⟩
  else some s

/-- The possible key, if its colon may still follow: on the same line and not too far away. -/
def currentKey? (s : Scanner) : Option (Option PossibleKey) :=
  match s.possibleKey with
  | none => some none
  | some key =>
    if key.line < s.cursor.line || key.index + 1024 < s.cursor.index then
      if key.required then none else some none
    else some (some key)

/-! ## Between tokens -/

/-- Skips blanks, comments and line breaks. A tab is no blank where a key may begin, and a new line
of the block context is such a place. -/
def toNextToken : Nat → Scanner → Scanner
  | 0, s => s
  | fuel + 1, s =>
    let c := s.cursor
    let c := if c.index == 0 && c.isAt 0 (· == byteOrderMark) then c.skip 1 else c
    let tabs := s.inFlow || !s.keyAllowed
    let (_, c) := c.run fun d => d == ' ' || (tabs && d == '\t')
    let (_, c) := if c.isAt 0 (· == '#') then c.run (fun d => !isBreak d) else ([], c)
    match c.lineBreak? with
    | some (_, cursor) =>
      toNextToken fuel { s with cursor, keyAllowed := s.keyAllowed || !s.inFlow }
    | none => s.moveTo c

/-! ## Directives, anchors and tags -/

/-- The characters of a tag; a percent sign begins an escaped byte, which is left as it is. -/
def isTagChar (uri : Bool) (d : Char) : Bool :=
  isWordChar d || ";/?:@&=+$.%!~*'()".toList.contains d ||
    (uri && (d == ',' || d == '[' || d == ']'))

/-- A handle: an exclamation mark, alone or around a word. A handle of one mark only takes the word
along. -/
def tagHandle? (c : Cursor) : Option (List Char × Cursor) := do
  guard (c.isAt 0 (· == '!'))
  let (word, after) := (c.skip 1).run isWordChar
  if after.isAt 0 (· == '!') then return ('!' :: word ++ ['!'], after.skip 1)
  else return ('!' :: word, after)

/-- A tag: verbatim, with a handle, or local. -/
def tag? (c : Cursor) : Option (List Char × List Char × Cursor) :=
  if c.isAt 1 (· == '<') then
    let (suffix, after) := (c.skip 2).run (isTagChar true)
    if suffix.isEmpty || !after.isAt 0 (· == '>') then none else some ([], suffix, after.skip 1)
  else do
    let (handle, after) ← tagHandle? c
    if 1 < handle.length && handle.getLast? == some '!' then
      let (suffix, after) := after.run (isTagChar false)
      guard !suffix.isEmpty
      return (handle, suffix, after)
    else
      let (more, after) := after.run (isTagChar false)
      let suffix := handle.tail ++ more
      if suffix.isEmpty then return ([], ['!'], after) else return (['!'], suffix, after)

/-- The number at the front of a version. -/
def versionNumber? (c : Cursor) : Option (Nat × Cursor) :=
  let (digits, after) := c.run Char.isDigit
  if digits.isEmpty || 9 < digits.length then none
  else some (Decimal.ofDigits (digits.map fun d => d.toNat - '0'.toNat), after)

/-- A directive, from its percent sign. -/
def directive? (c : Cursor) : Option (Token × Cursor) := do
  let (name, c) := (c.skip 1).run isWordChar
  guard (!name.isEmpty && c.endsAt 0)
  let (_, c) := c.run isBlank
  let (t, c) ←
    if name = "YAML".toList then do
      let (major, c) ← versionNumber? c
      guard (c.isAt 0 (· == '.'))
      let (minor, c) ← versionNumber? (c.skip 1)
      pure (Token.version major minor, c)
    else if name = "TAG".toList then do
      let (handle, c) ← tagHandle? c
      guard (handle.length = 1 ∨ handle.getLast? = some '!')
      guard (c.isAt 0 isBlank)
      let (_, c) := c.run isBlank
      let (leading, c) := c.run (isTagChar true)
      guard (!leading.isEmpty && c.endsAt 0)
      pure (.tagDirective handle leading, c)
    else none
  let (_, c) := c.run isBlank
  let (_, c) := if c.isAt 0 (· == '#') then c.run (fun d => !isBreak d) else ([], c)
  guard c.lineEnds
  return (t, (c.lineBreak?.map (·.2)).getD c)

/-- The name after the mark of an anchor or alias. -/
def anchorName? (c : Cursor) : Option (List Char × Cursor) :=
  let (name, after) := (c.skip 1).run isWordChar
  if !name.isEmpty && (after.endsAt 0 || after.isAt 0 fun d => "?:,]\x7d%@`".toList.contains d) then
    some (name, after)
  else none

/-! ## Tokens -/

/-- Ends all block collections and forgets the possible key, as at the end of a document. -/
def closeBlocks (s : Scanner) : Option Scanner := do
  let s ← (s.unroll (-1)).dropKey
  return { s with keyAllowed := false }

def openFlow (t : Token) (s : Scanner) : Option Scanner := do
  let s ← s.saveKey
  return ({ s with keys := none :: s.keys, keyAllowed := true }).take 1 t

def closeFlow (t : Token) (s : Scanner) : Option Scanner := do
  let s ← s.dropKey
  let keys := if s.inFlow then s.keys.tail else s.keys
  return ({ s with keys, keyAllowed := false }).take 1 t

/-- The dash of a block sequence. In a flow collection it is left to the grammar to refuse it. -/
def dash (s : Scanner) : Option Scanner := do
  guard (s.inFlow || s.keyAllowed)
  let s ← (s.roll s.cursor.column s.tokens.length .blockSequenceStart).dropKey
  return ({ s with keyAllowed := true }).take 1 .blockEntry

/-- The question mark before a key of any form. -/
def explicitKey (s : Scanner) : Option Scanner := do
  guard (s.inFlow || s.keyAllowed)
  let s ← (s.roll s.cursor.column s.tokens.length .blockMappingStart).dropKey
  return ({ s with keyAllowed := !s.inFlow }).take 1 .key

/-- The colon before a value. What may have been a key now is one; otherwise the value belongs to an
explicit key, or to none. -/
def colon (s : Scanner) : Option Scanner := do
  match ← s.currentKey? with
  | some key =>
    let s := (s.insertAt key.position .key).roll key.column key.position .blockMappingStart
    return ({ s.setPossibleKey none with keyAllowed := false }).take 1 .value
  | none =>
    guard (s.inFlow || s.keyAllowed)
    let s := (s.setPossibleKey none).roll s.cursor.column s.tokens.length .blockMappingStart
    return ({ s with keyAllowed := !s.inFlow }).take 1 .value

/-- A token that may be a key and after which none can begin. -/
def node (read : Cursor → Option (Token × Cursor)) (s : Scanner) : Option Scanner := do
  let s ← s.saveKey
  let (t, c) ← read s.cursor
  return ({ s with keyAllowed := false, cursor := c }).append t

def blockScalar (literal : Bool) (s : Scanner) : Option Scanner := do
  let s ← s.dropKey
  let (text, c) ← blockScalar? literal s.indent s.cursor
  let style : Style := if literal then .literal else .folded
  return ({ s with keyAllowed := true, cursor := c }).append (.scalar style text)

def plainScalar (s : Scanner) : Option Scanner := do
  let s ← s.saveKey
  let (text, broken, c) ← plainScalar? s.inFlow (s.indent + 1).toNat s.cursor
  return ({ s with keyAllowed := broken, cursor := c }).append (.scalar .plain text)

/-- Whether a plain scalar may begin here. -/
def beginsPlain (s : Scanner) (d : Char) : Bool :=
  let c := s.cursor
  if d == '-' then !c.isAt 1 isBlank
  else if d == '?' || d == ':' then !s.inFlow && !c.endsAt 1
  else !",[]\x7b\x7d#&*!|>'\"%@`".toList.contains d && !isBlank d && !isBreak d

/-- Reads at the beginning of a token. The flag tells that the text is at its end. -/
def token (s : Scanner) : Option (Bool × Scanner) :=
  let more (r : Option Scanner) : Option (Bool × Scanner) := r.map (false, ·)
  let c := s.cursor
  match c.next with
  | none => do
    let s ← s.closeBlocks
    return (true, s.append .streamEnd)
  | some d =>
    if c.column == 0 && d == '%' then more do
      let s ← s.closeBlocks
      let (t, c) ← directive? s.cursor
      return (s.moveTo c).append t
    else if c.isMarker '-' then more (s.closeBlocks.map (·.take 3 .documentStart))
    else if c.isMarker '.' then more (s.closeBlocks.map (·.take 3 .documentEnd))
    else if d == '[' then more (s.openFlow .flowSequenceStart)
    else if d == '\x7b' then more (s.openFlow .flowMappingStart)
    else if d == ']' then more (s.closeFlow .flowSequenceEnd)
    else if d == '\x7d' then more (s.closeFlow .flowMappingEnd)
    else if d == ',' then
      more (s.dropKey.map fun s => ({ s with keyAllowed := true }).take 1 .flowEntry)
    else if d == '-' && c.endsAt 1 then more s.dash
    else if d == '?' && (s.inFlow || c.endsAt 1) then more s.explicitKey
    else if d == ':' && (s.inFlow || c.endsAt 1) then more s.colon
    else if d == '*' then
      more (s.node fun c => (anchorName? c).map fun (name, c) => (.alias name, c))
    else if d == '&' then
      more (s.node fun c => (anchorName? c).map fun (name, c) => (.anchor name, c))
    else if d == '!' then more <| s.node fun c => do
      let (handle, suffix, c) ← tag? c
      guard (c.endsAt 0 || (s.inFlow && c.isAt 0 (· == ',')))
      return (.tag handle suffix, c)
    else if d == '|' && !s.inFlow then more (s.blockScalar true)
    else if d == '>' && !s.inFlow then more (s.blockScalar false)
    else if d == '\'' || d == '"' then more <| s.node fun c =>
      (quotedScalar? (d == '\'') c).map fun (text, c) => (.scalar .quoted text, c)
    else if s.beginsPlain d then more s.plainScalar
    else none

/-- Reads up to the next token and through it. -/
def step (s : Scanner) : Option (Bool × Scanner) :=
  let s := s.toNextToken s.cursor.rest.length.succ
  (s.unroll s.cursor.column).token

/-- Reads to the end. -/
def run : Nat → Scanner → Option (List Token)
  | 0, _ => none
  | fuel + 1, s =>
    match s.step with
    | none => none
    | some (true, s) => some s.tokens
    | some (false, s) => run fuel s

end Scanner

/-- The tokens of a text. A byte order mark may begin it, and no control characters may occur. Each
step but the last takes a character at least. -/
def Token.scan? (text : List Char) : Option (List Token) :=
  let text := match text with
    | '\ufeff' :: rest => rest
    | text => text
  if text.all isAllowed then Scanner.run text.length.succ (.start text) else none

end HexWorld.Yaml
