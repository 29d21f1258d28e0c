import HexWorld.Json.Token
import HexWorld.Yaml.Cursor

/-!
# Scalars of a YAML text

The texts of plain, quoted and block scalars, read from the place where each begins.

## Contents
- `Style`, how a scalar was written.
- `quotedScalar?`, between single or double quotes, over several lines.
- `plainScalar?`, without quotes.
- `blockScalar?`, lines below a `|` or `>`.

Every loop takes at least one character per round, so the length of the text bounds the rounds.
-/

namespace HexWorld.Yaml

/-- How a scalar was written. -/
inductive Style where
  | plain
  | quoted
  | literal
  | folded
  deriving DecidableEq

/-! ## Quoted scalars -/

/-- The character of a short escape. -/
def shortEscape? : Char → Option Char
  | '0' => some '\x00'
  | 'a' => some '\x07'
  | 'b' => some '\x08'
  | 't' => some '\t'
  | '\t' => some '\t'
  | 'n' => some '\n'
  | 'v' => some '\x0b'
  | 'f' => some '\x0c'
  | 'r' => some '\r'
  | 'e' => some '\x1b'
  | ' ' => some ' '
  | '"' => some '"'
  | '/' => some '/'
  | '\\' => some '\\'
  | 'N' => some '\x85'
  | '_' => some '\xa0'
  | 'L' => some '\u2028'
  | 'P' => some '\u2029'
  | _ => none

/-- The number of hexadecimal digits after a long escape. -/
def escapeLength? : Char → Option Nat
  | 'x' => some 2
  | 'u' => some 4
  | 'U' => some 8
  | _ => none

/-- The character that hexadecimal digits write. -/
def hexChar? (digits : List Char) : Option Char := do
  let values ← digits.mapM Json.hexValue?
  let n := values.foldl (fun n d => n * 16 + d) 0
  if h : n.isValidChar then some (Char.ofNatAux n h) else none

/-- An escape, from its backslash. -/
def escape? (c : Cursor) : Option (Char × Cursor) := do
  let mark ← c.ahead 1
  match escapeLength? mark with
  | some n =>
    let digits := (c.rest.drop 2).take n
    guard (digits.length = n)
    return (← hexChar? digits, c.skip (2 + n))
  | none => return (← shortEscape? mark, c.skip 2)

/-- The characters up to a blank, a break or the closing quote. The flag tells that a backslash
before a line break ended them, which joins the lines. -/
def quotedRun (single : Bool) : Nat → Cursor → Option (List Char × Bool × Cursor)
  | 0, _ => none
  | fuel + 1, c =>
    let next (d : Char) (c : Cursor) : Option (List Char × Bool × Cursor) := do
      let (text, joined, c) ← quotedRun single fuel c
      return (d :: text, joined, c)
    match c.next with
    | none => some ([], false, c)
    | some d =>
      if isBlank d || isBreak d then some ([], false, c)
      else if single then
        if d == '\'' then
          if c.isAt 1 (· == '\'') then next '\'' (c.skip 2) else some ([], false, c)
        else next d (c.skip 1)
      else if d == '"' then some ([], false, c)
      else if d == '\\' then
        if c.isAt 1 isBreak then do
          let (_, c) ← (c.skip 1).lineBreak?
          return ([], true, c)
        else do
          let (d, c) ← escape? c
          next d c
      else next d (c.skip 1)

/-- The blanks and breaks before the next word. Blanks after a break are indentation. -/
def quotedGap : Nat → Gap → Bool → Cursor → Gap × Bool × Cursor
  | 0, g, broken, c => (g, broken, c)
  | fuel + 1, g, broken, c =>
    match c.lineBreak? with
    | some (d, after) =>
      if broken then quotedGap fuel { g with moreBreaks := g.moreBreaks ++ [d] } true after
      else quotedGap fuel { g with blanks := [], firstBreak := some d } true after
    | none =>
      match c.next with
      | some d =>
        if isBlank d then
          let g := if broken then g else { g with blanks := g.blanks ++ [d] }
          quotedGap fuel g broken (c.skip 1)
        else (g, broken, c)
      | none => (g, broken, c)

/-- The rest of a quoted scalar, past its closing quote. A document marker may not stand inside. -/
def quotedRest (single : Bool) : Nat → Cursor → Option (List Char × Cursor)
  | 0, _ => none
  | fuel + 1, c =>
    if c.isDocumentMarker then none
    else do
      let (word, joined, c) ← quotedRun single c.rest.length.succ c
      if c.isAt 0 (· == if single then '\'' else '"') then return (word, c.skip 1)
      guard c.next.isSome
      let (gap, broken, c) := quotedGap c.rest.length .none joined c
      let (more, c) ← quotedRest single fuel c
      return (word ++ gap.fold broken ++ more, c)

/-- A quoted scalar, from its opening quote. -/
def quotedScalar? (single : Bool) (c : Cursor) : Option (List Char × Cursor) :=
  quotedRest single c.rest.length (c.skip 1)

/-! ## Plain scalars -/

/-- Whether a character ends a plain scalar of a flow collection. -/
def isFlowEnd (c : Char) : Bool :=
  c == ',' || c == '[' || c == ']' || c == '\x7b' || c == '\x7d'

/-- The characters of a word. Inside a flow collection a colon may not stand before another
indicator. -/
def plainRun (flow : Bool) : Nat → Cursor → Option (List Char × Cursor)
  | 0, c => some ([], c)
  | fuel + 1, c =>
    if c.endsAt 0 then some ([], c)
    else if flow && c.isAt 0 (· == ':') && c.isAt 1 (fun d => isFlowEnd d || d == '?') then none
    else if (c.isAt 0 (· == ':') && c.endsAt 1) || (flow && c.isAt 0 isFlowEnd) then some ([], c)
    else do
      let (word, after) ← plainRun flow fuel (c.skip 1)
      return (c.rest.take 1 ++ word, after)

/-- The blanks and breaks after a word. A tab may not stand in the indentation. -/
def plainGap (indent : Nat) : Nat → Gap → Bool → Cursor → Option (Gap × Bool × Cursor)
  | 0, g, broken, c => some (g, broken, c)
  | fuel + 1, g, broken, c =>
    match c.lineBreak? with
    | some (d, after) =>
      if broken then plainGap indent fuel { g with moreBreaks := g.moreBreaks ++ [d] } true after
      else plainGap indent fuel { g with blanks := [], firstBreak := some d } true after
    | none =>
      match c.next with
      | some d =>
        if !isBlank d then some (g, broken, c)
        else if broken && c.column < indent && d == '\t' then none
        else plainGap indent fuel
          (if broken then g else { g with blanks := g.blanks ++ [d] }) broken (c.skip 1)
      | none => some (g, broken, c)

/-- The rest of a plain scalar. `lead` is the gap before, which belongs to the scalar only if a word
follows. The flag tells that lines were left behind at the end. -/
def plainRest (flow : Bool) (indent : Nat) :
    Nat → Gap → Bool → Cursor → Option (List Char × Bool × Cursor)
  | 0, _, broken, c => some ([], broken, c)
  | fuel + 1, lead, broken, c =>
    if c.isDocumentMarker || c.isAt 0 (· == '#') then some ([], broken, c)
    else do
      let (word, c) ← plainRun flow c.rest.length c
      let (text, lead, broken) :=
        if word.isEmpty then ([], lead, broken) else (lead.fold broken ++ word, .none, false)
      if !c.endsAt 0 || c.next.isNone then return (text, broken, c)
      let (gap, broken, c) ← plainGap indent c.rest.length lead broken c
      if !flow && c.column < indent then return (text, broken, c)
      let (more, broken, c) ← plainRest flow indent fuel gap broken c
      return (text ++ more, broken, c)

/-- A plain scalar inside a collection indented by `indent`, and whether lines were left behind. -/
def plainScalar? (flow : Bool) (indent : Nat) (c : Cursor) : Option (List Char × Bool × Cursor) :=
  plainRest flow indent c.rest.length.succ .none false c

/-! ## Block scalars -/

/-- What happens to the breaks at the end. -/
inductive Chomping where
  | strip
  | clip
  | keep
  deriving DecidableEq

/-- The chomping that a sign asks for. -/
def chomping? : Char → Option Chomping
  | '+' => some .keep
  | '-' => some .strip
  | _ => none

/-- An indentation from one to nine. -/
def indicator? (d : Char) : Option Nat :=
  if '1' ≤ d ∧ d ≤ '9' then some (d.toNat - '0'.toNat) else none

/-- The sign and the indentation after the mark of a block scalar, in either order. -/
def blockHeader (c : Cursor) : Option (Chomping × Option Nat × Cursor) :=
  match c.next.bind chomping? with
  | some chomping =>
    let c := c.skip 1
    if c.isAt 0 Char.isDigit then do
      let n ← c.next.bind indicator?
      return (chomping, some n, c.skip 1)
    else some (chomping, none, c)
  | none =>
    if c.isAt 0 Char.isDigit then do
      let n ← c.next.bind indicator?
      let c := c.skip 1
      match c.next.bind chomping? with
      | some chomping => return (chomping, some n, c.skip 1)
      | none => return (.clip, some n, c)
    else some (.clip, none, c)

/-- The empty lines before a line with content, and the greatest column among them. Without a known
indentation all spaces are skipped; a tab may not stand in it. -/
def blockBreaks (indent : Option Nat) :
    Nat → List Char → Nat → Cursor → Option (List Char × Nat × Cursor)
  | 0, breaks, greatest, c => some (breaks, greatest, c)
  | fuel + 1, breaks, greatest, c =>
    let within (column : Nat) : Bool := indent.all (column < ·)
    let spaces := (c.rest.takeWhile (· == ' ')).length
    let c := c.skip (match indent with
      | none => spaces
      | some n => min spaces (n - c.column))
    let greatest := max greatest c.column
    if within c.column && c.isAt 0 (· == '\t') then none
    else
      match c.lineBreak? with
      | some (d, c) => blockBreaks indent fuel (breaks ++ [d]) greatest c
      | none => some (breaks, greatest, c)

/-- The lines of a block scalar. A folded scalar turns the break between two lines that do not
begin with a blank into a space, or drops it if empty lines follow. `pending` is the break at the
end of the last line, and `breaks` are the empty lines after it. -/
def blockLines (literal : Bool) (indent : Nat) :
    Nat → Option Char → List Char → Bool → Cursor →
      Option (List Char × Option Char × List Char × Cursor)
  | 0, pending, breaks, _, c => some ([], pending, breaks, c)
  | fuel + 1, pending, breaks, leadingBlank, c =>
    if c.column != indent || c.next.isNone then some ([], pending, breaks, c)
    else do
      let blank := c.isAt 0 isBlank
      let join : List Char :=
        if !literal && pending == some '\n' && !leadingBlank && !blank then
          if breaks.isEmpty then [' '] else []
        else pending.toList
      let (line, c) := c.run fun d => !isBreak d
      let (pending, c) := match c.lineBreak? with
        | some (d, c) => (some d, c)
        | none => (none, c)
      let (next, _, c) ← blockBreaks (some indent) c.rest.length.succ [] 0 c
      let (text, rest) ← blockLines literal indent fuel pending next blank c
      return (join ++ breaks ++ line ++ text, rest)

/-- A block scalar, from its mark, inside a collection indented by `parent`. -/
def blockScalar? (literal : Bool) (parent : Int) (c : Cursor) : Option (List Char × Cursor) := do
  let (chomping, increment, c) ← blockHeader (c.skip 1)
  let (_, c) := c.run isBlank
  let (_, c) := if c.isAt 0 (· == '#') then c.run (fun d => !isBreak d) else ([], c)
  guard c.lineEnds
  let c := (c.lineBreak?.map (·.2)).getD c
  let known := increment.map fun n => (max parent 0).toNat + n
  let (breaks, greatest, c) ← blockBreaks known c.rest.length.succ [] 0 c
  let indent := known.getD (max (max greatest (parent + 1).toNat) 1)
  let (text, pending, breaks, c) ← blockLines literal indent c.rest.length.succ none breaks false c
  let tail : List Char := match chomping with
    | .strip => []
    | .clip => pending.toList
    | .keep => pending.toList ++ breaks
  return (text ++ tail, c)

end HexWorld.Yaml
