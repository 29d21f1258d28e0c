import HexWorld.Text.CaseTable

/-!
# Lower case

The lower-case form of a text by the full Unicode mapping: one character may become two, and a
capital sigma at the end of a word becomes the final sigma.

## Contents
- `lowerChar`, the form of a character by itself.
- `endsWord`, which capital sigmas are final.
- `lowercase`, the form of a text.
-/

namespace HexWorld.Text

/-- The lower-case form of a character by itself. The dotted capital I keeps its dot as a mark. -/
def lowerChar (c : Char) : List Char :=
  let n := c.toNat
  if n < 0x80 then [c.toLower]
  else if n == 0x130 then ['i', Char.ofNat 0x307]
  else
    let holds (run : LowerRun) : Bool :=
      run.first ≤ n && n ≤ run.last && (n - run.first) % run.step == 0
    match lowerRuns.find? holds with
    | some run => [Char.ofNat ((n : Int) + run.shift).toNat]
    | none => [c]

/-- Whether a cased letter comes first once the characters that words ignore are skipped. -/
def meetsCased (text : List Char) : Bool :=
  let among (ranges : List (Nat × Nat)) (c : Char) : Bool :=
    ranges.any fun (lo, hi) => lo ≤ c.toNat && c.toNat ≤ hi
  match text.dropWhile (among caseIgnorableRanges) with
  | [] => false
  | c :: _ => among casedRanges c

/-- A sigma between `before` (nearest character first) and `after` ends its word. -/
def endsWord (before after : List Char) : Bool :=
  meetsCased before && !meetsCased after

/-- The lower-case form of the characters that follow `before`, which is kept nearest first. -/
def lowercaseAfter (before : List Char) : List Char → List Char
  | [] => []
  | c :: after =>
    (if c == 'Σ' then [if endsWord before after then 'ς' else 'σ'] else lowerChar c) ++
      lowercaseAfter (c :: before) after

/-- The lower-case form of a text. -/
def lowercase (text : List Char) : List Char :=
  lowercaseAfter [] text

end HexWorld.Text
