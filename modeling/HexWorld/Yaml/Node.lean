import HexWorld.Yaml.Token

/-!
# Nodes of a YAML document

The tree that the tokens of a text stand for. An alias is the node that its anchor named last;
inside that node itself it is no finished node.

## Contents
- `Node`.
- `Reading`, the tokens that are left with the anchors and tag handles in force.
- `Reading.node?` and its companions, one for each kind of collection.
- `Document.ofText?`, the one document of a text.
-/

namespace HexWorld.Yaml

inductive Node where
  | scalar (style : Style) (tag : Option (List Char)) (text : List Char)
  | sequence (items : List Node)
  | mapping (members : List (Node × Node))
  | unfinished
  deriving Inhabited

/-- A node of which nothing is written. -/
def Node.absent : Node := .scalar .plain none []

/-- Tokens still to be read. Anchors are kept latest first, with their nodes once these are
finished. -/
structure Reading where
  tokens : List Token
  anchors : List (List Char × Option Node)
  handles : List (List Char × List Char)

namespace Reading

def next (r : Reading) : Token :=
  r.tokens.headD .streamEnd

def skip (r : Reading) : Reading :=
  { r with tokens := r.tokens.tail }

/-! ## Properties of a node -/

/-- The full form of a tag. -/
def resolveTag? (r : Reading) (handle suffix : List Char) : Option (List Char) :=
  if handle.isEmpty then some suffix
  else (r.handles.lookup handle).map (· ++ suffix)

/-- An anchor and a tag, in either order, each at most once. -/
def properties? (r : Reading) : Option (Option (List Char) × Option (List Char) × Reading) :=
  match r.next with
  | .anchor name =>
    let r := r.skip
    match r.next with
    | .tag handle suffix => do return (some name, some (← r.resolveTag? handle suffix), r.skip)
    | _ => some (some name, none, r)
  | .tag handle suffix => do
    let tag ← r.resolveTag? handle suffix
    let r := r.skip
    match r.next with
    | .anchor name => return (some name, some tag, r.skip)
    | _ => return (none, some tag, r)
  | _ => some (none, none, r)

/-- Opens an anchor, and gives its place counted from the oldest. -/
def openAnchor (name : List Char) (r : Reading) : Nat × Reading :=
  (r.anchors.length, { r with anchors := (name, none) :: r.anchors })

/-- Gives an opened anchor its node. -/
def closeAnchor (name : List Char) (place : Nat) (n : Node) (r : Reading) : Reading :=
  { r with anchors := r.anchors.set (r.anchors.length - 1 - place) (name, some n) }

/-! ## Nodes -/

/-- What may stand at a place: any node, also a sequence without indentation of its own, or only the
nodes of flow collections. -/
inductive Place where
  | block
  | member
  | flow
  deriving DecidableEq

mutual
/-- A node with its properties. -/
def node? : Nat → Place → Reading → Option (Node × Reading)
  | 0, _, _ => none
  | fuel + 1, place, r =>
    match r.next with
    | .alias name => do
      let found ← r.anchors.lookup name
      return (found.getD .unfinished, r.skip)
    | _ => do
      let (anchor, tag, r) ← r.properties?
      match anchor with
      | none => content? fuel place (tag.isSome) tag r
      | some name =>
        let (index, r) := r.openAnchor name
        let (n, r) ← content? fuel place true tag r
        return (n, r.closeAnchor name index n)

/-- The content of a node. After a property it may be absent. -/
def content? : Nat → Place → Bool → Option (List Char) → Reading → Option (Node × Reading)
  | 0, _, _, _, _ => none
  | fuel + 1, place, mayBeAbsent, tag, r =>
    match r.next, place with
    | .blockEntry, .member => plainItems? fuel [] r
    | .scalar style text, _ => some (.scalar style tag text, r.skip)
    | .flowSequenceStart, _ => flowItems? fuel true [] r.skip
    | .flowMappingStart, _ => flowMembers? fuel true [] r.skip
    | .blockSequenceStart, .block | .blockSequenceStart, .member => blockItems? fuel [] r.skip
    | .blockMappingStart, .block | .blockMappingStart, .member => blockMembers? fuel [] r.skip
    | _, _ => if mayBeAbsent then some (.scalar .plain tag [], r) else none

/-- The items of a block sequence, up to its end. -/
def blockItems? : Nat → List Node → Reading → Option (Node × Reading)
  | 0, _, _ => none
  | fuel + 1, done, r =>
    match r.next with
    | .blockEntry =>
      let r := r.skip
      match r.next with
      | .blockEntry | .blockEnd => blockItems? fuel (.absent :: done) r
      | _ => do
        let (n, r) ← node? fuel .block r
        blockItems? fuel (n :: done) r
    | .blockEnd => some (.sequence done.reverse, r.skip)
    | _ => none

/-- The items of a sequence that is not indented further than the key before it. -/
def plainItems? : Nat → List Node → Reading → Option (Node × Reading)
  | 0, _, _ => none
  | fuel + 1, done, r =>
    match r.next with
    | .blockEntry =>
      let r := r.skip
      match r.next with
      | .blockEntry | .key | .value | .blockEnd => plainItems? fuel (.absent :: done) r
      | _ => do
        let (n, r) ← node? fuel .block r
        plainItems? fuel (n :: done) r
    | _ => some (.sequence done.reverse, r)

/-- A key or value of a block mapping, which is absent before the next one. -/
def blockPart? : Nat → Reading → Option (Node × Reading)
  | 0, _ => none
  | fuel + 1, r =>
    match r.next with
    | .key | .value | .blockEnd => some (.absent, r)
    | _ => node? fuel .member r

/-- The members of a block mapping, up to its end. -/
def blockMembers? : Nat → List (Node × Node) → Reading → Option (Node × Reading)
  | 0, _, _ => none
  | fuel + 1, done, r =>
    match r.next with
    | .key => do
      let (k, r) ← blockPart? fuel r.skip
      if r.next = .value then
        let (v, r) ← blockPart? fuel r.skip
        blockMembers? fuel ((k, v) :: done) r
      else blockMembers? fuel ((k, .absent) :: done) r
    | .blockEnd => some (.mapping done.reverse, r.skip)
    | _ => none

/-- The value after a key of a flow collection. -/
def flowValue? : Nat → Token → Reading → Option (Node × Reading)
  | 0, _, _ => none
  | fuel + 1, close, r =>
    if r.next = .value then
      let r := r.skip
      if r.next = .flowEntry ∨ r.next = close then some (.absent, r) else node? fuel .flow r
    else some (.absent, r)

/-- The items of a flow sequence, up to its end. A key makes an item a mapping of one member. -/
def flowItems? : Nat → Bool → List Node → Reading → Option (Node × Reading)
  | 0, _, _, _ => none
  | fuel + 1, first, done, r =>
    if r.next = .flowSequenceEnd then some (.sequence done.reverse, r.skip)
    else do
      let r ← if first then some r else if r.next = .flowEntry then some r.skip else none
      match r.next with
      | .flowSequenceEnd => return (.sequence done.reverse, r.skip)
      | .key =>
        let r := r.skip
        let (k, r) ←
          match r.next with
          | .value | .flowEntry | .flowSequenceEnd => some (Node.absent, r.skip)
          | _ => node? fuel .flow r
        let (v, r) ← flowValue? fuel .flowSequenceEnd r
        flowItems? fuel false (.mapping [(k, v)] :: done) r
      | _ =>
        let (n, r) ← node? fuel .flow r
        flowItems? fuel false (n :: done) r

/-- The members of a flow mapping, up to its end. -/
def flowMembers? : Nat → Bool → List (Node × Node) → Reading → Option (Node × Reading)
  | 0, _, _, _ => none
  | fuel + 1, first, done, r =>
    if r.next = .flowMappingEnd then some (.mapping done.reverse, r.skip)
    else do
      let r ← if first then some r else if r.next = .flowEntry then some r.skip else none
      match r.next with
      | .flowMappingEnd => return (.mapping done.reverse, r.skip)
      | .key =>
        let r := r.skip
        let (k, r) ←
          match r.next with
          | .value | .flowEntry | .flowMappingEnd => some (Node.absent, r)
          | _ => node? fuel .flow r
        let (v, r) ← flowValue? fuel .flowMappingEnd r
        flowMembers? fuel false ((k, v) :: done) r
      | _ =>
        let (k, r) ← node? fuel .flow r
        flowMembers? fuel false ((k, .absent) :: done) r
end

/-! ## Documents -/

/-- The handles that need no directive. -/
def defaultHandles : List (List Char × List Char) :=
  [(['!'], ['!']), ("!!".toList, "tag:yaml.org,2002:".toList)]

/-- The directives before a document: a version at most once, and each handle at most once. -/
def directives? (versionSeen : Bool) (handles : List (List Char × List Char)) :
    List Token → Option (List (List Char × List Char) × List Token)
  | .version major minor :: rest =>
    if versionSeen || major ≠ 1 || (minor ≠ 1 && minor ≠ 2) then none
    else directives? true handles rest
  | .tagDirective handle leading :: rest =>
    if (handles.lookup handle).isSome then none
    else directives? versionSeen ((handle, leading) :: handles) rest
  | rest => some (handles, rest)

/-- The node of a document that may be absent. -/
def documentNode? (r : Reading) : Option (Node × Reading) :=
  match r.next with
  | .version .. | .tagDirective .. | .documentStart | .documentEnd | .streamEnd => some (.absent, r)
  | _ => node? (3 * r.tokens.length + 3) .block r

end Reading

namespace Document

/-- The document that a list of tokens begins with, if there is any, and the tokens after it. A
document begins with a marker if there are directives. -/
def first? (tokens : List Token) : Option (Option Node × List Token) := do
  let (handles, rest) ← Reading.directives? false [] tokens
  let directed := rest.length < tokens.length
  let reading (tokens : List Token) : Reading := ⟨tokens, [], handles ++ Reading.defaultHandles⟩
  match rest with
  | [.streamEnd] => if directed then none else return (none, rest)
  | .documentStart :: rest => do
    let (n, r) ← (reading rest).documentNode?
    return (some n, r.tokens)
  | rest =>
    if directed then none
    else do
      let r := reading rest
      let (n, r) ← r.node? (3 * rest.length + 3) .block
      return (some n, r.tokens)

/-- The one document of a text; without content, it is an absent node. After it only end markers may
stand. -/
def ofText? (text : List Char) : Option Node := do
  let (found, rest) ← first? (← Token.scan? text)
  let rest := rest.dropWhile (· = .documentEnd)
  guard (rest = [.streamEnd])
  return found.getD .absent

end Document

end HexWorld.Yaml
