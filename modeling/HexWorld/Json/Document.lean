import HexWorld.Text.Utf8
import HexWorld.Json.Token

/-!
# JSON documents

A document holds one value. The tokens of a value are read back into it by a machine that keeps the
containers still open, so that depth is no limit of its own.

## Contents
- `Value.tokens`, `Value.render`: a value written without blanks.
- `Frame`, `Expect`, `Assembly`: the reading machine; `Value.ofTokens?`.
- `Value.ofInput?`, `Value.ofBytes?`, `Value.ofString?`: reading a whole document.
-/

namespace HexWorld.Json

/-! ## Writing -/

namespace Value

mutual
/-- The tokens of a value. -/
def tokens : Value → List Token
  | .null => [.null]
  | .bool b => [.bool b]
  | .number n => [.number n]
  | .string s => [.string s]
  | .array [] => [.arrayOpen, .arrayClose]
  | .array (v :: rest) => .arrayOpen :: v.tokens ++ itemTokens rest
  | .object [] => [.objectOpen, .objectClose]
  | .object ((name, v) :: rest) =>
    .objectOpen :: .string name :: .colon :: v.tokens ++ memberTokens rest

/-- The tokens of further items and the closing bracket. -/
def itemTokens : List Value → List Token
  | [] => [.arrayClose]
  | v :: rest => .comma :: v.tokens ++ itemTokens rest

/-- The tokens of further members and the closing brace. -/
def memberTokens : List (Literal × Value) → List Token
  | [] => [.objectClose]
  | (name, v) :: rest => .comma :: .string name :: .colon :: v.tokens ++ memberTokens rest
end

/-- A value written without blanks. -/
def renderChars (v : Value) : List Char :=
  v.tokens.flatMap Token.render

/-- A value written without blanks. -/
def render (v : Value) : String :=
  String.ofList v.renderChars

end Value

/-! ## Reading -/

/-- An open container with what it holds so far, last first. A `member` waits for the value that
belongs to its name. -/
inductive Frame where
  | array (items : List Value)
  | object (members : List (Literal × Value))
  | member (members : List (Literal × Value)) (name : Literal)

/-- What may come next. -/
inductive Expect where
  | value
  | valueOrClose
  | name
  | nameOrClose
  | colon
  | commaOrClose
  | nothing (v : Value)

/-- The state of the reading machine. -/
structure Assembly where
  expect : Expect
  frames : List Frame

namespace Assembly

/-- Nothing read yet. -/
def start : Assembly := ⟨.value, []⟩

/-- Puts a finished value into the innermost open container. -/
def put (v : Value) : List Frame → Option Assembly
  | [] => some ⟨.nothing v, []⟩
  | .array items :: frames => some ⟨.commaOrClose, .array (v :: items) :: frames⟩
  | .member members name :: frames => some ⟨.commaOrClose, .object ((name, v) :: members) :: frames⟩
  | .object _ :: _ => none

/-- The first token of a value. -/
def begin (frames : List Frame) : Token → Option Assembly
  | .null => put .null frames
  | .bool b => put (.bool b) frames
  | .number n => put (.number n) frames
  | .string s => put (.string s) frames
  | .arrayOpen => some ⟨.valueOrClose, .array [] :: frames⟩
  | .objectOpen => some ⟨.nameOrClose, .object [] :: frames⟩
  | _ => none

/-- Closes the innermost container, if `t` is its closing token. -/
def close (t : Token) : List Frame → Option Assembly
  | .array items :: frames => if t = .arrayClose then put (.array items.reverse) frames else none
  | .object members :: frames =>
    if t = .objectClose then put (.object members.reverse) frames else none
  | _ => none

/-- A name, or the closing brace where that is allowed. -/
def name (frames : List Frame) (t : Token) : Option Assembly :=
  match t, frames with
  | .string s, .object members :: frames => some ⟨.colon, .member members s :: frames⟩
  | _, _ => none

/-- Takes one token. -/
def step (a : Assembly) (t : Token) : Option Assembly :=
  match a.expect with
  | .value => begin a.frames t
  | .valueOrClose => if t = .arrayClose then close t a.frames else begin a.frames t
  | .name => name a.frames t
  | .nameOrClose => if t = .objectClose then close t a.frames else name a.frames t
  | .colon => if t = .colon then some ⟨.value, a.frames⟩ else none
  | .commaOrClose =>
    if t = .comma then
      match a.frames with
      | .array _ :: _ => some ⟨.value, a.frames⟩
      | .object _ :: _ => some ⟨.name, a.frames⟩
      | _ => none
    else close t a.frames
  | .nothing _ => none

/-- The value, once nothing more is expected. -/
def result? (a : Assembly) : Option Value :=
  match a.expect with
  | .nothing v => some v
  | _ => none

end Assembly

namespace Value

/-- The value whose tokens these are. -/
def ofTokens? (ts : List Token) : Option Value := do
  let a ← ts.foldlM Assembly.step .start
  a.result?

/-- The value of a document. -/
def ofInput? (input : Input) : Option Value := do
  let ts ← Token.scan? input
  ofTokens? ts

/-- The value of a document given as bytes. -/
def ofBytes? (bytes : List UInt8) : Option Value :=
  ofInput? (Text.Utf8.decode bytes)

/-- The value of a document given as a text. -/
def ofText? (text : List Char) : Option Value :=
  ofInput? (text.map some)

/-- The value of a document given as a text. -/
def ofString? (text : String) : Option Value :=
  ofText? text.toList

end Value

end HexWorld.Json
