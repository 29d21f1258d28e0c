import HexWorld.Config.Basic
import HexWorld.Text.Utf8
import HexWorld.Yaml.Node

/-!
# Configuration files

A configuration is a YAML document with a mapping for each section. Fields that are not known are
skipped, and one that is known may be given once. What a scalar means depends on the field: a text
takes any scalar as it is written, a number only one without quotes.

## Contents
- `fields?`, the nodes given for the fields of a section.
- `text?`, `unsigned?`, `double?`, `optionalUnsigned?`, `logFormat?`: the meanings of a node.
- `Config.ofNode?`, `Config.parse`, `Config.ofBytes`.
-/

namespace HexWorld

open Yaml

namespace Yaml

/-! ## Sections -/

/-- The text of a key. -/
def keyText? : Node → Option (List Char)
  | .scalar _ _ text => some text
  | _ => none

/-- The node of one field, `some none` if it is not given. -/
def field? (members : List (List Char × Node)) (name : String) : Option (Option Node) :=
  match members.filter (·.1 = name.toList) with
  | [] => some none
  | [(_, n)] => some (some n)
  | _ => none

/-- The nodes given for the fields `names`. A section of which nothing is written has no fields. -/
def fields? (names : List String) : Node → Option (List (Option Node))
  | .mapping members => do
    let members ← members.mapM fun (k, v) => (keyText? k).map (·, v)
    names.mapM (field? members)
  | .scalar .plain _ [] => some (names.map fun _ => none)
  | _ => none

/-! ## Scalars -/

/-- Any scalar as it is written. -/
def text? : Node → Option String
  | .scalar _ _ text => some (String.ofList text)
  | _ => none

/-- The text of a scalar that may be a number: one without quotes, or lines tagged as such. -/
def numberText? (tagName : String) : Node → Option (List Char)
  | .scalar .plain _ text => some text
  | .scalar .literal (some tag) text =>
    if tag = ("tag:yaml.org,2002:" ++ tagName).toList then some text else none
  | _ => none

/-- The number that digits of a base write; a sign may not stand among them. -/
def radixValue? (base : Nat) (digits : List Char) : Option Nat :=
  if digits.isEmpty then none
  else do
    let values ← digits.mapM fun c => (Json.hexValue? c).filter (· < base)
    return values.foldl (fun n d => n * base + d) 0

/-- An unsigned integer, decimal or with the mark of another base. Zeros may not lead a decimal. -/
def unsignedOf? (limit : Nat) (text : List Char) : Option Nat :=
  let body := match text with
    | '+' :: rest => rest
    | rest => rest
  let based := match body with
    | '0' :: 'x' :: digits => radixValue? 16 digits
    | '0' :: 'o' :: digits => radixValue? 8 digits
    | '0' :: 'b' :: digits => radixValue? 2 digits
    | '0' :: _ :: _ => none
    | digits => radixValue? 10 digits
  based.filter (· ≤ limit)

def unsigned? (limit : Nat) (n : Node) : Option Nat :=
  (numberText? "int" n).bind (unsignedOf? limit)

/-- A number of 64 bits. Infinity and no number have names of their own, and a decimal may not be
beyond the greatest number. -/
def doubleOf? (text : List Char) : Option Double :=
  let names (ns : List String) : Bool := ns.any fun n => n.toList = text
  if names [".inf", ".Inf", ".INF", "+.inf", "+.Inf", "+.INF"] then some (.infinite false)
  else if names ["-.inf", "-.Inf", "-.INF"] then some (.infinite true)
  else if names [".nan", ".NaN", ".NAN"] then some .notNumber
  else
    match text with
    | '+' :: '+' :: _ | '+' :: '-' :: _ => none
    | _ => (Double.ofText? text).filter fun x => x.toRat?.isSome

def double? (n : Node) : Option Double :=
  (numberText? "float" n).bind doubleOf?

/-- The spellings of nothing. -/
def isNull (text : List Char) : Bool :=
  ["", "null", "Null", "NULL", "~"].any fun n => n.toList = text

/-- A number or nothing. Nothing is written without quotes; with its tag it has to be spelled
out. -/
def optionalUnsigned? (limit : Nat) : Node → Option (Option Nat)
  | .scalar .plain none text =>
    if isNull text then some none else (unsigned? limit (.scalar .plain none text)).map some
  | .scalar .plain (some tag) text =>
    if tag = "tag:yaml.org,2002:null".toList then
      if isNull text && !text.isEmpty then some none else none
    else (unsigned? limit (.scalar .plain (some tag) text)).map some
  | n => (unsigned? limit n).map some

/-- The name of a log format, or a local tag of that name on nothing. -/
def logFormat? : Node → Option LogFormat
  | .scalar _ (some ('!' :: name@(_ :: _))) text => if isNull text then ofName? name else none
  | .scalar _ _ text => ofName? text
  | _ => none
where
  ofName? (name : List Char) : Option LogFormat :=
    if name = "pretty".toList then some .pretty
    else if name = "json".toList then some .json
    else none

end Yaml

/-! ## The document -/

/-- A field that has a value when it is not given. -/
def given {α : Type} (absent : α) (read : Node → Option α) : Option Node → Option α
  | none => some absent
  | some n => read n

namespace Subjects

def ofNode? (n : Node) : Option Subjects := do
  let [rooms, layout, terrain, entities] ←
    fields? ["rooms", "layout", "terrain", "entities"] n | none
  return {
    rooms := ← given default.rooms text? rooms
    layout := ← given default.layout text? layout
    terrain := ← given default.terrain text? terrain
    entities := ← given default.entities text? entities }

end Subjects

namespace SourceConfig

def ofNode? (n : Node) : Option SourceConfig := do
  let [url, timeout, subjects] ← fields? ["url", "request_timeout_ms", "subjects"] n | none
  let millis (n : Node) : Option UInt64 := (unsigned? (UInt64.size - 1) n).map UInt64.ofNat
  return {
    url := ← given default.url text? url
    requestTimeoutMs := ← given default.requestTimeoutMs millis timeout
    subjects := ← given .default Subjects.ofNode? subjects }

end SourceConfig

namespace BackoffConfig

def ofNode? (n : Node) : Option BackoffConfig := do
  let [base, bound, retries, jitter] ← fields? ["base_ms", "max_ms", "max_retries", "jitter"] n | none
  let millis (n : Node) : Option UInt64 := (unsigned? (UInt64.size - 1) n).map UInt64.ofNat
  let count (n : Node) : Option (Option UInt32) :=
    (optionalUnsigned? (UInt32.size - 1) n).map (·.map UInt32.ofNat)
  return {
    baseMs := ← given default.baseMs millis base
    maxMs := ← given default.maxMs millis bound
    maxRetries := ← given none count retries
    jitter := ← given default.jitter double? jitter }

end BackoffConfig

namespace ObserverConfig

def ofNode? (n : Node) : Option ObserverConfig := do
  let [host, port] ← fields? ["host", "port"] n | none
  return {
    host := ← given default.host text? host
    port := ← given default.port (fun n => (unsigned? (UInt16.size - 1) n).map UInt16.ofNat) port }

end ObserverConfig

namespace LoggingConfig

def ofNode? (n : Node) : Option LoggingConfig := do
  let [level, format] ← fields? ["level", "format"] n | none
  return {
    level := ← given default.level text? level
    format := ← given default.format logFormat? format }

end LoggingConfig

namespace Config

def ofNode? (n : Node) : Option Config := do
  let [source, backoff, observer, logging] ←
    fields? ["source", "backoff", "observer", "logging"] n | none
  return {
    source := ← given .default SourceConfig.ofNode? source
    backoff := ← given .default BackoffConfig.ofNode? backoff
    observer := ← given .default ObserverConfig.ofNode? observer
    logging := ← given .default LoggingConfig.ofNode? logging }

/-- The configuration that a text describes; a blank text describes none but the default. -/
def ofText? (text : List Char) : Option Config :=
  if Text.trim text = [] then some default else (Document.ofText? text).bind ofNode?

/-- The configuration of a text under an environment, checked. -/
def parse (text : List Char) (env : Overrides) : Except ConfigError Config := do
  let some c := ofText? text | throw .yaml
  let c ← c.override env
  c.validate

/-- The configuration of a file's bytes under an environment. -/
def ofBytes (bytes : List UInt8) (env : Overrides) : Except ConfigError Config :=
  match Text.Utf8.valid? bytes with
  | some text => parse text env
  | none => .error (.io .notText)

/-- The configuration of a file, which may be missing, under an environment. -/
def ofFile (file : Option (List UInt8)) (env : Overrides) : Except ConfigError Config :=
  match file with
  | some bytes => ofBytes bytes env
  | none => .error (.io .missing)

end Config

end HexWorld
