import HexWorld.Relay.Address
import HexWorld.Relay.Route

/-!
# Endpoints of the bus

Where a bus is reached, as a text names it: a scheme, a host and perhaps a port. Names and passwords
before the host, and whatever follows the port, do not matter for reaching it. A text without a
scheme names an endpoint of the plain scheme.

## Contents
- `Endpoint`, with `defaultPort`.
- `Endpoint.isOpaqueHost`, `Endpoint.isDomainHost`: what may stand for a host.
- `Endpoint.parse?`.
-/

namespace HexWorld

/-- How one talks to a bus. -/
inductive BusScheme where
  | plain
  | tls
  | web
  | webTls
  deriving DecidableEq

/-- Where a bus is reached. -/
structure Endpoint where
  scheme : BusScheme
  host : List Char
  port : Option Nat
  deriving DecidableEq

/-- Web schemes have stricter rules for hosts. -/
def BusScheme.isWeb : BusScheme → Bool
  | plain | tls => false
  | web | webTls => true

namespace BusScheme

def ofName? (name : String) : Option BusScheme :=
  match name with
  | "nats" => some plain
  | "tls" => some tls
  | "ws" => some web
  | "wss" => some webTls
  | _ => none

end BusScheme

namespace Endpoint

/-- The port of a bus when none is named. -/
def defaultPort : Nat := 4222

/-! ## Hosts -/

/-- Characters that stand in no host. -/
def isForbidden (c : Char) : Bool :=
  "\x00\t\n\r #/:<>?@[\\]^|".toList.contains c

/-- A group address in brackets. -/
def isBracketed (host : List Char) : Bool :=
  match host with
  | '[' :: body =>
    match SocketAddress.address? body with
    | some (_, [']']) => true
    | _ => false
  | _ => false

/-- A host that is taken as it stands. -/
def isOpaqueHost (host : List Char) : Bool :=
  isBracketed host || !host.any isForbidden

/-- A part of a numeric host: decimal, octal after a zero, or hexadecimal. -/
def hostNumber? (part : List Char) : Option Nat :=
  let value (base : Nat) (digits : List Char) : Option Nat :=
    if digits.all fun c => (SocketAddress.digit? base c).isSome then
      some (digits.foldl (fun n c => n * base + (SocketAddress.digit? base c).getD 0) 0)
    else none
  match part with
  | [] => none
  | '0' :: 'x' :: digits | '0' :: 'X' :: digits => value 16 digits
  | '0' :: digits => value 8 digits
  | digits => value 10 digits

/-- The parts of a host between the points, without an empty one at the end. -/
def labels (host : List Char) : List (List Char) :=
  let parts := (host.splitOn '.')
  if parts.getLast? = some [] && parts.length != 1 then parts.dropLast else parts

/-- Up to four numbers, of which the last one fills what the others leave. -/
def isNumericHost (host : List Char) : Bool :=
  match (labels host).mapM hostNumber? with
  | none => false
  | some numbers =>
    decide (numbers.length ≤ 4) && numbers.dropLast.all (· < 256) &&
      numbers.getLast?.all (· < Nat.pow 256 (5 - numbers.length))

/-- A host whose last part is a number is an address. -/
def endsInNumber (host : List Char) : Bool :=
  match (labels host).getLast? with
  | none => false
  | some part => (!part.isEmpty && part.all Char.isDigit) || (hostNumber? part).isSome

/-- A host of the web: not empty, and an address if it looks like one. -/
def isDomainHost (host : List Char) : Bool :=
  isBracketed host ||
    match Text.Utf8.valid? (percentDecode host) with
    | none => false
    | some name =>
      !name.isEmpty &&
        !name.any (fun c => isForbidden c || c.toNat ≤ 0x20 || c = '%' || c = '\x7F') &&
        (!endsInNumber name || isNumericHost name)

/-! ## Parts of a text -/

/-- Blanks and control characters around a text, and breaks within it, do not count. -/
def clean (text : List Char) : List Char :=
  let start (t : List Char) := t.dropWhile fun c => c.toNat ≤ 0x20
  (start (start text).reverse).reverse.filter fun c => !"\t\n\r".toList.contains c

/-- The scheme, in small letters, and what follows its colon. -/
def splitScheme? (text : List Char) : Option (String × List Char) :=
  match text with
  | c :: _ =>
    let name := text.takeWhile fun c => c.isAlphanum || "+-.".toList.contains c
    match text.drop name.length with
    | ':' :: rest => if c.isAlpha then some ((String.ofList name).toLower, rest) else none
    | _ => none
  | [] => none

/-- What stands before the path. -/
def authority (web : Bool) (text : List Char) : List Char :=
  text.takeWhile fun c => !("/?#".toList.contains c || (web && c = '\\'))

/-- The host and what follows it. A colon between brackets belongs to the host. -/
def splitHost : Bool → List Char → List Char × List Char
  | _, [] => ([], [])
  | bracketed, c :: rest =>
    if c = ':' && !bracketed then ([], c :: rest)
    else
      let (host, after) := splitHost ((bracketed || c = '[') && c != ']') rest
      (c :: host, after)

/-- The port at the end, if one is named. -/
def port? (text : List Char) : Option (Option Nat) :=
  match text with
  | ':' :: text =>
    let digits := text.takeWhile Char.isDigit
    let value := digits.foldl (fun n c => n * 10 + (c.toNat - '0'.toNat)) 0
    match text.drop digits.length with
    | [] | '\\' :: _ =>
      if value ≤ 0xFFFF then some (if digits.isEmpty then none else some value) else none
    | _ => none
  | _ => some none

/-- Credentials end at the last at sign. -/
def splitCredentials (text : List Char) : List Char × List Char :=
  let rest := (text.reverse.takeWhile (· != '@')).reverse
  (text.take (text.length - rest.length - 1), rest)

/-- The endpoint of an authority. Whoever names credentials or a port has to name a host. -/
def ofAuthority? (scheme : BusScheme) (text : List Char) : Option Endpoint := do
  let (credentials, rest) := splitCredentials text
  let (host, after) := splitHost false rest
  guard (if scheme.isWeb then isDomainHost host else isOpaqueHost host)
  guard (!host.isEmpty || (after.isEmpty && (credentials.isEmpty || credentials = [':'])))
  return ⟨scheme, host, ← port? after⟩

/-! ## Reading -/

/-- Whether a text names its scheme. -/
def namesScheme (text : List Char) : Bool :=
  match text with
  | ':' :: '/' :: '/' :: _ => true
  | _ :: rest => namesScheme rest
  | [] => false

/-- The endpoint that a text names. Outside the web a text may name none but the scheme, and then
the host is empty. -/
def parse? (text : String) : Option Endpoint := do
  let text := text.toList
  let text := clean (if namesScheme text then text else "nats://".toList ++ text)
  let (name, rest) ← splitScheme? text
  let scheme ← BusScheme.ofName? name
  if scheme.isWeb then
    ofAuthority? scheme (authority true (rest.dropWhile fun c => c = '/' || c = '\\'))
  else
    match rest with
    | '/' :: '/' :: rest => ofAuthority? scheme (authority false rest)
    | _ => return ⟨scheme, [], none⟩

end Endpoint

end HexWorld
