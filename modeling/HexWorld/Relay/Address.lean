import HexWorld.Json.Token
import HexWorld.Text.Quoted

/-!
# Socket addresses

Numeric internet addresses with a port: four octets, or eight groups in brackets, of which one run
of zeros may be left out and the last two may be written as octets.

## Contents
- `SocketAddress`, with `text` and `parse?`.
- `ServerError`, `listenAddress`, `bindAddress`: the address of a configured host and port.
-/

namespace HexWorld

/-- An internet address with a port. -/
inductive SocketAddress where
  | v4 (octets : List Nat) (port : Nat)
  | v6 (groups : List Nat) (scope : Nat) (port : Nat)
  deriving DecidableEq

namespace SocketAddress

/-! ## Writing -/

/-- Octets separated by points. -/
def octetsText (octets : List Nat) : String :=
  ".".intercalate (octets.map toString)

/-- Groups in hexadecimal, separated by colons. -/
def groupsText (groups : List Nat) : String :=
  ":".intercalate (groups.map fun g => String.ofList (Nat.toDigits 16 g))

/-- The number of zeros at the front. -/
def leadingZeros (groups : List Nat) : Nat :=
  (groups.takeWhile (· == 0)).length

/-- The first of the longest runs of zeros, as its position and length. -/
def longestZeros (groups : List Nat) : Nat × Nat :=
  (List.range groups.length).foldl (fun best i =>
    let n := leadingZeros (groups.drop i)
    if best.2 < n then (i, n) else best) (0, 0)

/-- Eight groups. A run of two or more zeros is left out, and an address that stands for four
octets shows them. -/
def addressText (groups : List Nat) : String :=
  match groups with
  | [0, 0, 0, 0, 0, 0xFFFF, a, b] =>
    "::ffff:" ++ octetsText [a / 256, a % 256, b / 256, b % 256]
  | _ =>
    let (start, count) := longestZeros groups
    if count ≤ 1 then groupsText groups
    else groupsText (groups.take start) ++ "::" ++ groupsText (groups.drop (start + count))

def text : SocketAddress → String
  | v4 octets port => s!"{octetsText octets}:{port}"
  | v6 groups scope port =>
    let scopeText := if scope = 0 then "" else s!"%{scope}"
    s!"[{addressText groups}{scopeText}]:{port}"

/-! ## Reading -/

/-- The value of a digit in a base of at most sixteen. -/
def digit? (base : Nat) (c : Char) : Option Nat :=
  (Json.hexValue? c).filter (· < base)

/-- A number at the front, of at least one digit and at most `limit` in value. -/
def number? (base limit : Nat) (text : List Char) : Option (Nat × Nat × List Char) :=
  let digits := text.takeWhile fun c => (digit? base c).isSome
  let value := digits.foldl (fun n c => n * base + (digit? base c).getD 0) 0
  if digits.isEmpty ∨ limit < value then none
  else some (value, digits.length, text.drop digits.length)

/-- An octet has at most three digits and no leading zero. -/
def octet? (text : List Char) : Option (Nat × List Char) := do
  let (value, count, rest) ← number? 10 255 text
  guard (count ≤ 3 ∧ (text.head? = some '0' → count = 1))
  return (value, rest)

/-- A group has at most four digits. -/
def group? (text : List Char) : Option (Nat × List Char) := do
  let (value, count, rest) ← number? 16 0xFFFF text
  guard (count ≤ 4)
  return (value, rest)

/-- Without the character `c` at the front. -/
def skip? (c : Char) : List Char → Option (List Char)
  | d :: rest => if d = c then some rest else none
  | [] => none

/-- Four octets at the front. -/
def octets? (text : List Char) : Option (List Nat × List Char) := do
  let (a, rest) ← octet? text
  let (b, rest) ← octet? (← skip? '.' rest)
  let (c, rest) ← octet? (← skip? '.' rest)
  let (d, rest) ← octet? (← skip? '.' rest)
  return ([a, b, c, d], rest)

/-- Up to `room` groups at the front; the first has no colon before it. Octets stand for two groups
and end the reading, which the flag tells. -/
def groups (first : Bool) : Nat → List Char → List Nat × Bool × List Char
  | 0, text => ([], false, text)
  | room + 1, text =>
    match if first then some text else skip? ':' text with
    | none => ([], false, text)
    | some start =>
      match if 0 < room then octets? start else none with
      | some ([a, b, c, d], rest) => ([a * 256 + b, c * 256 + d], true, rest)
      | _ =>
        match group? start with
        | none => ([], false, text)
        | some (g, rest) =>
          let (more, embedded, rest) := groups false room rest
          (g :: more, embedded, rest)

/-- Eight groups at the front, or fewer around a double colon, which stands for at least one zero.
Octets may come last only. -/
def address? (text : List Char) : Option (List Nat × List Char) :=
  let (head, embedded, rest) := groups true 8 text
  if head.length = 8 then some (head, rest)
  else if embedded then none
  else do
    let rest ← skip? ':' rest
    let rest ← skip? ':' rest
    let (tail, _, rest) := groups true (7 - head.length) rest
    return (head ++ List.replicate (8 - head.length - tail.length) 0 ++ tail, rest)

/-- A port after its colon, at the end. -/
def port? (text : List Char) : Option Nat := do
  let (port, _, rest) ← number? 10 0xFFFF (← skip? ':' text)
  guard rest.isEmpty
  return port

/-- A scope after its percent sign; without one it is zero. -/
def scope (text : List Char) : Nat × List Char :=
  match (do number? 10 0xFFFFFFFF (← skip? '%' text)) with
  | some (scope, _, rest) => (scope, rest)
  | none => (0, text)

/-- The address that a whole text names. -/
def parse? (text : List Char) : Option SocketAddress :=
  match text with
  | '[' :: body => do
    let (groups, rest) ← address? body
    let (scope, rest) := scope rest
    let port ← port? (← skip? ']' rest)
    return v6 groups scope port
  | _ => do
    let (octets, rest) ← octets? text
    let port ← port? rest
    return v4 octets port

end SocketAddress

/-! ## Listening -/

/-- Why the relay cannot listen. -/
inductive ServerError where
  | invalidAddress (raw : String)
  | addressInUse (address : SocketAddress)
  deriving DecidableEq

namespace ServerError

/-- What is wrong, without the part that all faults share. -/
def detail : ServerError → String
  | invalidAddress raw => s!"invalid address {raw}: invalid socket address syntax"
  | addressInUse address => s!"bind failed on {address.text}: Address already in use (os error 98)"

def message (e : ServerError) : String :=
  s!"bind error: {e.detail}"

/-- The wording of a start that failed. -/
def startupMessage (e : ServerError) : String :=
  s!"server start error: {e.message}"

def shape (e : ServerError) : String :=
  s!"Server(Bind({Text.quoted e.detail}))"

end ServerError

/-- The address to listen on. -/
def listenAddress (host : String) (port : UInt16) : Except ServerError SocketAddress :=
  let raw := s!"{host}:{port.toNat}"
  match SocketAddress.parse? raw.toList with
  | some address => .ok address
  | none => .error (.invalidAddress raw)

namespace SocketAddress

/-- Whether listening at one address is in the way of listening at another: on the same port of the
same address, or of all addresses. All groups include all octets. -/
def overlaps : SocketAddress → SocketAddress → Bool
  | v4 a p, v4 b q => p = q && (a = b || a.all (· = 0) || b.all (· = 0))
  | v6 a s p, v6 b t q => p = q && ((a = b && s = t) || a.all (· = 0) || b.all (· = 0))
  | v4 _ p, v6 b _ q => p = q && b.all (· = 0)
  | v6 a _ p, v4 _ q => p = q && a.all (· = 0)

end SocketAddress

/-- Takes the address of a host and port, where others are taken. Port 0 stands for a free one. -/
def bindAddress (taken : List SocketAddress) (host : String) (port : UInt16) :
    Except ServerError SocketAddress := do
  let address ← listenAddress host port
  if port != 0 && taken.any address.overlaps then throw (.addressInUse address)
  return address

end HexWorld
