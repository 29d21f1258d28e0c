import HexWorld.Json.Value

/-!
# Pointers into documents

A pointer is a path of member names and places, each after a slash. A tilde and a slash within a
name are written with a tilde.

## Contents
- `Value.at?`.
-/

namespace HexWorld.Json

/-- A part of a pointer as it is meant. -/
def unescapePart : List Char → List Char
  | '~' :: '1' :: rest => '/' :: unescapePart rest
  | '~' :: '0' :: rest => '~' :: unescapePart rest
  | c :: rest => c :: unescapePart rest
  | [] => []

/-- The place in a list that a part of a pointer names: a number without sign and leading zero. -/
def placeOf? (part : List Char) : Option Nat :=
  if part.isEmpty || !part.all Char.isDigit || (part.head? = some '0' && part.length != 1) then none
  else some (part.foldl (fun n c => n * 10 + (c.toNat - '0'.toNat)) 0)

namespace Value

/-- The part of a value that a member name or a place leads to. -/
def member? (part : List Char) : Value → Option Value
  | object members => (members.find? fun m => m.1.text? = some part).map (·.2)
  | array items => (placeOf? part).bind (items[·]?)
  | _ => none

/-- The part of a value at a pointer. -/
def at? (pointer : String) (v : Value) : Option Value :=
  match pointer.toList.splitOn '/' with
  | [] :: parts => (parts.map unescapePart).foldlM (fun v part => v.member? part) v
  | _ => none

end Value

end HexWorld.Json
