import HexWorld.Config.Basic
import HexWorld.Json.Document

/-!
# Log lines

What the daemon logs about itself, and the two forms of a line.

## Contents
- `LogLevel`, from errors to traces.
- `LogLine`, with `text` and `toJson`.
-/

namespace HexWorld

/-- How much a line matters. -/
inductive LogLevel where
  | error
  | warn
  | info
  | debug
  | trace
  deriving DecidableEq, Repr

namespace LogLevel

def name : LogLevel → String
  | error => "ERROR"
  | warn => "WARN"
  | info => "INFO"
  | debug => "DEBUG"
  | trace => "TRACE"

/-- Levels that matter less have a greater rank. -/
def rank : LogLevel → Nat
  | error => 1
  | warn => 2
  | info => 3
  | debug => 4
  | trace => 5

/-- The level of a rank. -/
def ofRank? : Nat → Option LogLevel
  | 1 => some error
  | 2 => some warn
  | 3 => some info
  | 4 => some debug
  | 5 => some trace
  | _ => none

theorem ofRank?_rank (l : LogLevel) : ofRank? l.rank = some l := by
  cases l <;> rfl

end LogLevel

/-- The value of a field. -/
inductive LogValue where
  /-- A text that is shown between quotes. -/
  | quoted (t : String)
  /-- A text that is shown as it stands. -/
  | plain (t : String)
  | number (n : Nat)
  deriving DecidableEq

namespace LogValue

def text : LogValue → String
  | quoted t => Text.quoted t
  | plain t => t
  | number n => toString n

def toJson : LogValue → Json.Value
  | quoted t | plain t => .ofString t
  | number n => .ofNat n

end LogValue

/-- A line of the log. -/
structure LogLine where
  level : LogLevel
  message : String
  fields : List (String × LogValue)
  deriving DecidableEq

namespace LogLine

/-- The part of the program that the lines are about. -/
def target : String := "hexwatch_daemon"

/-- A line in words. -/
def text (l : LogLine) : String :=
  s!"{l.level.name} {target}: {l.message}" ++
    String.join (l.fields.map fun (key, value) => s!" {key}={value.text}")

/-- A line as an object. The message is one more field. -/
def toJson (l : LogLine) : Json.Value :=
  .ofFields [
    ("level", .ofString l.level.name),
    ("fields", .ofFields
      (("message", .ofString l.message) :: l.fields.map fun (key, value) => (key, value.toJson))),
    ("target", .ofString target)]

end LogLine

end HexWorld
