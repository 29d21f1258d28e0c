import HexWorld.Daemon.Log
import HexWorld.Text.Integer

/-!
# Log filters

Which lines are logged. A filter is a list of directives between commas: a level for everything, or
a level for the targets that start with a name. Of the directives about a target the one with the
longest name counts, and of those with the same name the last.

A directive may also be about a scope, written in brackets. Lines of the daemon stand in no scope,
so such a directive never lets one pass.

## Contents
- `Verbosity`, what a directive lets pass.
- `LogDirective`, with `parse?`.
- `LogFilter`, with `strict?`, `lenient`, `ofSettings` and `admits`.
-/

namespace HexWorld

/-- Lines up to a level, or none. -/
abbrev Verbosity := Option LogLevel

namespace Verbosity

/-- The verbosity that a word or a number names. -/
def ofText? (text : List Char) : Option Verbosity :=
  match Text.readInteger (.unsigned 64) text with
  | .ok n => if n = 0 then some none else (LogLevel.ofRank? n.toNat).map some
  | .error _ =>
    match (String.ofList text).toLower with
    | "" | "error" => some (some .error)
    | "warn" => some (some .warn)
    | "info" => some (some .info)
    | "debug" => some (some .debug)
    | "trace" => some (some .trace)
    | "off" => some none
    | _ => none

def admits (v : Verbosity) (l : LogLevel) : Bool :=
  match v with
  | some limit => l.rank ≤ limit.rank
  | none => false

end Verbosity

/-- What is let pass of a target. -/
structure LogDirective where
  /-- How the names of the targets start; all targets if there is none. -/
  target : Option (List Char)
  verbosity : Verbosity
  /-- It is about lines in a scope only. -/
  isScoped : Bool

namespace LogDirective

/-- Characters with which a target may start. Letters of other scripts are among them. -/
def startsTarget (c : Char) : Bool :=
  c.isAlphanum || c = '-' || c = ':' || c = '_' || 0x80 ≤ c.toNat

/-- The verbosity after a target or a scope, which is the greatest if none is given. -/
def verbosity? (text : List Char) : Option Verbosity :=
  match text with
  | [] | ['='] => some (some .trace)
  | '=' :: level => Verbosity.ofText? level
  | _ => none

/-- A scope has a name, conditions in braces, or both. -/
def isScope (text : List Char) : Bool :=
  match text.dropWhile (· != '\x7b') with
  | [] => true
  | _ :: conditions =>
    match conditions.reverse with
    | '\x7d' :: inner => !inner.isEmpty && !inner.contains '\x7d'
    | _ => false

/-- A directive. What names no level names a target, blanks included; a directive of a target with a
level has no blanks around it. -/
def parse? (text : List Char) : Option LogDirective := do
  let trimmed := Text.trim text
  let first ← trimmed.head?
  guard (first = '[' || startsTarget first)
  let name := trimmed.takeWhile fun c => c != '=' && c != '['
  match trimmed.drop name.length with
  | [] =>
    match Verbosity.ofText? text with
    | some verbosity => return ⟨none, verbosity, false⟩
    | none => return ⟨some text, some .trace, false⟩
  | '[' :: rest =>
    let scope := rest.takeWhile (· != ']')
    guard (isScope scope)
    let ']' :: rest := rest.drop scope.length | none
    return ⟨some name, ← verbosity? rest, true⟩
  | rest =>
    guard (trimmed = text)
    return ⟨some name, ← verbosity? rest, false⟩

/-- Whether it is about a target. -/
def isAbout (target : String) (d : LogDirective) : Bool :=
  !d.isScoped && d.target.all fun name => name.isPrefixOf target.toList

/-- Longer names count for more than shorter ones. -/
def weight (d : LogDirective) : Nat :=
  d.target.elim 0 fun name => name.length + 1

end LogDirective

/-- A filter. -/
abbrev LogFilter := List LogDirective

namespace LogFilter

/-- The directives that are not empty. -/
def directives (text : String) : List (List Char) :=
  (text.toList.splitOn ',').filter fun d => !d.isEmpty

/-- The filter of a text in which all directives are in order. -/
def strict? (text : String) : Option LogFilter :=
  (directives text).mapM LogDirective.parse?

/-- The filter of a text, without the directives that are not in order. When there are none, errors
pass. -/
def lenient (text : String) : LogFilter :=
  match (directives text).filterMap LogDirective.parse? with
  | [] => [⟨none, some .error, false⟩]
  | filter => filter

/-- The filter of a variable, if it is given and in order, and else of the configured level. -/
def ofSettings (given : Option String) (level : String) : LogFilter :=
  (given.bind strict?).getD (lenient level)

/-- Whether a line about a target passes. -/
def admits (f : LogFilter) (target : String) (l : LogLevel) : Bool :=
  let best := (f.filter (·.isAbout target)).foldl (fun (best : Option LogDirective) d =>
    if best.all fun b => b.weight ≤ d.weight then some d else best) none
  best.any (·.verbosity.admits l)

end LogFilter

end HexWorld
