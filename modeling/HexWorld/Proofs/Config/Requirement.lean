import HexWorld.Config.Document
import HexWorld.Proofs.Sync.Backoff
import HexWorld.Proofs.Text.Numeral

/-!
# `Proofs.Config.Requirement` — which configurations are accepted, and what is said of the others

The variables of an environment are read first, and the values that they leave are checked after
that. `Requirement` lists everything that has to hold, in the order in which it is looked at, and
says of each what it asks of the file and the environment. A configuration is accepted exactly when
all of it holds; otherwise the first requirement that does not is the one reported.

## Contents
- `Config.under`: a configuration under an environment, checked.
- `Requirement`, with `Holds`, `error` and `IsFirstBroken`.
- `Overrides.Replaces`: what the given variables make of a configuration.
- `Finds` and `finds_ite`: one check after the other.
- `under_cases`, from which `checked_in_order` is put together.
-/

namespace HexWorld

open Text

/-- A configuration under an environment, checked. -/
def Config.under (env : Overrides) (c : Config) : Except ConfigError Config := do
  let c ← c.override env
  c.validate

/-- What becomes of the configuration that a text describes. -/
theorem Config.parse_eq (text : List Char) (env : Overrides) :
    Config.parse text env = (Config.ofText? text).elim (.error .yaml) (·.under env) := by
  unfold Config.parse
  cases Config.ofText? text <;> rfl

/-- The word for a format, in a file and in a variable. -/
def LogFormat.word : LogFormat → String
  | .pretty => "pretty"
  | .json => "json"

/-! ## Requirements -/

/-- What has to hold of a configuration and an environment. -/
inductive Requirement where
  | port
  | format
  | url
  | requestTimeout
  | base
  | bound
  | jitter
  deriving DecidableEq

namespace Requirement

/-- The order in which requirements are looked at. -/
def order : List Requirement := [port, format, url, requestTimeout, base, bound, jitter]

/-- The port is a number of sixteen bits, the format a word for one in any case, and the address is
the one that the variable gives, if it gives one. -/
def Holds (c : Config) (env : Overrides) : Requirement → Prop
  | port => ∀ text, env.observerPort = some text → ∃ n, SpellsNat text.toList n ∧ n < 65536
  | format => ∀ text, env.logFormat = some text →
      ∃ f : LogFormat, lowercase text.toList = f.word.toList
  | url => ¬IsPadding (env.sourceUrl.getD c.source.url).toList
  | requestTimeout => 0 < c.source.requestTimeoutMs.toNat
  | base => 0 < c.backoff.baseMs.toNat
  | bound => c.backoff.baseMs.toNat ≤ c.backoff.maxMs.toNat
  | jitter => ∃ r, c.backoff.jitter.toRat? = some r ∧ 0 ≤ r ∧ r < 1

/-- The field that is named when the requirement is broken. -/
def field : Requirement → String
  | port => "observer.port"
  | format => "logging.format"
  | url => "source.url"
  | requestTimeout => "source.request_timeout_ms"
  | base => "backoff.base_ms"
  | bound => "backoff.max_ms"
  | jitter => "backoff.jitter"

/-- What is said of a port that cannot be read. -/
def portReason (text : String) : String :=
  match readInteger (.unsigned 16) text.toList with
  | .ok _ => ""
  | .error fault => s!"OBSERVER_PORT={quoted text}: {fault.message}"

/-- What is said when the requirement is broken. -/
def reason (c : Config) (env : Overrides) : Requirement → String
  | port => (env.observerPort.map portReason).getD ""
  | format => (env.logFormat.map fun text =>
      let lower := String.ofList (lowercase text.toList)
      s!"LOG_FORMAT={quoted lower} is neither json nor pretty").getD ""
  | url => "must not be empty"
  | requestTimeout | base => "must be positive"
  | bound => s!"{c.backoff.maxMs.toNat} is below backoff.base_ms ({c.backoff.baseMs.toNat})"
  | jitter => s!"{c.backoff.jitter.plainText} is outside [0, 1)"

def error (c : Config) (env : Overrides) (k : Requirement) : ConfigError :=
  .invalid k.field (k.reason c env)

/-- The requirement is broken, and none that is looked at before it is. -/
def IsFirstBroken (c : Config) (env : Overrides) (k : Requirement) : Prop :=
  ¬k.Holds c env ∧ ∃ before after, order = before ++ k :: after ∧ ∀ j ∈ before, j.Holds c env

/-- There is one first broken requirement at most. -/
theorem IsFirstBroken.unique {c : Config} {env : Overrides} {k k' : Requirement}
    (h : k.IsFirstBroken c env) (h' : k'.IsFirstBroken c env) : k = k' := by
  classical
  have found {k : Requirement} (h : k.IsFirstBroken c env) :
      order.find? (fun j => decide ¬j.Holds c env) = some k := by
    obtain ⟨broken, before, after, split, hold⟩ := h
    rw [List.find?_eq_some_iff_append]
    exact ⟨by simpa using broken, before, after, split, fun j mem => by simpa using hold j mem⟩
  exact Option.some.inj ((found h).symm.trans (found h'))

theorem forall_iff {P : Requirement → Prop} : (∀ k, P k) ↔ ∀ k ∈ order, P k := by
  constructor
  · exact fun all k _ => all k
  · intro all k
    exact all k (by cases k <;> decide)

end Requirement

/-! ## The variables -/

section Variables

variable {text : String}

theorem portOf_eq_ok_iff {port : UInt16} :
    Config.portOf text = .ok port ↔ SpellsNat text.toList port.toNat := by
  have read {n : Int} : readInteger (.unsigned 16) text.toList = .ok n ↔
      ∃ m : Nat, n = m ∧ SpellsNat text.toList m ∧ m ≤ (IntegerRange.unsigned 16).hi.toNat :=
    readInteger_eq_ok_iff_of_unsigned rfl
  have limit : (IntegerRange.unsigned 16).hi.toNat = 65535 := rfl
  have word := port.toNat_lt
  unfold Config.portOf
  cases result : readInteger (.unsigned 16) text.toList with
  | error fault =>
      refine iff_of_false nofun fun numeral => ?_
      rw [read.mpr ⟨port.toNat, rfl, numeral, by omega⟩] at result
      cases result
  | ok n =>
      obtain ⟨m, rfl, numeral, small⟩ := read.mp result
      have word' : m < UInt16.size := by
        show m < 65536
        omega
      have value : (UInt16.ofNat m).toNat = m := UInt16.toNat_ofNat_of_lt' word'
      constructor
      · intro same
        rw [← Except.ok.inj same]
        show SpellsNat _ (UInt16.ofNat m).toNat
        rw [value]
        exact numeral
      · intro numeral'
        have same : (port.toNat : Int) = m :=
          Except.ok.inj ((read.mpr ⟨port.toNat, rfl, numeral', by omega⟩).symm.trans result)
        refine congrArg Except.ok ?_
        show UInt16.ofNat m = port
        rw [← Int.ofNat.inj same]
        exact port.ofNat_toNat

theorem portOf_eq_error (broken : ¬∃ n, SpellsNat text.toList n ∧ n < 65536) :
    Config.portOf text = .error (.invalid "observer.port" (Requirement.portReason text)) := by
  cases read : readInteger (.unsigned 16) text.toList with
  | error fault => rw [Config.portOf, Requirement.portReason, read]
  | ok n =>
      have given : Config.portOf text = .ok (.ofNat n.toNat) := by rw [Config.portOf, read]
      exact absurd ⟨_, portOf_eq_ok_iff.mp given, UInt16.toNat_lt _⟩ broken

theorem formatOf_eq_ok_iff {f : LogFormat} :
    Config.formatOf text = .ok f ↔ lowercase text.toList = f.word.toList := by
  have same (word : String) : String.ofList (lowercase text.toList) = word ↔
      lowercase text.toList = word.toList :=
    ⟨fun h => by rw [← h, String.toList_ofList], fun h => by rw [h, String.ofList_toList]⟩
  unfold Config.formatOf
  simp only [same]
  split
  next json =>
    rw [json, Except.ok.injEq]
    cases f <;> decide
  split
  next _ pretty =>
    rw [pretty, Except.ok.injEq]
    cases f <;> decide
  next not_json not_pretty =>
    refine iff_of_false nofun fun word => ?_
    cases f with
    | json => exact not_json word
    | pretty => exact not_pretty word

theorem formatOf_eq_error (broken : ¬∃ f : LogFormat, lowercase text.toList = f.word.toList) :
    Config.formatOf text = .error (.invalid "logging.format"
      s!"LOG_FORMAT={quoted (String.ofList (lowercase text.toList))} is neither json nor pretty") := by
  cases result : Config.formatOf text with
  | ok f => exact absurd ⟨f, formatOf_eq_ok_iff.mp result⟩ broken
  | error e =>
      unfold Config.formatOf at result
      dsimp only at result
      split at result
      next => cases result
      split at result
      next => cases result
      next => exact result.symm

theorem isFraction_iff {x : Double} :
    Config.isFraction x = true ↔ ∃ r, x.toRat? = some r ∧ 0 ≤ r ∧ r < 1 := by
  unfold Config.isFraction
  cases x.toRat? <;> simp

end Variables

/-- The configuration with the fields of the given variables replaced, and no other. -/
inductive Overrides.Replaces (env : Overrides) (c : Config) : Config → Prop where
  | intro {port format}
      (port_given : ∀ text, env.observerPort = some text → SpellsNat text.toList port.toNat)
      (port_kept : env.observerPort = none → port = c.observer.port)
      (format_given : ∀ text, env.logFormat = some text →
        lowercase text.toList = format.word.toList)
      (format_kept : env.logFormat = none → format = c.logging.format) :
      Replaces env c { c with
        source := { c.source with url := env.sourceUrl.getD c.source.url }
        observer := { c.observer with port }
        logging := { c.logging with format } }

/-! ## What is accepted -/

section Acceptance

open Requirement

variable {c : Config} {env : Overrides}

/-- The port is the variable's if it gives one, and the file's if not. -/
theorem exists_port (h : port.Holds c env) : ∃ p,
    (env.observerPort.map Config.portOf).getD (.ok c.observer.port) = .ok p ∧
      (∀ text, env.observerPort = some text → SpellsNat text.toList p.toNat) ∧
      (env.observerPort = none → p = c.observer.port) := by
  cases given : env.observerPort with
  | none => exact ⟨c.observer.port, rfl, nofun, fun _ => rfl⟩
  | some text =>
      obtain ⟨n, numeral, small⟩ := h text given
      have value : (UInt16.ofNat n).toNat = n := UInt16.toNat_ofNat_of_lt' small
      rw [← value] at numeral
      refine ⟨.ofNat n, portOf_eq_ok_iff.mpr numeral, fun text' same => ?_, nofun⟩
      rw [← Option.some.inj same]
      exact numeral

/-- The format is the variable's if it gives one, and the file's if not. -/
theorem exists_format (h : format.Holds c env) : ∃ f,
    (env.logFormat.map Config.formatOf).getD (.ok c.logging.format) = .ok f ∧
      (∀ text, env.logFormat = some text → lowercase text.toList = f.word.toList) ∧
      (env.logFormat = none → f = c.logging.format) := by
  cases given : env.logFormat with
  | none => exact ⟨c.logging.format, rfl, nofun, fun _ => rfl⟩
  | some text =>
      obtain ⟨f, word⟩ := h text given
      refine ⟨f, formatOf_eq_ok_iff.mpr word, fun text' same => ?_, nofun⟩
      rw [← Option.some.inj same]
      exact word

/-- A port that cannot be read is reported before anything else. -/
theorem under_of_port (broken : ¬port.Holds c env) : c.under env = .error (port.error c env) := by
  obtain ⟨text, broken⟩ := Classical.not_forall.mp broken
  obtain ⟨given, unreadable⟩ := Classical.not_imp.mp broken
  unfold Config.under Config.override Requirement.error Requirement.reason
  rw [given]
  show (Config.portOf text).bind _ >>= _ = _
  rw [portOf_eq_error unreadable]
  rfl

theorem under_of_format (ports : port.Holds c env) (broken : ¬format.Holds c env) :
    c.under env = .error (format.error c env) := by
  obtain ⟨p, read, -, -⟩ := exists_port ports
  obtain ⟨text, broken⟩ := Classical.not_forall.mp broken
  obtain ⟨given, unreadable⟩ := Classical.not_imp.mp broken
  unfold Config.under Config.override Requirement.error Requirement.reason
  rw [read, given]
  show (Config.formatOf text).bind _ >>= _ = _
  rw [formatOf_eq_error unreadable]
  rfl

/-- Once the variables have been read, the values that they leave are checked. -/
theorem exists_replaced (ports : port.Holds c env) (formats : format.Holds c env) :
    ∃ c', env.Replaces c c' ∧ c'.source.url = env.sourceUrl.getD c.source.url ∧
      c'.source.requestTimeoutMs = c.source.requestTimeoutMs ∧ c'.backoff = c.backoff ∧
      c.under env = c'.validate := by
  obtain ⟨p, read, port_given, port_kept⟩ := exists_port ports
  obtain ⟨f, read', format_given, format_kept⟩ := exists_format formats
  refine ⟨_, .intro port_given port_kept format_given format_kept, rfl, rfl, rfl, ?_⟩
  unfold Config.under Config.override
  rw [read, read']
  rfl

/-- What is found is the first broken requirement, or nothing if all hold. -/
def Finds (c : Config) (env : Overrides) (found : Option ConfigError) : Prop :=
  (∃ k : Requirement, k.IsFirstBroken c env ∧ found = some (k.error c env)) ∨
    (∀ k : Requirement, k.Holds c env) ∧ found = none

/-- One check. All requirements before it hold, and the others are looked at if this one does. -/
theorem finds_ite (k : Requirement) (past : List Requirement) {rest : List Requirement}
    {fault : Prop} [Decidable fault] {others : Option ConfigError}
    (place : order = past ++ k :: rest) (before : ∀ j ∈ past, j.Holds c env)
    (test : fault ↔ ¬k.Holds c env)
    (after : (∀ j ∈ past ++ [k], j.Holds c env) → Finds c env others) :
    Finds c env (if fault then some (k.error c env) else others) := by
  by_cases holds : k.Holds c env
  · rw [if_neg fun faulty => test.mp faulty holds]
    exact after (List.forall_mem_append.mpr ⟨before, List.forall_mem_singleton.mpr holds⟩)
  · rw [if_pos (test.mpr holds)]
    exact .inl ⟨k, ⟨holds, past, rest, place, before⟩, rfl⟩

/-- The values that the variables have left are checked in the order of their requirements. -/
theorem finds_violation? {c' : Config} (ports : port.Holds c env) (formats : format.Holds c env)
    (address : c'.source.url = env.sourceUrl.getD c.source.url)
    (timeout : c'.source.requestTimeoutMs = c.source.requestTimeoutMs)
    (backoff : c'.backoff = c.backoff) : Finds c env c'.violation? := by
  have zero {n : UInt64} : n = 0 ↔ ¬0 < n.toNat := by
    rw [Nat.not_lt, Nat.le_zero]
    exact UInt64.toNat_inj.symm
  have blank : trim (env.sourceUrl.getD c.source.url).toList = [] ↔ ¬url.Holds c env :=
    trim_eq_nil_iff.trans Classical.not_not.symm
  have below : c.backoff.maxMs < c.backoff.baseMs ↔ ¬bound.Holds c env :=
    UInt64.lt_iff_toNat_lt.trans Nat.not_le.symm
  have outside : (!Config.isFraction c.backoff.jitter) = true ↔ ¬jitter.Holds c env := by
    rw [Bool.not_eq_true', ← Bool.not_eq_true]
    exact not_congr isFraction_iff
  unfold Config.violation?
  rw [address, timeout, backoff]
  exact finds_ite url [port, format] rfl (by simp [ports, formats]) blank fun past =>
    finds_ite requestTimeout _ rfl past zero fun past =>
    finds_ite base _ rfl past zero fun past =>
    finds_ite bound _ rfl past below fun past =>
    finds_ite jitter _ rfl past outside fun past => .inr ⟨forall_iff.mpr past, rfl⟩

/-- **The outcome**: a first broken requirement is reported, or nothing is broken and the fields of
the given variables are replaced. -/
theorem under_cases (c : Config) (env : Overrides) :
    (∃ k : Requirement, k.IsFirstBroken c env ∧ c.under env = .error (k.error c env)) ∨
      (∀ k : Requirement, k.Holds c env) ∧ ∃ c', env.Replaces c c' ∧ c.under env = .ok c' := by
  by_cases ports : port.Holds c env
  case neg => exact .inl ⟨port, ⟨ports, [], _, rfl, nofun⟩, under_of_port ports⟩
  by_cases formats : format.Holds c env
  case neg =>
    exact .inl ⟨format, ⟨formats, [port], _, rfl, by simpa using ports⟩,
      under_of_format ports formats⟩
  obtain ⟨c', replaced, address, timeout, backoff, under⟩ := exists_replaced ports formats
  rw [under, Config.validate]
  rcases finds_violation? ports formats address timeout backoff with ⟨k, broken, violation⟩ |
    ⟨all, violation⟩
  · rw [violation]
    exact .inl ⟨k, broken, rfl⟩
  · rw [violation]
    exact .inr ⟨all, c', replaced, rfl⟩

end Acceptance

/-! ## The wait between retries -/

/-- The waits of an accepted configuration lie between its base and its bound. -/
theorem Config.waits_within {c : Config} {env : Overrides} (bounds : Requirement.bound.Holds c env)
    (attempt : UInt32) : c.backoffPolicy.base.nanos ≤ (c.backoffPolicy.ceiling attempt).nanos ∧
      (c.backoffPolicy.ceiling attempt).nanos ≤ c.backoffPolicy.bound.nanos := by
  have ordered : c.backoffPolicy.base.nanos ≤ c.backoffPolicy.bound.nanos :=
    Nat.mul_le_mul_right 1000000 bounds
  have counted : c.backoffPolicy.base.nanos < Duration.limit := by
    have word : c.backoff.baseMs.toNat < 18446744073709551616 := c.backoff.baseMs.toNat_lt
    show c.backoff.baseMs.toNat * 1000000 < 18446744073709551616 * 1000000000
    omega
  have first : c.backoffPolicy.ceiling 0 = c.backoffPolicy.base :=
    Backoff.ceiling_zero counted ordered
  refine ⟨?_, c.backoffPolicy.ceiling_le_bound attempt⟩
  rw [← first]
  exact c.backoffPolicy.ceiling_mono (UInt32.le_iff_toNat_le.mpr (Nat.zero_le _))

/-- **Configurations are checked in order.** A configuration is accepted under an environment exactly
when every requirement holds; then the fields of the given variables are replaced, and nothing else
is changed. Otherwise the first requirement that is broken is reported by its field. The address in
the file is of no account when a variable gives one, and a blank one is not accepted. The waits of
what is accepted are never nothing, and lie between the base and the bound for every attempt. -/
theorem Config.checked_in_order (c : Config) (env : Overrides) :
    ((∃ c', c.under env = .ok c') ↔ ∀ k : Requirement, k.Holds c env) ∧
    (∀ c', c.under env = .ok c' → env.Replaces c c') ∧
    (∀ e, c.under env = .error e ↔
      ∃ k : Requirement, k.IsFirstBroken c env ∧ e = k.error c env) ∧
    (∀ url address, env.sourceUrl = some url →
      Config.under env { c with source := { c.source with url := address } } = c.under env) ∧
    (∀ url, env.sourceUrl = some url → IsPadding url.toList → ∀ c', c.under env ≠ .ok c') ∧
    ∀ c', c.under env = .ok c' → ∀ attempt, let p := c'.backoffPolicy
      0 < p.base.nanos ∧ p.base.nanos ≤ (p.ceiling attempt).nanos ∧
        (p.ceiling attempt).nanos ≤ p.bound.nanos := by
  have accepted {c' : Config} (h : c.under env = .ok c') :
      (∀ k : Requirement, k.Holds c env) ∧ env.Replaces c c' := by
    rcases under_cases c env with ⟨k, -, refused⟩ | ⟨all, c'', replaced, outcome⟩
    · rw [refused] at h
      cases h
    · rw [outcome] at h
      cases h
      exact ⟨all, replaced⟩
  refine ⟨⟨fun ⟨_, h⟩ => (accepted h).1, fun all => ?_⟩, fun c' h => (accepted h).2,
    fun e => ⟨fun h => ?_, ?_⟩, fun url address given => ?_, fun url given blank c' h => ?_,
    fun c' h attempt => ?_⟩
  · rcases under_cases c env with ⟨k, broken, -⟩ | ⟨-, c', -, outcome⟩
    · exact absurd (all k) broken.1
    · exact ⟨c', outcome⟩
  · rcases under_cases c env with ⟨k, broken, refused⟩ | ⟨-, c', -, outcome⟩
    · rw [refused] at h
      exact ⟨k, broken, (Except.error.inj h).symm⟩
    · rw [outcome] at h
      cases h
  · rintro ⟨k, broken, rfl⟩
    rcases under_cases c env with ⟨k', broken', refused⟩ | ⟨all, -⟩
    · rw [refused, broken.unique broken']
    · exact absurd (all k) broken.1
  · unfold Config.under Config.override
    rw [given]
    rfl
  · have holds := (accepted h).1 .url
    rw [Requirement.Holds, given] at holds
    exact holds blank
  · obtain ⟨all, replaced⟩ := accepted h
    cases replaced
    exact ⟨Nat.mul_pos (all .base) (by decide), Config.waits_within (all .bound) attempt⟩

/-- An environment that cures a blank address, and one that brings a blank address. -/
theorem Config.checked_in_order_blankAddress :
    let c := { Config.default with source := { Config.default.source with url := " " } }
    let env : Overrides := ⟨some "nats://bus:4222", some "+8080", some "JSON"⟩
    (∃ c', c.under env = .ok c' ∧ env.Replaces c c' ∧ ∀ attempt, let p := c'.backoffPolicy
      0 < p.base.nanos ∧ p.base.nanos ≤ (p.ceiling attempt).nanos ∧
        (p.ceiling attempt).nanos ≤ p.bound.nanos) ∧
    ∀ c', Config.default.under ⟨some "\t", none, none⟩ ≠ .ok c' := by
  intro c env
  obtain ⟨-, replaces, -, -, -, waits⟩ := checked_in_order c env
  obtain ⟨-, -, -, -, refuses, -⟩ := checked_in_order Config.default ⟨some "\t", none, none⟩
  have accepted : (c.under env).isOk = true := by decide +kernel
  obtain ⟨c', accepted⟩ : ∃ c', c.under env = .ok c' := by
    cases outcome : c.under env with
    | ok c' => exact ⟨c', rfl⟩
    | error e =>
        rw [outcome] at accepted
        cases accepted
  have blank : IsPadding "\t".toList := List.forall_mem_singleton.mpr (by decide)
  exact ⟨⟨c', accepted, replaces c' accepted, waits c' accepted⟩, refuses "\t" rfl blank⟩

/-- A blank address and a port beyond the range: the port is looked at first. -/
example : Config.default.under ⟨some "\t", some "70000", none⟩ = .error (.invalid "observer.port"
    "OBSERVER_PORT=\"70000\": number too large to fit in target type") := by
  rfl

end HexWorld
