import HexWorld.Proofs.History
import HexWorld.Proofs.Sync.Tally

/-!
# `Proofs.Sync.Traffic` — a registry that many use at the same time

Calls on a registry go forward step by step, and the steps of all calls come in any order. A step
either looks at the list, or replaces it by another that is made from the latest one, so nothing
comes between the two. A registration takes two steps, since it takes its number first; a
notification takes one to look at the list, and then two for everybody on it. While a subscriber is
being called any other call may go forward, so this covers what subscribers do when they are called.

What the steps do is written down as *deeds*, each with the number of its call, and everything else
is read off the deeds.

## Contents
- `Registry.reserve`, `Registry.enlist`: the two steps of a registration.
- `Traffic`, with `Stage.next?`, `move` and `run`: calls and their steps.
- `exists_deed`, `requests_run`: calls can go on, and stay what they were made for.
- `standing`, `numbers`, `deedsOf`: what is read off the deeds; `mem_standing_iff`.
- `Story`: the deeds of one call.
- `Recorded`: the invariant of a run; `Recorded.run`.
-/

namespace HexWorld

/-! ## Steps -/

namespace Registry

variable {β : Type}

/-- The next number is taken; nobody is on the list under it yet. -/
def reserve (r : Registry β) : UInt64 × Registry β :=
  (r.nextId, { r with nextId := r.nextId + 1 })

/-- A subscriber is put at the end of the list. -/
def enlist (e : Entry β) (r : Registry β) : Registry β :=
  { r with entries := r.entries ++ [e] }

/-- A registration takes a number and puts the subscriber on the list under it. -/
theorem register_eq (b : β) (r : Registry β) :
    r.register b = (r.reserve.1, r.reserve.2.enlist ⟨r.reserve.1, b⟩) :=
  rfl

end Registry

namespace Traffic

/-- What is asked of a registry. -/
inductive Request (β : Type) where
  | register (subscriber : β)
  | deregister (id : UInt64)
  | notify

/-- Where a call stands. -/
inductive Stage (β : Type) where
  | registering (subscriber : β)
  /-- It has its number. -/
  | enlisting (e : Entry β)
  | registered (e : Entry β)
  | deregistering (id : UInt64)
  | deregistered (id : UInt64) (found : Bool)
  | notifying
  /-- It has called some, and has `rest` to call. -/
  | passing (rest : List (Entry β)) (report : Report)
  /-- It waits for a subscriber that it has called. -/
  | calling (e : Entry β) (rest : List (Entry β)) (report : Report)
  | notified (report : Report)

/-- What a call does in a step. -/
inductive Deed (β : Type) where
  | numbered (id : UInt64)
  | enlisted (e : Entry β)
  | removed (id : UInt64) (found : Bool)
  /-- A notification has looked at the list. -/
  | began
  | called (e : Entry β)
  | returned (e : Entry β) (outcome : Outcome)
  | reported (report : Report)

end Traffic

/-- A registry with all calls that have been made on it. -/
structure Traffic (β : Type) where
  registry : Registry β
  calls : List (Traffic.Stage β)

namespace Traffic

variable {β : Type}

/-- Where a new call stands. -/
def Request.stage : Request β → Stage β
  | register b => .registering b
  | deregister id => .deregistering id
  | notify => .notifying

/-- What was asked by a call. -/
def Stage.request : Stage β → Request β
  | registering b => .register b
  | enlisting e | registered e => .register e.subscriber
  | deregistering id | deregistered id _ => .deregister id
  | notifying | passing .. | calling .. | notified _ => .notify

/-- The next step of a call, unless it has returned. Only a subscriber that was called decides how
its call ends; the `outcome` is of no account to any other step. -/
def Stage.next? (r : Registry β) (outcome : Outcome) :
    Stage β → Option (Stage β × Registry β × Deed β)
  | registering b => some (enlisting ⟨r.reserve.1, b⟩, r.reserve.2, .numbered r.reserve.1)
  | enlisting e => some (registered e, r.enlist e, .enlisted e)
  | deregistering id =>
    some (deregistered id (r.deregister id).1, (r.deregister id).2,
      .removed id (r.deregister id).1)
  | notifying => some (passing r.entries .none, r, .began)
  | passing (e :: rest) report => some (calling e rest report, r, .called e)
  | calling e rest report =>
    some (passing rest (report.count outcome), r, .returned e outcome)
  | passing [] report => some (notified report, r, .reported report)
  | registered _ | deregistered .. | notified _ => none

/-- What can happen: somebody calls, or a call makes its next step. -/
inductive Move (β : Type) where
  | call (request : Request β)
  | step (n : Nat) (outcome : Outcome)

/-- Nobody is registered and nobody has called. -/
def start : Traffic β := ⟨.empty, []⟩

def move (t : Traffic β) : Move β → Traffic β × List (Nat × Deed β)
  | .call request => ({ t with calls := t.calls ++ [request.stage] }, [])
  | .step n outcome =>
    match t.calls[n]?.bind (Stage.next? t.registry outcome) with
    | some (stage, registry, deed) => (⟨registry, t.calls.set n stage⟩, [(n, deed)])
    | none => (t, [])

/-- Where moves lead, and the deeds. -/
def run : List (Move β) → Traffic β → Traffic β × List (Nat × Deed β)
  | [], t => (t, [])
  | m :: rest, t =>
    let (last, later) := run rest (t.move m).1
    (last, (t.move m).2 ++ later)

theorem run_append (moves later : List (Move β)) (t : Traffic β) :
    run (moves ++ later) t =
      ((run later (run moves t).1).1, (run moves t).2 ++ (run later (run moves t).1).2) := by
  induction moves generalizing t with
  | nil => rfl
  | cons m rest ih =>
      rw [List.cons_append, run, run, ih]
      simp only [List.append_assoc]

theorem move_step {t : Traffic β} {n : Nat} {outcome : Outcome} {stage stage' : Stage β}
    {r : Registry β} {deed : Deed β} (stands : t.calls[n]? = some stage)
    (next : stage.next? t.registry outcome = some (stage', r, deed)) :
    t.move (.step n outcome) = (⟨r, t.calls.set n stage'⟩, [(n, deed)]) := by
  unfold move
  simp only [stands, Option.bind_some, next]

/-- A step of a call, or nothing. -/
theorem move_step_cases (t : Traffic β) (n : Nat) (outcome : Outcome) :
    t.move (.step n outcome) = (t, []) ∨
    ∃ stage stage' r deed, t.calls[n]? = some stage ∧
      stage.next? t.registry outcome = some (stage', r, deed) ∧
      t.move (.step n outcome) = (⟨r, t.calls.set n stage'⟩, [(n, deed)]) := by
  cases stands : t.calls[n]? with
  | none => exact .inl (by simp [move, stands])
  | some stage =>
      cases next : stage.next? t.registry outcome with
      | none => exact .inl (by simp [move, stands, next])
      | some result => exact .inr ⟨stage, _, _, _, rfl, next, move_step stands next⟩

/-- The call has returned. -/
def Stage.HasReturned : Stage β → Prop
  | registered _ | deregistered .. | notified _ => True
  | _ => False

/-- Nobody has to wait for others: a call that has not returned can always go on. -/
theorem exists_deed {t : Traffic β} {n : Nat} {stage : Stage β} (stands : t.calls[n]? = some stage)
    (goesOn : ¬stage.HasReturned) (outcome : Outcome) :
    ∃ deed, (t.move (.step n outcome)).2 = [(n, deed)] := by
  have next : ∃ result, stage.next? t.registry outcome = some result := by
    cases stage with
    | registered | deregistered | notified => exact absurd trivial goesOn
    | passing rest => cases rest <;> exact ⟨_, rfl⟩
    | registering | enlisting | deregistering | notifying | calling => exact ⟨_, rfl⟩
  obtain ⟨⟨stage', r, deed⟩, next⟩ := next
  exact ⟨deed, by rw [move_step stands next]⟩

/-- What is asked by a move. -/
def Move.request? : Move β → Option (Request β)
  | call request => some request
  | step .. => none

theorem request_next? {r r' : Registry β} {outcome : Outcome} {stage stage' : Stage β}
    {deed : Deed β} (next : stage.next? r outcome = some (stage', r', deed)) :
    stage'.request = stage.request := by
  cases stage with
  | passing rest =>
      cases rest <;>
      · cases next
        rfl
  | registering | enlisting | deregistering | notifying | calling =>
      cases next
      rfl
  | registered | deregistered | notified => cases next

/-- Calls are made in order, and stay what they were made for. -/
theorem requests_run (moves : List (Move β)) (t : Traffic β) :
    (run moves t).1.calls.map Stage.request =
      t.calls.map Stage.request ++ moves.filterMap Move.request? := by
  induction moves generalizing t with
  | nil => exact (List.append_nil _).symm
  | cons m rest ih =>
      refine (ih (t.move m).1).trans ?_
      cases m with
      | call request =>
          have made : request.stage.request = request := by cases request <;> rfl
          simp [move, Move.request?, made]
      | step n outcome =>
          congr 1
          rcases t.move_step_cases n outcome with
            rests | ⟨stage, stage', r, deed, stands, next, steps⟩
          · rw [rests]
          · rw [steps, List.map_set, request_next? next]
            refine List.ext_getElem? fun k => ?_
            by_cases same : n = k
            · subst same
              have inside : n < (t.calls.map Stage.request).length := by
                rw [List.length_map]
                exact (List.getElem?_eq_some_iff.mp stands).1
              rw [List.getElem?_set_self inside, List.getElem?_map, stands]
              rfl
            · rw [List.getElem?_set_ne same]

/-! ## What is read off the deeds -/

namespace Deed

/-- The number that a registration takes. -/
def number? : Deed β → Option UInt64
  | numbered id => some id
  | _ => none

def enlisted? : Deed β → Option (Entry β)
  | enlisted e => some e
  | _ => none

def removes (id : UInt64) : Deed β → Bool
  | removed other _ => other == id
  | _ => false

end Deed

/-- A number is taken off the list by one of the deeds, or would be. -/
def removesAny (id : UInt64) (deeds : List (Nat × Deed β)) : Bool :=
  deeds.any fun d => d.2.removes id

/-- Whoever has been put on the list and has not been removed since, in this order. -/
def standing : List (Nat × Deed β) → List (Entry β)
  | [] => []
  | (_, .enlisted e) :: rest => if removesAny e.id rest then standing rest else e :: standing rest
  | _ :: rest => standing rest

/-- The numbers given, in order. -/
def numbers (deeds : List (Nat × Deed β)) : List UInt64 :=
  deeds.filterMap (·.2.number?)

/-- Whoever has been put on the list. -/
def enlistings (deeds : List (Nat × Deed β)) : List (Entry β) :=
  deeds.filterMap (·.2.enlisted?)

/-- What one call has done. -/
def deedsOf (n : Nat) (deeds : List (Nat × Deed β)) : List (Deed β) :=
  deeds.filterMap fun d => if d.1 = n then some d.2 else none

/-- The subscribers that were called, and how the calls ended. -/
def called (done : List (Entry β × Outcome)) : List (Deed β) :=
  done.flatMap fun c => [.called c.1, .returned c.1 c.2]

/-- The report on calls that ended so. -/
def reportOf (done : List (Entry β × Outcome)) : Report :=
  (done.map Prod.snd).foldl Report.count .none

section Reading

variable {deeds : List (Nat × Deed β)} {n : Nat} {d : Deed β}

theorem removesAny_concat (id : UInt64) :
    removesAny id (deeds ++ [(n, d)]) = (removesAny id deeds || d.removes id) := by
  rw [removesAny, List.any_append, List.any_cons, List.any_nil, Bool.or_false]
  rfl

theorem numbers_concat :
    numbers (deeds ++ [(n, d)]) = numbers deeds ++ d.number?.toList := by
  rw [numbers, List.filterMap_append]
  cases d <;> rfl

theorem enlistings_concat :
    enlistings (deeds ++ [(n, d)]) = enlistings deeds ++ d.enlisted?.toList := by
  rw [enlistings, List.filterMap_append]
  cases d <;> rfl

/-- One more deed takes off the list whom it removes, and puts on it whom it enlists. -/
theorem standing_concat : standing (deeds ++ [(n, d)]) =
    (standing deeds).filter (fun e => !d.removes e.id) ++ d.enlisted?.toList := by
  induction deeds with
  | nil => cases d <;> rfl
  | cons first rest ih =>
      obtain ⟨k, first⟩ := first
      cases first with
      | enlisted e =>
          rw [List.cons_append, standing, standing, removesAny_concat, ih]
          cases removesAny e.id rest with
          | true => rfl
          | false => cases removes : d.removes e.id <;> simp [removes]
      | numbered | removed | began | called | returned | reported => exact ih

theorem standing_concat_enlisted (e : Entry β) :
    standing (deeds ++ [(n, .enlisted e)]) = standing deeds ++ [e] := by
  simp [standing_concat, Deed.removes, Deed.enlisted?]

theorem standing_concat_removed (id : UInt64) (found : Bool) :
    standing (deeds ++ [(n, .removed id found)]) = (standing deeds).filter (·.id != id) := by
  simp [standing_concat, Deed.removes, Deed.enlisted?, bne, BEq.comm (a := id)]

theorem standing_concat_other (kept : d.enlisted? = none) (unremoved : ∀ id, d.removes id = false) :
    standing (deeds ++ [(n, d)]) = standing deeds := by
  simp [standing_concat, kept, unremoved]

/-- A deed among others is the first of them or comes later. -/
theorem exists_split_cons_iff {k : Nat} {first d : Deed β} {rest : List (Nat × Deed β)}
    {fits : List (Nat × Deed β) → Prop} :
    (∃ past n later, (k, first) :: rest = past ++ (n, d) :: later ∧ fits later) ↔
      first = d ∧ fits rest ∨ ∃ past n later, rest = past ++ (n, d) :: later ∧ fits later := by
  constructor
  · rintro ⟨past, n, later, split, fitting⟩
    cases past with
    | nil =>
        cases split
        exact .inl ⟨rfl, fitting⟩
    | cons _ past =>
        obtain ⟨-, tail⟩ := List.cons.inj split
        exact .inr ⟨past, n, later, tail, fitting⟩
  · rintro (⟨rfl, fitting⟩ | ⟨past, n, later, rfl, fitting⟩)
    · exact ⟨[], k, rest, rfl, fitting⟩
    · exact ⟨(k, first) :: past, n, later, rfl, fitting⟩

/-- Somebody stands on the list if there is a registration without a later removal. -/
theorem mem_standing_iff {e : Entry β} :
    e ∈ standing deeds ↔ ∃ past n later, deeds = past ++ (n, .enlisted e) :: later ∧
      removesAny e.id later = false := by
  induction deeds with
  | nil => simp [standing]
  | cons first rest ih =>
      obtain ⟨k, first⟩ := first
      rw [exists_split_cons_iff, ← ih]
      cases first with
      | enlisted e' =>
          rw [standing, Deed.enlisted.injEq]
          split
          · next gone =>
            refine (or_iff_right ?_).symm
            rintro ⟨rfl, stays⟩
            rw [gone] at stays
            cases stays
          · next stays =>
            rw [List.mem_cons, eq_comm (a := e)]
            refine or_congr_left (iff_self_and.mpr ?_)
            rintro rfl
            exact Bool.eq_false_iff.mpr stays
      | numbered | removed | began | called | returned | reported =>
          exact (or_iff_right fun other => nomatch other.1).symm

theorem standing_sublist_enlistings (deeds : List (Nat × Deed β)) :
    (standing deeds).Sublist (enlistings deeds) := by
  induction deeds with
  | nil => exact List.Sublist.refl _
  | cons first rest ih =>
      obtain ⟨k, first⟩ := first
      cases first with
      | enlisted e =>
          rw [standing]
          split
          · exact ih.cons e
          · exact ih.cons_cons e
      | numbered | removed | began | called | returned | reported => exact ih

/-- What can be read off one entry only stands for that entry. -/
theorem eq_of_nodup_filterMap {α γ : Type} {read : α → Option γ} {entries : List α}
    (distinct : (entries.filterMap read).Nodup) {a b : α} {c : γ} (first : a ∈ entries)
    (second : b ∈ entries) (of_a : read a = some c) (of_b : read b = some c) : a = b := by
  induction entries with
  | nil => cases first
  | cons d rest ih =>
      have apart {a : α} (later : a ∈ rest) (of_a : read a = some c) (of_d : read d = some c) :
          False := by
        rw [List.filterMap_cons_some of_d, List.nodup_cons] at distinct
        exact distinct.1 (List.mem_filterMap.mpr ⟨a, later, of_a⟩)
      have tail : (rest.filterMap read).Nodup :=
        ((List.sublist_cons_self d rest).filterMap read).nodup distinct
      rcases List.mem_cons.mp first with rfl | a_later <;>
        rcases List.mem_cons.mp second with rfl | b_later
      · rfl
      · exact (apart b_later of_b of_a).elim
      · exact (apart a_later of_a of_b).elim
      · exact ih tail a_later b_later

theorem deedsOf_append (n : Nat) (deeds more : List (Nat × Deed β)) :
    deedsOf n (deeds ++ more) = deedsOf n deeds ++ deedsOf n more :=
  List.filterMap_append

theorem mem_deedsOf : d ∈ deedsOf n deeds ↔ (n, d) ∈ deeds := by
  simp [deedsOf, List.mem_filterMap]

/-- Whoever is on the list was put on it by a call. -/
theorem exists_call_of_enlisted {e : Entry β} (mem : e ∈ enlistings deeds) :
    ∃ n, .enlisted e ∈ deedsOf n deeds := by
  obtain ⟨⟨n, d⟩, noted, is⟩ := List.mem_filterMap.mp mem
  refine ⟨n, mem_deedsOf.mpr ?_⟩
  cases d with
  | enlisted e' => exact Option.some.inj is ▸ noted
  | numbered | removed | began | called | returned | reported => cases is

theorem called_concat (done : List (Entry β × Outcome)) (e : Entry β) (outcome : Outcome) :
    called (done ++ [(e, outcome)]) = called done ++ [.called e, .returned e outcome] := by
  simp [called]

theorem reportOf_concat (done : List (Entry β × Outcome)) (e : Entry β) (outcome : Outcome) :
    reportOf (done ++ [(e, outcome)]) = (reportOf done).count outcome := by
  simp [reportOf]

end Reading

/-! ## The story of a call -/

/-- When the notification that is call `n` looked at the list, these stood on it. -/
def Saw (deeds : List (Nat × Deed β)) (n : Nat) (list : List (Entry β)) : Prop :=
  ∃ past later, deeds = past ++ (n, .began) :: later ∧ standing past = list

/-- What a call has done, up to where it stands. A notification has called those it `saw` when it
looked at the list, one after the other and as far as it has come. -/
inductive Story (saw : List (Entry β) → Prop) : List (Deed β) → Option (Stage β) → Prop where
  | absent : Story saw [] none
  | asked (request : Request β) : Story saw [] (some request.stage)
  | enlisting {e} : Story saw [.numbered e.id] (some (.enlisting e))
  | registered {e} : Story saw [.numbered e.id, .enlisted e] (some (.registered e))
  | deregistered {id found} : Story saw [.removed id found] (some (.deregistered id found))
  | passing {done rest} (list : saw (done.map Prod.fst ++ rest)) :
      Story saw (.began :: called done) (some (.passing rest (reportOf done)))
  | calling {done e rest} (list : saw (done.map Prod.fst ++ e :: rest)) :
      Story saw (.began :: called done ++ [.called e]) (some (.calling e rest (reportOf done)))
  | notified {done} (list : saw (done.map Prod.fst)) :
      Story saw (.began :: called done ++ [.reported (reportOf done)])
        (some (.notified (reportOf done)))

namespace Story

variable {saw saw' : List (Entry β) → Prop} {own : List (Deed β)} {stage stage' : Stage β}
  {r r' : Registry β} {outcome : Outcome} {deed : Deed β}

theorem mono {stage : Option (Stage β)} (h : Story saw own stage)
    (still : ∀ list, saw list → saw' list) : Story saw' own stage := by
  cases h with
  | absent => exact .absent
  | asked request => exact .asked request
  | enlisting => exact .enlisting
  | registered => exact .registered
  | deregistered => exact .deregistered
  | passing list => exact .passing (still _ list)
  | calling list => exact .calling (still _ list)
  | notified list => exact .notified (still _ list)

theorem of_enlisting {e : Entry β} (h : Story saw own (some (.enlisting e))) :
    own = [.numbered e.id] := by
  generalize stands : some (Stage.enlisting e) = stage at h
  cases h with
  | enlisting =>
      cases stands
      rfl
  | asked request =>
      cases request <;> cases stands
  | absent | registered | deregistered | passing | calling | notified => cases stands

theorem of_registered {e : Entry β} (h : Story saw own (some (.registered e))) :
    own = [.numbered e.id, .enlisted e] := by
  generalize stands : some (Stage.registered e) = stage at h
  cases h with
  | registered =>
      cases stands
      rfl
  | asked request =>
      cases request <;> cases stands
  | absent | enlisting | deregistered | passing | calling | notified => cases stands

theorem of_notified {report : Report} (h : Story saw own (some (.notified report))) :
    ∃ done, report = reportOf done ∧ own = .began :: called done ++ [.reported report] ∧
      saw (done.map Prod.fst) := by
  generalize stands : some (Stage.notified report) = stage at h
  cases h with
  | notified list =>
      cases stands
      exact ⟨_, rfl, rfl, list⟩
  | asked request =>
      cases request <;> cases stands
  | absent | enlisting | registered | deregistered | passing | calling => cases stands

/-- Whoever is put on the list has got a number. -/
theorem numbered_of_enlisted {stage : Option (Stage β)} {e : Entry β} (h : Story saw own stage)
    (mem : .enlisted e ∈ own) : .numbered e.id ∈ own := by
  cases h with
  | registered =>
      cases (List.mem_cons.mp mem).resolve_left nofun with
      | head => exact List.mem_cons_self
      | tail _ none => cases none
  | absent | asked => cases mem
  | enlisting | deregistered => cases List.mem_singleton.mp mem
  | passing | calling | notified => simp [called] at mem

/-- A step goes on with the story. -/
theorem next (h : Story saw own (some stage))
    (step : stage.next? r outcome = some (stage', r', deed))
    (still : ∀ list, saw list → saw' list) (now : deed = .began → saw' r.entries) :
    Story saw' (own ++ [deed]) (some stage') := by
  generalize stands : some stage = stage? at h
  cases h with
  | absent => cases stands
  | asked request =>
      cases stands
      cases request with
      | register b =>
          cases step
          exact .enlisting (e := ⟨r.nextId, b⟩)
      | deregister id =>
          cases step
          exact .deregistered
      | notify =>
          cases step
          exact passing (show saw' ([].map Prod.fst ++ r.entries) from now rfl)
  | enlisting =>
      cases stands
      cases step
      exact .registered
  | registered | deregistered | notified =>
      cases stands
      cases step
  | @passing done rest list =>
      cases stands
      cases rest with
      | nil =>
          cases step
          rw [List.append_nil] at list
          exact .notified (still _ list)
      | cons e rest =>
          cases step
          exact .calling (still _ list)
  | @calling done e rest list =>
      cases stands
      cases step
      -- Whoever was waited for joins those that have been called.
      rw [List.append_assoc, ← reportOf_concat]
      show Story _ (.began :: (called done ++ [.called e, .returned e outcome])) _
      rw [← called_concat]
      refine .passing (still _ ?_)
      rw [List.map_append, List.append_assoc]
      exact list

end Story

/-! ## The invariant -/

/-- The deeds of a run that has led to this state. -/
structure Recorded (t : Traffic β) (deeds : List (Nat × Deed β)) : Prop where
  entries : standing deeds = t.registry.entries
  nextId : t.registry.nextId = .ofNat ((numbers deeds).length + 1)
  counted : numbers deeds = (List.range (numbers deeds).length).map fun k => .ofNat (k + 1)
  stories : ∀ n, Story (Saw deeds n) (deedsOf n deeds) t.calls[n]?
  removals : ∀ past n id found rest, deeds = past ++ (n, .removed id found) :: rest →
    (found = true ↔ id ∈ (standing past).map (·.id))
  enlisted : (numbers deeds).length ≤ UInt64.size → ((enlistings deeds).map (·.id)).Nodup

namespace Recorded

variable {t : Traffic β} {deeds : List (Nat × Deed β)}

theorem start : Recorded (.start : Traffic β) [] where
  entries := rfl
  nextId := rfl
  counted := rfl
  stories _ := .absent
  removals _ _ _ _ _ split := by simp at split
  enlisted _ := List.nodup_nil

theorem call (h : Recorded t deeds) (request : Request β) :
    Recorded { t with calls := t.calls ++ [request.stage] } deeds := by
  refine ⟨h.entries, h.nextId, h.counted, fun n => ?_, h.removals, h.enlisted⟩
  by_cases old : n < t.calls.length
  · rw [List.getElem?_append_left old]
    exact h.stories n
  · have none : deedsOf n deeds = [] := by
      have story := h.stories n
      rw [List.getElem?_eq_none (Nat.le_of_not_lt old)] at story
      generalize deedsOf n deeds = own at story
      cases story
      rfl
    rw [none, List.getElem?_append_right (Nat.le_of_not_lt old)]
    rcases n - t.calls.length with _ | k
    · exact .asked request
    · exact .absent

theorem nodup_numbers (h : Recorded t deeds) (few : (numbers deeds).length ≤ UInt64.size) :
    (numbers deeds).Nodup := by
  rw [h.counted]
  exact HexWorld.nodup_numbers few

/-- A number is given to one call only. -/
theorem call_unique (h : Recorded t deeds) (few : (numbers deeds).length ≤ UInt64.size)
    {n m : Nat} {id : UInt64} (first : Deed.numbered id ∈ deedsOf n deeds)
    (second : Deed.numbered id ∈ deedsOf m deeds) : n = m := by
  have same := eq_of_nodup_filterMap (h.nodup_numbers few) (mem_deedsOf.mp first)
    (mem_deedsOf.mp second) rfl rfl
  exact congrArg Prod.fst same

/-- Whoever is about to be put on the list has not been put on it before. -/
theorem fresh (h : Recorded t deeds) (few : (numbers deeds).length ≤ UInt64.size) {n : Nat}
    {e : Entry β} (stands : t.calls[n]? = some (.enlisting e)) :
    e.id ∉ (enlistings deeds).map (·.id) := by
  intro mem
  obtain ⟨e', mem, same⟩ := List.mem_map.mp mem
  obtain ⟨m, other⟩ := exists_call_of_enlisted mem
  have own : deedsOf n deeds = [.numbered e.id] := (stands ▸ h.stories n).of_enlisting
  have numbered : Deed.numbered e.id ∈ deedsOf m deeds := by
    rw [← same]
    exact (h.stories m).numbered_of_enlisted other
  -- The other has the number of this call, so it is this call; which has put nobody there yet.
  obtain rfl := h.call_unique few (own ▸ List.mem_singleton_self _) numbered
  rw [own] at other
  cases List.mem_singleton.mp other

variable {n : Nat} {outcome : Outcome} {stage stage' : Stage β} {r : Registry β} {deed : Deed β}

/-- The stories go on: of the call that made the step, and of all others as they were. -/
theorem stories_step (h : Recorded t deeds) (stands : t.calls[n]? = some stage)
    (step : stage.next? t.registry outcome = some (stage', r, deed)) (k : Nat) :
    Story (Saw (deeds ++ [(n, deed)]) k) (deedsOf k (deeds ++ [(n, deed)]))
      (t.calls.set n stage')[k]? := by
  have still (list : List (Entry β)) (saw : Saw deeds k list) :
      Saw (deeds ++ [(n, deed)]) k list := by
    obtain ⟨past, later, rfl, seen⟩ := saw
    exact ⟨past, later ++ [(n, deed)], by simp, seen⟩
  rw [deedsOf_append]
  by_cases same : n = k
  · subst same
    have inside : n < t.calls.length := (List.getElem?_eq_some_iff.mp stands).1
    have own : deedsOf n [(n, deed)] = [deed] := by simp [deedsOf]
    rw [List.getElem?_set_self inside, own]
    refine (stands ▸ h.stories n).next step still ?_
    rintro rfl
    exact ⟨deeds, [], rfl, h.entries⟩
  · have other : deedsOf k [(n, deed)] = [] := by simp [deedsOf, same]
    rw [List.getElem?_set_ne same, other, List.append_nil]
    exact (h.stories k).mono still

/-- What a step does to the list and to the numbers. -/
theorem registry_step (step : stage.next? t.registry outcome = some (stage', r, deed)) :
    (deed = .numbered t.registry.nextId ∧ r = t.registry.reserve.2) ∨
    (∃ e, stage = .enlisting e ∧ deed = .enlisted e ∧ r = t.registry.enlist e) ∨
    (∃ id, deed = .removed id (t.registry.deregister id).1 ∧ r = (t.registry.deregister id).2) ∨
    deed.number? = none ∧ deed.enlisted? = none ∧ (∀ id, deed.removes id = false) ∧
      (∀ id found, deed ≠ .removed id found) ∧ r = t.registry := by
  cases stage with
  | registering b =>
      cases step
      exact .inl ⟨rfl, rfl⟩
  | enlisting e =>
      cases step
      exact .inr (.inl ⟨e, rfl, rfl, rfl⟩)
  | deregistering id =>
      cases step
      exact .inr (.inr (.inl ⟨id, rfl, rfl⟩))
  | notifying | calling =>
      cases step
      exact .inr (.inr (.inr ⟨rfl, rfl, fun _ => rfl, nofun, rfl⟩))
  | passing rest =>
      cases rest <;>
      · cases step
        exact .inr (.inr (.inr ⟨rfl, rfl, fun _ => rfl, nofun, rfl⟩))
  | registered | deregistered | notified => cases step

/-- The list is what the deeds make of it. -/
theorem entries_step (h : Recorded t deeds)
    (step : stage.next? t.registry outcome = some (stage', r, deed)) :
    standing (deeds ++ [(n, deed)]) = r.entries := by
  rcases registry_step step with ⟨rfl, rfl⟩ | ⟨e, -, rfl, rfl⟩ | ⟨id, rfl, rfl⟩ |
    ⟨-, kept, unremoved, -, rfl⟩
  · rw [standing_concat_other rfl fun _ => rfl, h.entries]
    rfl
  · rw [standing_concat_enlisted, h.entries]
    rfl
  · rw [standing_concat_removed, h.entries]
    rfl
  · rw [standing_concat_other kept unremoved, h.entries]

variable (deeds n) in
/-- The next number is taken, or all numbers stay as they are. -/
theorem numbers_step (step : stage.next? t.registry outcome = some (stage', r, deed)) :
    (numbers (deeds ++ [(n, deed)]) = numbers deeds ++ [t.registry.nextId] ∧
      r.nextId = t.registry.nextId + 1) ∨
    numbers (deeds ++ [(n, deed)]) = numbers deeds ∧ r.nextId = t.registry.nextId := by
  rw [numbers_concat]
  rcases registry_step step with ⟨rfl, rfl⟩ | ⟨e, -, rfl, rfl⟩ | ⟨id, rfl, rfl⟩ |
    ⟨unnumbered, -, -, -, rfl⟩
  · exact .inl ⟨rfl, rfl⟩
  · exact .inr ⟨List.append_nil _, rfl⟩
  · exact .inr ⟨List.append_nil _, rfl⟩
  · rw [unnumbered]
    exact .inr ⟨List.append_nil _, rfl⟩

/-- A removal finds its number if it is in use when the removal comes. -/
theorem removals_step (h : Recorded t deeds)
    (step : stage.next? t.registry outcome = some (stage', r, deed)) {past : List (Nat × Deed β)}
    {k : Nat} {id : UInt64} {found : Bool} {rest : List (Nat × Deed β)}
    (split : deeds ++ [(n, deed)] = past ++ (k, .removed id found) :: rest) :
    found = true ↔ id ∈ (standing past).map (·.id) := by
  rcases split_concat split with ⟨rfl, last, -⟩ | ⟨after, earlier, -⟩
  · rcases registry_step step with ⟨rfl, -⟩ | ⟨e, -, rfl, -⟩ | ⟨id', rfl, -⟩ | ⟨-, -, -, other, -⟩
    · cases last
    · cases last
    · cases last
      rw [h.entries]
      exact List.contains_iff_mem
    · exact absurd (congrArg Prod.snd last).symm (other id found)
  · exact h.removals past k id found after earlier

/-- Nobody is put on the list under a number that has been on it before. -/
theorem enlisted_step (h : Recorded t deeds) (stands : t.calls[n]? = some stage)
    (step : stage.next? t.registry outcome = some (stage', r, deed))
    (few : (numbers deeds).length ≤ UInt64.size) :
    ((enlistings (deeds ++ [(n, deed)])).map (·.id)).Nodup := by
  rw [enlistings_concat]
  rcases registry_step step with ⟨rfl, -⟩ | ⟨e, rfl, rfl, -⟩ | ⟨id, rfl, -⟩ | ⟨-, kept, -⟩
  · exact (List.append_nil (enlistings deeds)).symm ▸ h.enlisted few
  · show ((enlistings deeds ++ [e]).map (·.id)).Nodup
    rw [List.map_append, List.nodup_append]
    refine ⟨h.enlisted few, List.pairwise_singleton _ _, ?_⟩
    rintro id mem _ last rfl
    have own : id = e.id := List.mem_singleton.mp last
    exact h.fresh few stands (own ▸ mem)
  · exact (List.append_nil (enlistings deeds)).symm ▸ h.enlisted few
  · rw [kept]
    exact (List.append_nil (enlistings deeds)).symm ▸ h.enlisted few

theorem step (h : Recorded t deeds) (stands : t.calls[n]? = some stage)
    (step : stage.next? t.registry outcome = some (stage', r, deed)) :
    Recorded ⟨r, t.calls.set n stage'⟩ (deeds ++ [(n, deed)]) where
  entries := h.entries_step step
  nextId := by
    rcases numbers_step deeds n step with ⟨more, taken⟩ | ⟨same, kept⟩
    · rw [taken, more, List.length_append, h.nextId]
      exact (UInt64.ofNat_add _ _).symm
    · rw [kept, same, h.nextId]
  counted := by
    rcases numbers_step deeds n step with ⟨more, -⟩ | ⟨same, -⟩
    · rw [more, List.length_append, List.length_singleton, List.range_succ, List.map_append,
        ← h.counted, h.nextId]
      rfl
    · rw [same]
      exact h.counted
  stories := h.stories_step stands step
  removals _ _ _ _ _ split := h.removals_step step split
  enlisted few := by
    refine h.enlisted_step stands step (Nat.le_trans ?_ few)
    rw [numbers_concat, List.length_append]
    exact Nat.le_add_right _ _

theorem move (h : Recorded t deeds) (m : Move β) :
    Recorded (t.move m).1 (deeds ++ (t.move m).2) := by
  cases m with
  | call request =>
      rw [Traffic.move, List.append_nil]
      exact h.call request
  | step n outcome =>
      rcases t.move_step_cases n outcome with rests | ⟨stage, stage', r, deed, stands, next, steps⟩
      · rw [rests, List.append_nil]
        exact h
      · rw [steps]
        exact h.step stands next

/-- What the deeds tell is kept by every run. -/
theorem run (h : Recorded t deeds) (moves : List (Move β)) :
    Recorded (Traffic.run moves t).1 (deeds ++ (Traffic.run moves t).2) := by
  induction moves generalizing t deeds with
  | nil =>
      rw [Traffic.run, List.append_nil]
      exact h
  | cons m rest ih =>
      rw [Traffic.run, ← List.append_assoc]
      exact ih (h.move m)

end Recorded

end Traffic
end HexWorld
