import HexWorld.Proofs.History
import HexWorld.Sync.Hub

/-!
# `Proofs.Sync.Registry` — the history of a registry

Subscribers register and remove one another, also while a notification goes through them. What
happens is noted down, note by note; who is registered at any moment can be read off the notes, and
so can who has been called with what.

## Contents
- `Change`, `Conduct`: what subscribers do to the registry when they are called.
- `Note`, `live`, `registeredIds`, `due`: what is noted, and what can be read off it.
- `Ledger`: the notes are those of a registry.
- `callAll_noted`: the notes of one notification.
- `Orderly`: notes in which every notification calls whoever is registered when it begins.
- `Orderly.calls_of_pass`, `Orderly.callsOf_eq_due`.
-/

namespace HexWorld

/-! ## Changes and calls -/

/-- A change of the registry. -/
inductive Change (β : Type) where
  | register (subscriber : β)
  | deregister (id : UInt64)

/-- What is noted about subscribers. -/
inductive Note (β : Type) where
  | registered (e : Entry β)
  | removed (id : UInt64)
  /-- A notification begins. -/
  | pass (s : Snapshot)
  /-- A subscriber is called with a snapshot, while the store holds what it finds. -/
  | called (e : Entry β) (s : Snapshot) (found : Option Snapshot)

namespace Registry

variable {β : Type}

def change (r : Registry β) : Change β → Registry β
  | .register b => (r.register b).2
  | .deregister id => (r.deregister id).2

/-- The note of a change. -/
def note (r : Registry β) : Change β → Note β
  | .register b => .registered ⟨r.nextId, b⟩
  | .deregister id => .removed id

/-- The notes of several changes. -/
def notes (r : Registry β) : List (Change β) → List (Note β)
  | [] => []
  | c :: rest => r.note c :: (r.change c).notes rest

end Registry

/-- What subscribers do when they are called with a snapshot: the changes that they make to the
registry one after the other, what they remember, and how the call ends. -/
structure Conduct (β τ : Type) where
  changes : Option Snapshot → Snapshot → Entry β → Registry β × τ → List (Change β)
  memory : Option Snapshot → Snapshot → Entry β → Registry β × τ → τ
  outcome : Option Snapshot → Snapshot → Entry β → Registry β × τ → Outcome

namespace Conduct

variable {β τ : Type}

def subscription (c : Conduct β τ) : Subscription β τ := fun found s e state =>
  (((c.changes found s e state).foldl Registry.change state.1, c.memory found s e state),
    c.outcome found s e state)

/-- The same subscribers; calls and changes are noted down. -/
def noted (c : Conduct β τ) : Subscription β (τ × List (Note β)) := fun found s e state =>
  let before := (state.1, state.2.1)
  let changes := c.changes found s e before
  ((changes.foldl Registry.change state.1,
      (c.memory found s e before,
        state.2.2 ++ .called e s found :: state.1.notes changes)),
    c.outcome found s e before)

end Conduct

/-! ## What is read off the notes -/

namespace Note

variable {β : Type}

def isPass : Note β → Bool
  | pass _ => true
  | _ => false

def isCalled : Note β → Bool
  | called .. => true
  | _ => false

/-- The number that a registration gives. -/
def registered? : Note β → Option UInt64
  | registered e => some e.id
  | _ => none

/-- The snapshot with which a number is called. -/
def calledAs? (id : UInt64) : Note β → Option Snapshot
  | called e s _ => if e.id = id then some s else none
  | _ => none

def pass? : Note β → Option Snapshot
  | pass s => some s
  | _ => none

theorem pass?_eq_none {n : Note β} (other : n.isPass = false) : n.pass? = none := by
  cases n with
  | pass => cases other
  | called | registered | removed => rfl

/-- Who is registered after one more note. -/
def alter (live : List (Entry β)) : Note β → List (Entry β)
  | registered e => live ++ [e]
  | removed id => live.filter (·.id != id)
  | pass _ | called .. => live

/-- Whether a number is registered after one more note. -/
def keeps (id : UInt64) (on : Bool) : Note β → Bool
  | registered e => on || e.id == id
  | removed other => on && other != id
  | pass _ | called .. => on

end Note

section Reading

variable {β : Type}

/-- Who is registered, in order of registration. -/
def live (notes : List (Note β)) : List (Entry β) :=
  notes.foldl Note.alter []

/-- The numbers given so far. -/
def registeredIds (notes : List (Note β)) : List UInt64 :=
  notes.filterMap Note.registered?

/-- The notifications, in order. -/
def passes (notes : List (Note β)) : List Snapshot :=
  notes.filterMap Note.pass?

/-- The snapshots with which a number has been called, in order. -/
def callsOf (id : UInt64) (notes : List (Note β)) : List Snapshot :=
  notes.filterMap (Note.calledAs? id)

/-- The calls before the next notification begins. -/
def callsNow : List (Note β) → List (Note β)
  | [] | .pass _ :: _ => []
  | .called e s found :: rest => .called e s found :: callsNow rest
  | .registered _ :: rest | .removed _ :: rest => callsNow rest

/-- The snapshots due to a number: those whose notification begins while it is registered. `on`
tells whether it is registered before all notes. -/
def due (id : UInt64) (on : Bool) : List (Note β) → List Snapshot
  | [] => []
  | n :: rest => (if on then n.pass?.toList else []) ++ due id (n.keeps id on) rest

end Reading

/-! ## Ledgers -/

section Ledger

variable {β τ : Type} {notes : List (Note β)} {r : Registry β}

theorem live_concat (notes : List (Note β)) (n : Note β) :
    live (notes ++ [n]) = n.alter (live notes) := by
  unfold live
  rw [List.foldl_append]
  rfl

/-- The notes are those of the registry: it holds whoever is registered, and its numbers are given
one after the other, starting at one. -/
structure Ledger (notes : List (Note β)) (r : Registry β) : Prop where
  entries : live notes = r.entries
  next : r.nextId = UInt64.ofNat ((registeredIds notes).length + 1)
  numbers : registeredIds notes =
    (List.range (registeredIds notes).length).map fun k => UInt64.ofNat (k + 1)

namespace Ledger

theorem empty : Ledger ([] : List (Note β)) .empty where
  entries := rfl
  next := rfl
  numbers := rfl

/-- A note that is about no change. -/
theorem silent (h : Ledger notes r) {n : Note β} (same : n.alter (live notes) = live notes)
    (none : n.registered? = none) : Ledger (notes ++ [n]) r := by
  have ids : registeredIds (notes ++ [n]) = registeredIds notes := by
    rw [registeredIds, List.filterMap_append, List.filterMap_cons_none none]
    exact List.append_nil _
  refine ⟨?_, ?_, ?_⟩
  · rw [live_concat, same, h.entries]
  · rw [ids]
    exact h.next
  · rw [ids]
    exact h.numbers

theorem change (h : Ledger notes r) (c : Change β) : Ledger (notes ++ [r.note c]) (r.change c) := by
  cases c with
  | deregister id =>
      have ids : registeredIds (notes ++ [.removed id]) = registeredIds notes := by
        rw [registeredIds, List.filterMap_append]
        exact List.append_nil _
      show Ledger (notes ++ [.removed id]) (r.deregister id).2
      refine ⟨?_, ids ▸ h.next, ids ▸ h.numbers⟩
      rw [live_concat, h.entries]
      rfl
  | register b =>
      have ids : registeredIds (notes ++ [.registered ⟨r.nextId, b⟩]) =
          registeredIds notes ++ [r.nextId] := by
        rw [registeredIds, List.filterMap_append]
        rfl
      show Ledger (notes ++ [.registered ⟨r.nextId, b⟩]) (r.register b).2
      refine ⟨?_, ?_, ?_⟩
      · rw [live_concat, h.entries]
        rfl
      · rw [ids, List.length_append]
        show r.nextId + 1 = _
        rw [h.next]
        exact (UInt64.ofNat_add _ _).symm
      · rw [ids, List.length_append, List.length_singleton, List.range_succ, List.map_append,
          ← h.numbers, h.next]
        rfl

theorem changes (h : Ledger notes r) (cs : List (Change β)) :
    Ledger (notes ++ r.notes cs) (cs.foldl Registry.change r) := by
  induction cs generalizing notes r with
  | nil =>
      rw [Registry.notes, List.append_nil]
      exact h
  | cons c rest ih =>
      rw [Registry.notes, List.append_cons]
      exact ih (h.change c)

end Ledger

/-! ## One notification -/

/-- The note of a change is about neither a call nor a notification. -/
theorem note_isChange (r : Registry β) (c : Change β) :
    (r.note c).isCalled = false ∧ (r.note c).isPass = false := by
  cases c <;> exact ⟨rfl, rfl⟩

theorem notes_areChanges (cs : List (Change β)) {n : Note β} (h : n ∈ r.notes cs) :
    n.isCalled = false ∧ n.isPass = false := by
  induction cs generalizing r with
  | nil => cases h
  | cons c rest ih =>
      rcases List.mem_cons.mp h with rfl | h
      · exact note_isChange r c
      · exact ih h

/-- **The calls of a notification, as they are noted.** Noting changes nothing else; everyone on the
list is called once, in order; and the notes go on with those of the registry. -/
theorem callAll_noted (c : Conduct β τ) (found : Option Snapshot) (s : Snapshot)
    (entries : List (Entry β)) (h : Ledger notes r) (memory : τ) (before : List (Note β))
    (report : Report) :
    let plain := Registry.callAll (c.subscription found s) entries (r, memory) report
    ∃ more, Registry.callAll (c.noted found s) entries (r, memory, before) report =
        ((plain.1.1, plain.1.2, before ++ more), plain.2) ∧
      Ledger (notes ++ more) plain.1.1 ∧
      more.filter (·.isCalled) = entries.map (.called · s found) ∧
      ∀ n ∈ more, n.isPass = false := by
  induction entries generalizing notes r memory before report with
  | nil =>
      refine ⟨[], ?_, ?_, rfl, List.forall_mem_nil _⟩
      · rw [List.append_nil]
        rfl
      · rw [List.append_nil]
        exact h
  | cons e rest ih =>
      have called : Ledger (notes ++ [.called e s found]) r := h.silent rfl rfl
      have changed := called.changes (c.changes found s e (r, memory))
      obtain ⟨more, same, ledger, calls, inner⟩ := ih changed (c.memory found s e (r, memory))
        (before ++ .called e s found :: r.notes (c.changes found s e (r, memory)))
        (report.count (c.outcome found s e (r, memory)))
      refine ⟨.called e s found :: r.notes (c.changes found s e (r, memory)) ++ more,
        ?_, ?_, ?_, ?_⟩
      · rw [← List.append_assoc]
        exact same
      · have assoc : notes ++
            (.called e s found :: r.notes (c.changes found s e (r, memory)) ++ more) =
            notes ++ [.called e s found] ++ r.notes (c.changes found s e (r, memory)) ++ more := by
          simp
        rw [assoc]
        exact ledger
      · have silent : (r.notes (c.changes found s e (r, memory))).filter (·.isCalled) = [] := by
          rw [List.filter_eq_nil_iff]
          exact fun n hn => Bool.eq_false_iff.mp (notes_areChanges _ hn).1
        rw [List.filter_append, List.filter_cons_of_pos rfl, silent, calls]
        rfl
      · intro n hn
        rcases List.mem_append.mp hn with hn | hn
        · rcases List.mem_cons.mp hn with rfl | hn
          · rfl
          · exact (notes_areChanges _ hn).2
        · exact inner n hn

/-! ## Orderly notes -/

/-- Notes in which every notification calls whoever is registered when it begins, once each and in
order, while the store holds the snapshot; and nobody is called otherwise. -/
inductive Orderly : List (Note β) → Prop where
  | start : Orderly []
  | change {notes n} (h : Orderly notes) (uncalled : n.isCalled = false)
      (between : n.isPass = false) : Orderly (notes ++ [n])
  | pass {notes s more} (h : Orderly notes)
      (calls : more.filter (·.isCalled) = (live notes).map (.called · s (some s)))
      (inner : ∀ n ∈ more, n.isPass = false) : Orderly (notes ++ .pass s :: more)

theorem callsNow_of_inner {more : List (Note β)} (inner : ∀ n ∈ more, n.isPass = false) :
    callsNow more = more.filter (·.isCalled) := by
  induction more with
  | nil => rfl
  | cons n rest ih =>
      have tail := ih fun m hm => inner m (List.mem_cons_of_mem n hm)
      cases n with
      | pass => cases inner _ List.mem_cons_self
      | called => exact congrArg (_ :: ·) tail
      | registered | removed => exact tail

theorem passes_append (notes more : List (Note β)) :
    passes (notes ++ more) = passes notes ++ passes more :=
  List.filterMap_append

theorem passes_of_inner {more : List (Note β)} (inner : ∀ n ∈ more, n.isPass = false) :
    passes more = [] := by
  unfold passes
  rw [List.filterMap_eq_nil_iff]
  exact fun n hn => Note.pass?_eq_none (inner n hn)

/-- What comes after the next notification has begun does not count. -/
theorem callsNow_append_pass (notes : List (Note β)) (s : Snapshot) (more : List (Note β)) :
    callsNow (notes ++ .pass s :: more) = callsNow notes := by
  induction notes with
  | nil => rfl
  | cons n rest ih =>
      cases n with
      | pass => rfl
      | called => exact congrArg (_ :: ·) ih
      | registered | removed => exact ih

theorem callsNow_concat (notes : List (Note β)) {n : Note β} (uncalled : n.isCalled = false) :
    callsNow (notes ++ [n]) = callsNow notes := by
  induction notes with
  | nil =>
      cases n with
      | called => cases uncalled
      | pass | registered | removed => rfl
  | cons m rest ih =>
      cases m with
      | pass => rfl
      | called => exact congrArg (_ :: ·) ih
      | registered | removed => exact ih

namespace Orderly

/-- Nobody is called before the first notification. -/
theorem callsNow_eq_nil (h : Orderly notes) : callsNow notes = [] := by
  induction h with
  | start => rfl
  | change _ uncalled _ ih => rw [callsNow_concat _ uncalled, ih]
  | pass _ _ _ ih => rw [callsNow_append_pass, ih]

/-- **Each notification calls whoever is registered when it begins**, while the store holds its
snapshot. -/
theorem calls_of_pass (h : Orderly notes) {past rest : List (Note β)} {s : Snapshot}
    (split : notes = past ++ .pass s :: rest) :
    callsNow rest = (live past).map (.called · s (some s)) := by
  induction h generalizing rest with
  | start => simp at split
  | @change notes n _ uncalled between ih =>
      rcases split_concat split with ⟨-, rfl, -⟩ | ⟨after, earlier, rfl⟩
      · cases between
      · rw [callsNow_concat _ uncalled]
        exact ih earlier
  | @pass notes s' more _ calls inner ih =>
      rcases split_append split with ⟨between, rfl, last⟩ | ⟨after, earlier, rfl⟩
      · cases between with
        | nil =>
            -- It is the last notification.
            cases last
            rw [List.append_nil, callsNow_of_inner inner, calls]
        | cons n between =>
            obtain ⟨-, tail⟩ := List.cons.inj last
            have mem : Note.pass s ∈ more := by simp [tail]
            cases inner _ mem
      · rw [callsNow_append_pass]
        exact ih earlier

end Orderly

/-! ## Each number by itself -/

theorem live_sublist_registered (notes : List (Note β)) :
    ((live notes).map (·.id)).Sublist (registeredIds notes) := by
  -- The claim is generalised to those who were there before.
  suffices h : ∀ before : List (Entry β),
      ((notes.foldl Note.alter before).map (·.id)).Sublist
        (before.map (·.id) ++ registeredIds notes) by
    exact h []
  induction notes with
  | nil =>
      intro before
      rw [registeredIds, List.filterMap_nil, List.append_nil]
      exact List.Sublist.refl _
  | cons n rest ih =>
      intro before
      refine (ih (n.alter before)).trans ?_
      cases n with
      | registered e =>
          rw [Note.alter, List.map_append, List.append_assoc]
          exact List.Sublist.refl _
      | removed id => exact (List.filter_sublist.map _).append_right _
      | pass | called => exact List.Sublist.refl _

/-- The numbers from one on wrap around, but not before all of them have been given. -/
theorem nodup_numbers {count : Nat} (enough : count ≤ UInt64.size) :
    ((List.range count).map fun k => UInt64.ofNat (k + 1)).Nodup := by
  rw [List.Nodup, List.pairwise_map]
  refine List.nodup_range.imp_of_mem ?_
  intro k l hk hl apart same
  have value := congrArg UInt64.toNat same
  rw [List.mem_range] at hk hl
  rw [UInt64.toNat_ofNat', UInt64.toNat_ofNat'] at value
  have size : UInt64.size = 2 ^ 64 := rfl
  omega

/-- Numbers are given once each, as long as there are enough of them. -/
theorem Ledger.nodup_registered (h : Ledger notes r)
    (enough : (registeredIds notes).length ≤ UInt64.size) : (registeredIds notes).Nodup := by
  rw [h.numbers]
  exact nodup_numbers enough

theorem due_append (id : UInt64) (on : Bool) (notes later : List (Note β)) :
    due id on (notes ++ later) =
      due id on notes ++ due id (notes.foldl (Note.keeps id) on) later := by
  induction notes generalizing on with
  | nil => rfl
  | cons n rest ih =>
      show _ ++ due id _ (rest ++ later) = _ ++ _ ++ _
      rw [ih, List.append_assoc]
      rfl

/-- A number is registered if a live subscriber has it. -/
theorem keeps_eq_any (id : UInt64) (notes : List (Note β)) :
    notes.foldl (Note.keeps id) false = (live notes).any (·.id == id) := by
  show notes.foldl (Note.keeps id) (([] : List (Entry β)).any (·.id == id)) = _
  refine List.foldl_hom (fun entries : List (Entry β) => entries.any (·.id == id)) ?_
  intro entries n
  cases n with
  | pass | called => rfl
  | registered e =>
      show (_ || _) = (entries ++ [e]).any _
      rw [List.any_append, List.any_cons, List.any_nil, Bool.or_false]
  | removed other =>
      show (_ && _) = (entries.filter _).any _
      rw [List.any_filter]
      by_cases same : other = id
      · subst same
        simp
      · -- Those with the number are not the ones that are removed.
        have kept (e : Entry β) : (e.id != other && e.id == id) = (e.id == id) := by
          by_cases own : e.id = id <;> simp [own, Ne.symm same]
        simp [kept, same]

/-- A list of different numbers has one entry for each of them. -/
theorem filterMap_calledAs (id : UInt64) (s : Snapshot) (found : Option Snapshot)
    {entries : List (Entry β)} (distinct : (entries.map (·.id)).Nodup) :
    (entries.map (Note.called · s found)).filterMap (Note.calledAs? id) =
      if entries.any (·.id == id) then [s] else [] := by
  induction entries with
  | nil => rfl
  | cons e rest ih =>
      obtain ⟨other, tail⟩ := List.nodup_cons.mp distinct
      by_cases own : e.id = id
      · -- The others have other numbers.
        have alone : rest.any (·.id == id) = false := by
          rw [List.any_eq_false]
          intro d hd same
          exact other (List.mem_map.mpr ⟨d, hd, (eq_of_beq same).trans own.symm⟩)
        rw [alone] at ih
        simp [Note.calledAs?, own, ih tail]
      · simp [Note.calledAs?, own, ih tail]

/-- Nothing is due between two notifications. -/
theorem due_of_inner (id : UInt64) (on : Bool) {more : List (Note β)}
    (inner : ∀ n ∈ more, n.isPass = false) : due id on more = [] := by
  induction more generalizing on with
  | nil => rfl
  | cons n rest ih =>
      have none : n.pass? = none := Note.pass?_eq_none (inner n List.mem_cons_self)
      rw [due, none, ih _ fun m hm => inner m (List.mem_cons_of_mem n hm), List.append_nil]
      exact ite_self _

theorem due_sublist_passes (id : UInt64) (on : Bool) (notes : List (Note β)) :
    (due id on notes).Sublist (passes notes) := by
  induction notes generalizing on with
  | nil => exact List.Sublist.refl _
  | cons n rest ih =>
      have all : passes (n :: rest) = n.pass?.toList ++ passes rest := by cases n <;> rfl
      rw [due, all]
      refine List.Sublist.append ?_ (ih _)
      cases on with
      | true => exact List.Sublist.refl _
      | false => exact List.nil_sublist _

theorem callsOf_filter_isCalled (id : UInt64) (notes : List (Note β)) :
    callsOf id (notes.filter (·.isCalled)) = callsOf id notes := by
  unfold callsOf
  rw [List.filterMap_filter]
  congr 1
  funext n
  cases n <;> rfl

/-- **Each number is called with the snapshots that are due to it**, once each. -/
theorem Orderly.callsOf_eq_due (h : Orderly notes) (distinct : (registeredIds notes).Nodup)
    (id : UInt64) : callsOf id notes = due id false notes := by
  have earlier {notes more : List (Note β)} (distinct : (registeredIds (notes ++ more)).Nodup) :
      (registeredIds notes).Nodup := by
    rw [registeredIds, List.filterMap_append] at distinct
    exact (List.sublist_append_left _ _).nodup distinct
  induction h with
  | start => rfl
  | @change notes n _ uncalled between ih =>
      rw [callsOf, List.filterMap_append, due_append, ← ih (earlier distinct)]
      congr 1
      cases n with
      | called => cases uncalled
      | pass => cases between
      | registered | removed => simp [due, Note.calledAs?, Note.pass?]
  | @pass notes s more _ calls inner ih =>
      have ids := (live_sublist_registered notes).nodup (earlier distinct)
      rw [callsOf, List.filterMap_append, due_append, ← ih (earlier distinct)]
      congr 1
      show callsOf id more = _ ++ due id _ more
      rw [← callsOf_filter_isCalled, calls, callsOf, filterMap_calledAs id s _ ids,
        due_of_inner id _ inner, keeps_eq_any, List.append_nil]
      rfl

end Ledger
end HexWorld
