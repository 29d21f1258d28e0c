import HexWorld.Proofs.Terrain.Step

/-!
# `Proofs.Terrain.Slot` — the slot under any number of calls

Requests run while nobody holds the lock, so any number of calls may use one connection, and their
failures may come in any order, also after the connection has been replaced. The notes of every run
make up an account, and those of one call tell its story.

## Contents
- `Story`: the notes of one call.
- `Accounted`: the invariant of a run.
- `connections_balance`.
-/

namespace HexWorld

/-! ## Stories -/

/-- The notes of one call. -/
def ownNotes (n : Nat) (notes : List TerrainNote) : List TerrainNote :=
  notes.filter (·.call = n)

/-- The call gets its connection, found or opened, in its first hold of the lock. -/
def TerrainNote.IsEntry (n connection : Nat) (entry : TerrainNote) : Prop :=
  entry = .found n connection ∨ entry = .opened n connection

/-- The story of a call, up to where it stands. It gets a connection, its request on that connection
ends, and only if the source was unavailable it takes the lock again. -/
inductive Story (n : Nat) : List TerrainNote → Option TerrainStage → Prop where
  | absent : Story n [] none
  | entering : Story n [] (some .entering)
  | connecting : Story n [] (some .connecting)
  | unopened {e} : Story n [.unopened n e] (some (.done (.error e)))
  | asking {entry connection} (h : entry.IsEntry n connection) :
      Story n [entry] (some (.asking connection))
  | ended {entry connection result} (h : entry.IsEntry n connection)
      (available : ∀ detail, result ≠ .error (.unavailable detail)) :
      Story n [entry, .ended n connection result] (some (.done result))
  | leaving {entry connection detail} (h : entry.IsEntry n connection) :
      Story n [entry, .ended n connection (.error (.unavailable detail))]
        (some (.leaving connection (.unavailable detail)))
  | dropped {entry connection detail} (h : entry.IsEntry n connection) :
      Story n [entry, .ended n connection (.error (.unavailable detail)), .dropped n connection]
        (some (.done (.error (.unavailable detail))))
  | kept {entry connection detail} (h : entry.IsEntry n connection) :
      Story n [entry, .ended n connection (.error (.unavailable detail)), .kept n connection]
        (some (.done (.error (.unavailable detail))))

namespace Story

variable {n : Nat} {own : List TerrainNote}

theorem of_none (h : Story n own none) : own = [] := by
  cases h
  rfl

theorem of_entering (h : Story n own (some .entering)) : own = [] := by
  cases h
  rfl

theorem of_connecting (h : Story n own (some .connecting)) : own = [] := by
  cases h
  rfl

theorem of_asking {connection : Nat} (h : Story n own (some (.asking connection))) :
    ∃ entry, entry.IsEntry n connection ∧ own = [entry] := by
  cases h with
  | asking entry => exact ⟨_, entry, rfl⟩

theorem of_leaving {connection : Nat} {e : SourceError}
    (h : Story n own (some (.leaving connection e))) :
    ∃ entry detail, entry.IsEntry n connection ∧ e = .unavailable detail ∧
      own = [entry, .ended n connection (.error (.unavailable detail))] := by
  cases h with
  | leaving entry => exact ⟨_, _, entry, rfl, rfl⟩

end Story

/-! ## The invariant -/

/-- The notes of a run that has led to this slot. -/
structure Accounted (s : TerrainSlot) (notes : List TerrainNote) : Prop where
  account : Account notes
  cached : s.cached = cachedAfter notes
  opened : s.opened = (openings notes).length
  /-- Only the holder of the lock opens a connection. -/
  lock : ∀ n, s.stage? n = some .connecting → s.holder = some n
  /-- The lock is held only to open a connection, so nobody else fills the slot. -/
  held : ∀ n, s.holder = some n → s.cached = none
  stories : ∀ n, Story n (ownNotes n notes) (s.stage? n)

namespace Accounted

variable {timeout : Duration} {s s' : TerrainSlot} {m : TerrainMove} {notes : List TerrainNote}
  {n : Nat} {c : TerrainCall} {note : TerrainNote} {room : RoomId} {queue : List Nat}

theorem ownNotes_concat (n : Nat) (notes : List TerrainNote) (note : TerrainNote) :
    ownNotes n (notes ++ [note]) =
      if note.call = n then ownNotes n notes ++ [note] else ownNotes n notes := by
  unfold ownNotes
  rw [List.filter_append]
  by_cases own : note.call = n <;> simp [own]

theorem stories_note (h : Accounted s notes) (moved : s.Moved n c s') (own : note.call = n)
    (story : Story n (ownNotes n notes ++ [note]) (some c.stage)) (k : Nat) :
    Story k (ownNotes k (notes ++ [note])) (s'.stage? k) := by
  rw [moved.stage? k, ownNotes_concat, own]
  by_cases same : k = n
  · subst same
    rw [if_pos rfl, if_pos rfl]
    exact story
  · rw [if_neg same, if_neg (Ne.symm same)]
    exact h.stories k

theorem stories_silent (h : Accounted s notes) (moved : s.Moved n c s')
    (story : Story n (ownNotes n notes) (some c.stage)) (k : Nat) :
    Story k (ownNotes k notes) (s'.stage? k) := by
  rw [moved.stage? k]
  by_cases same : k = n
  · subst same
    rw [if_pos rfl]
    exact story
  · rw [if_neg same]
    exact h.stories k

/-- No call opens a connection while another one, which has just let the lock go, does. -/
theorem lock_moved (h : Accounted s notes) (moved : s.Moved n c s')
    (other : c.stage ≠ .connecting) (holder : s'.holder = s.holder) (k : Nat)
    (stands : s'.stage? k = some .connecting) : s'.holder = some k := by
  rw [moved.stage? k] at stands
  by_cases same : k = n
  · rw [if_pos same] at stands
    exact absurd (Option.some.inj stands) other
  · rw [if_neg same] at stands
    rw [holder]
    exact h.lock k stands

/-- A note that fills no slot leaves an empty one empty. -/
theorem alter_none (unopened : note.opened? = none) : note.alter none = none := by
  cases note with
  | opened => cases unopened
  | found | unopened | ended | dropped | kept => rfl

/-- A call moves without the lock, or with it only for a moment. -/
theorem of_note (h : Accounted s notes) (moved : s.Moved n c s') (other : c.stage ≠ .connecting)
    (own : note.call = n) (sound : note.IsSound notes)
    (slot : s'.slot = (note.alter s.cached, s.opened, s.holder, queue))
    (unopened : note.opened? = none)
    (story : Story n (ownNotes n notes ++ [note]) (some c.stage)) :
    Accounted s' (notes ++ [note]) := by
  obtain ⟨cached, opened, holder, -⟩ := TerrainSlot.of_slot slot
  refine ⟨h.account.note sound, ?_, ?_, h.lock_moved moved other holder, ?_,
    h.stories_note moved own story⟩
  · rw [cachedAfter_concat, cached, h.cached]
  · rw [openings_concat, unopened, opened, h.opened]
    exact congrArg List.length (List.append_nil _).symm
  · intro k holds
    rw [cached, h.held k (holder ▸ holds), alter_none unopened]

/-- A call that was opening a connection lets the lock go. -/
theorem of_release (h : Accounted s notes) (stands : s.stage? n = some .connecting)
    (moved : s.Moved n c s') (other : c.stage ≠ .connecting) (own : note.call = n)
    (sound : note.IsSound notes)
    (slot : s'.slot = (note.alter s.cached, s.opened + note.opened?.toList.length, none, queue))
    (story : Story n (ownNotes n notes ++ [note]) (some c.stage)) :
    Accounted s' (notes ++ [note]) := by
  obtain ⟨cached, opened, holder, -⟩ := TerrainSlot.of_slot slot
  refine ⟨h.account.note sound, ?_, ?_, ?_, ?_, h.stories_note moved own story⟩
  · rw [cachedAfter_concat, cached, h.cached]
  · rw [openings_concat, List.length_append, opened, h.opened]
  · -- Two calls cannot both have held the lock.
    intro k connecting
    rw [moved.stage? k] at connecting
    by_cases same : k = n
    · rw [if_pos same] at connecting
      exact absurd (Option.some.inj connecting) other
    · rw [if_neg same] at connecting
      have both : some k = some n := (h.lock k connecting).symm.trans (h.lock n stands)
      exact absurd (Option.some.inj both) same
  · intro k holds
    rw [holder] at holds
    cases holds

/-- A call that asks has got its connection. -/
theorem exists_entry (h : Accounted s notes) {connection : Nat}
    (stands : s.stage? n = some (.asking connection)) :
    ∃ entry, entry.IsEntry n connection ∧ ownNotes n notes = [entry] ∧
      (.found n connection ∈ notes ∨ .opened n connection ∈ notes) := by
  obtain ⟨entry, gets, own⟩ := (stands ▸ h.stories n).of_asking
  have mem : entry ∈ ownNotes n notes := by simp [own]
  have noted : entry ∈ notes := (List.mem_filter.mp mem).1
  refine ⟨entry, gets, own, ?_⟩
  rcases gets with rfl | rfl
  · exact .inl noted
  · exact .inr noted

/-- A call that gives up a connection has found the source unavailable on it. -/
theorem exists_outage (h : Accounted s notes) {connection : Nat} {e : SourceError}
    (stands : s.stage? n = some (.leaving connection e)) :
    ∃ entry detail, entry.IsEntry n connection ∧ e = .unavailable detail ∧
      ownNotes n notes = [entry, .ended n connection (.error (.unavailable detail))] ∧
      ∃ outage ∈ notes, outage.IsOutage n connection := by
  obtain ⟨entry, detail, gets, failure, own⟩ := (stands ▸ h.stories n).of_leaving
  have mem : .ended n connection (.error (.unavailable detail)) ∈ ownNotes n notes := by
    simp [own]
  exact ⟨entry, detail, gets, failure, own, _, (List.mem_filter.mp mem).1, detail, rfl⟩

theorem of_call (h : Accounted s notes) (stands : s.stage? n = none)
    (moved : s.Moved n ⟨room, .entering⟩ s')
    (slot : s'.slot = (s.cached, s.opened, s.holder, queue)) : Accounted s' notes := by
  have own : ownNotes n notes = [] := (stands ▸ h.stories n).of_none
  obtain ⟨cached, opened, holder, -⟩ := TerrainSlot.of_slot slot
  refine ⟨h.account, cached.trans h.cached, opened.trans h.opened,
    h.lock_moved moved TerrainStage.noConfusion holder, ?_, h.stories_silent moved ?_⟩
  · exact fun k holds => cached.trans (h.held k (holder ▸ holds))
  · rw [own]
    exact .entering

/-- A call takes the lock to open a connection. -/
theorem of_hold (h : Accounted s notes) (free : s.holder = none)
    (stands : s.stage? n = some .entering) (empty : s.cached = none)
    (moved : s.Moved n ⟨room, .connecting⟩ s')
    (slot : s'.slot = (s.cached, s.opened, some n, queue)) :
    Accounted s' notes := by
  have own : ownNotes n notes = [] := (stands ▸ h.stories n).of_entering
  obtain ⟨cached, opened, holder, -⟩ := TerrainSlot.of_slot slot
  refine ⟨h.account, ?_, opened.trans h.opened, ?_, fun _ _ => cached.trans empty,
    h.stories_silent moved ?_⟩
  · exact cached.trans h.cached
  · -- The lock was free, so no other call was opening a connection.
    intro k connecting
    rw [moved.stage? k] at connecting
    by_cases same : k = n
    · rw [holder, same]
    · rw [if_neg same] at connecting
      cases free.symm.trans (h.lock k connecting)
  · rw [own]
    exact .connecting

/-- **Every step keeps the account.** -/
theorem step (h : Accounted s notes) {more : List TerrainNote}
    (step : TerrainStep timeout s s' m more) : Accounted s' (notes ++ more) := by
  cases step with
  | rests _ same | unawaited _ same | unasked _ same =>
      rw [List.append_nil, same]
      exact h
  | calls moved slot =>
      rw [List.append_nil]
      refine h.of_call ?_ moved slot
      rw [TerrainSlot.stage?, List.getElem?_eq_none (Nat.le_refl _)]
      rfl
  | holds next stands empty moved slot =>
      rw [List.append_nil]
      exact h.of_hold next.1 (TerrainSlot.stage?_of_call stands) empty moved slot
  | @finds n _ _ connection next stands cached moved slot =>
      have stands := TerrainSlot.stage?_of_call stands
      have sound : TerrainNote.IsSound notes (.found n connection) := h.cached.symm.trans cached
      have own : ownNotes n notes = [] := (stands ▸ h.stories n).of_entering
      refine h.of_note moved TerrainStage.noConfusion rfl sound slot rfl ?_
      rw [own]
      exact .asking (.inl rfl)
  | @opens n _ stands moved slot =>
      have stands := TerrainSlot.stage?_of_call stands
      have own : ownNotes n notes = [] := (stands ▸ h.stories n).of_connecting
      have empty : cachedAfter notes = none := h.cached.symm.trans (h.held n (h.lock n stands))
      refine h.of_release stands moved TerrainStage.noConfusion rfl ⟨empty, h.opened⟩ slot ?_
      rw [own]
      exact .asking (.inr rfl)
  | @fails n _ _ e stands _ moved slot =>
      have stands := TerrainSlot.stage?_of_call stands
      have own : ownNotes n notes = [] := (stands ▸ h.stories n).of_connecting
      have empty : cachedAfter notes = none := h.cached.symm.trans (h.held n (h.lock n stands))
      refine h.of_release stands moved TerrainStage.noConfusion rfl empty slot ?_
      rw [own]
      exact .unopened
  | ends stands _ available moved slot =>
      obtain ⟨entry, gets, own, noted⟩ := h.exists_entry (TerrainSlot.stage?_of_call stands)
      refine h.of_note moved TerrainStage.noConfusion rfl noted slot rfl ?_
      rw [own]
      exact .ended gets available
  | loses stands _ moved slot =>
      obtain ⟨entry, gets, own, noted⟩ := h.exists_entry (TerrainSlot.stage?_of_call stands)
      refine h.of_note moved TerrainStage.noConfusion rfl noted slot rfl ?_
      rw [own]
      exact .leaving gets
  | drops _ stands cached moved slot =>
      obtain ⟨entry, detail, gets, rfl, own, outage⟩ :=
        h.exists_outage (TerrainSlot.stage?_of_call stands)
      have sound := And.intro (h.cached.symm.trans cached) outage
      refine h.of_note moved TerrainStage.noConfusion rfl sound slot rfl ?_
      rw [own]
      exact .dropped gets
  | keeps _ stands other moved slot =>
      obtain ⟨entry, detail, gets, rfl, own, outage⟩ :=
        h.exists_outage (TerrainSlot.stage?_of_call stands)
      refine h.of_note moved TerrainStage.noConfusion rfl ⟨h.cached ▸ other, outage⟩ slot rfl ?_
      rw [own]
      exact .kept gets

theorem start : Accounted .empty [] where
  account := .start
  cached := rfl
  opened := rfl
  lock _ connecting := by cases connecting
  held _ _ := rfl
  stories _ := .absent

/-- **Every run keeps the account, and the line.** -/
theorem run (h : Accounted s notes) (lined : s.Lined) (timeout : Duration)
    (moves : List TerrainMove) :
    Accounted (s.run timeout moves).1 (notes ++ (s.run timeout moves).2) ∧
      (s.run timeout moves).1.Lined := by
  induction moves generalizing s notes with
  | nil =>
      show Accounted s (notes ++ []) ∧ s.Lined
      rw [List.append_nil]
      exact ⟨h, lined⟩
  | cons m rest ih =>
      have step := TerrainSlot.step_move timeout lined m
      have next := ih (h.step step) (lined.step step)
      rw [List.append_assoc] at next
      exact next

end Accounted

namespace TerrainSlot

/-- **The connections of any number of calls balance**, in whatever order they come for the lock and
their requests end. As many connections were opened as were given up, and one more if the slot holds
one. Each is given up at most once, only while the slot holds it, and only by a call whose own
request on it found the source unavailable; from then on nobody gets it any more. A call that comes
too late to give up a connection leaves the slot alone. The story of every call is that it gets a
connection in its first hold of the lock and sends its request on that one. And whatever comes next,
to whichever call, is a `TerrainStep`: a connection is opened exactly by a connect that succeeds, to
the call that holds the lock for it; a connect that fails or takes too long leaves the slot as it
was, and so does the end of every request; and what an end is noted as is what it means. -/
theorem connections_balance (timeout : Duration) (moves : List TerrainMove) :
    let r := run timeout moves .empty
    r.1.cached = cachedAfter r.2 ∧
    r.1.opened = (openings r.2).length ∧
    (openings r.2).length = (drops r.2).length + r.1.cached.isSome.toNat ∧
    (drops r.2).Nodup ∧
    (∀ past n connection rest, r.2 = past ++ .dropped n connection :: rest →
      cachedAfter past = some connection ∧ (∃ outage ∈ past, outage.IsOutage n connection) ∧
      ∀ k, .found k connection ∉ rest ∧ .opened k connection ∉ rest) ∧
    (∀ past n connection rest, r.2 = past ++ .kept n connection :: rest →
      cachedAfter past ≠ some connection ∧
      cachedAfter (past ++ [.kept n connection]) = cachedAfter past) ∧
    (∀ n, Story n (ownNotes n r.2) (r.1.stage? n)) ∧
    r.1.Lined ∧
    ∀ m, ∃ s' more, run timeout (moves ++ [m]) .empty = (s', r.2 ++ more) ∧
      TerrainStep timeout r.1 s' m more := by
  intro r
  obtain ⟨h, lined⟩ := Accounted.start.run .start timeout moves
  have h : Accounted r.1 r.2 := h
  have balance := h.account.balance
  refine ⟨h.cached, h.opened, ?_, ?_, ?_, ?_, h.stories, lined, fun m =>
    ⟨_, _, run_concat timeout moves m .empty, step_move timeout lined m⟩⟩
  · rw [h.cached]
    exact balance.count
  · rw [balance.inOrder]
    exact List.nodup_range
  · intro past n connection rest split
    obtain ⟨-, cached, outage⟩ := h.account.of_split split
    exact ⟨cached, outage, h.account.retired_of_drop split⟩
  · intro past n connection rest split
    exact ⟨(h.account.of_split split).2.1, cachedAfter_concat _ _⟩

/-- One connect is refused and one takes too long. Two calls share the first connection. It fails,
and is given up by the first of them and replaced by another call before the failure of the second
comes in. Four more calls on the new connection are shown tiles, get those of another room, are told
that the room is missing, and are denied. -/
def mishaps : List TerrainMove :=
  let call := TerrainMove.call ⟨⟨0, 0⟩⟩
  [call, .grant, .connected 0 (.answered (.error (.config "no port"))),
    call, .grant, .connected 1 .elapsed,
    call, call, .grant, .connected 2 (.answered (.ok ())), .grant, .answered 2 .elapsed, .grant,
    call, .grant, .connected 4 (.answered (.ok ())),
    .answered 3 (.answered (.error (.unavailable "gone"))), .grant,
    call, call, call, call, .grant, .grant, .grant, .grant,
    .answered 5 (.answered (.ok ⟨⟨0, 0⟩, []⟩)), .answered 6 (.answered (.ok ⟨⟨0, 1⟩, []⟩)),
    .answered 7 (.answered (.error (.roomNotFound ⟨⟨0, 0⟩⟩))),
    .answered 8 (.answered (.error (.permissionDenied "not yours")))]

theorem connections_balance_mishaps :
    let r := run (.ofMillis 5000) mishaps .empty
    openings r.2 = [0, 1] ∧ drops r.2 = [0] ∧ r.1.cached = some 1 ∧
    (openings r.2).length = (drops r.2).length + r.1.cached.isSome.toNat ∧
    (∃ past rest, r.2 = past ++ .dropped 2 0 :: rest ∧ cachedAfter past = some 0 ∧
      ∀ k, .found k 0 ∉ rest ∧ .opened k 0 ∉ rest) ∧
    (∃ past rest, r.2 = past ++ .kept 3 0 :: rest ∧
      cachedAfter (past ++ [.kept 3 0]) = cachedAfter past) ∧
    r.1.result? 0 = some (.error (.config "no port")) ∧ r.1.result? 5 = some (.ok []) ∧
    r.1.result? 6 = some (.error (.protocol "asked for terrain of 0,0, got 0,1")) ∧
    ∃ s', run (.ofMillis 5000) (mishaps ++ [.call ⟨⟨0, 0⟩⟩]) .empty = (s', r.2) ∧
      s'.slot = (some 1, 2, none, [9]) := by
  intro r
  obtain ⟨-, -, balance, -, dropped, kept, -, -, steps⟩ :=
    connections_balance (.ofMillis 5000) mishaps
  have drop : r.2 = r.2.take 5 ++ .dropped 2 0 :: r.2.drop 6 := rfl
  have late : r.2 = r.2.take 8 ++ .kept 3 0 :: r.2.drop 9 := rfl
  obtain ⟨held, -, retired⟩ := dropped _ _ _ _ drop
  obtain ⟨-, replaced⟩ := kept _ _ _ _ late
  obtain ⟨s', more, next, step⟩ := steps (.call ⟨⟨0, 0⟩⟩)
  refine ⟨rfl, rfl, rfl, balance, ⟨_, _, drop, held, retired⟩, ⟨_, _, late, replaced⟩, rfl, rfl,
    rfl, s', ?_⟩
  cases step with
  | calls moved slot => exact ⟨next.trans (by rw [List.append_nil]), slot⟩

end TerrainSlot
end HexWorld
