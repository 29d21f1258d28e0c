import HexWorld.Proofs.World.Snapshot
import HexWorld.Proofs.World.Update

/-!
# `Proofs.World.LastWriter` — a session told by its accepted messages

Snapshots are made step by step, each from the one before. What a snapshot shows can be told without
the steps: its time and health figures are those of the message accepted last, and each room shows
what the message accepted last *about this room* listed for it. `Mirrors` says this of a snapshot
and a list of messages; every accepted message keeps it, and it leaves no freedom for the snapshot.

## Contents
- `verdict`: what becomes of a message after those accepted so far.
- `judge`: the accepted messages of a sequence, and the one at which the session stops;
  `judge_withoutLate` and `judge_accepted` say what may be left out of the sequence.
- `Mirrors`, with `initial`, `cases` for the next message, `roomObjects` and `unique`.
-/

namespace HexWorld

/-! ## Accepted messages -/

/-- What becomes of a message. -/
inductive Verdict where
  | accepted
  | late
  /-- The session stops. -/
  | breaking
  deriving DecidableEq

/-- What becomes of a message after the accepted ones `taken`: it has to be newer than all of them,
and then to name declared rooms only. -/
def verdict (declared : List RoomId) (taken : List EntitiesMessage) (m : EntitiesMessage) :
    Verdict :=
  if ∀ a ∈ taken, a.worldTime < m.worldTime then
    if ∀ room ∈ m.named, room ∈ declared then .accepted else .breaking
  else .late

/-- Judges messages that come after the accepted ones `taken`. -/
def judgeAfter (declared : List RoomId) (taken : List EntitiesMessage) :
    List EntitiesMessage → List EntitiesMessage × Option EntitiesMessage
  | [] => (taken, none)
  | m :: rest =>
    match verdict declared taken m with
    | .accepted => judgeAfter declared (taken ++ [m]) rest
    | .late => judgeAfter declared taken rest
    | .breaking => (taken, some m)

/-- The accepted messages of a session, and the message at which it stops, if there is one. -/
def judge (declared : List RoomId) (messages : List EntitiesMessage) :
    List EntitiesMessage × Option EntitiesMessage :=
  judgeAfter declared [] messages

/-- The messages without those that are late when they come. -/
def withoutLateAfter (declared : List RoomId) (taken : List EntitiesMessage) :
    List EntitiesMessage → List EntitiesMessage
  | [] => []
  | m :: rest =>
    match verdict declared taken m with
    | .accepted => m :: withoutLateAfter declared (taken ++ [m]) rest
    | .late => withoutLateAfter declared taken rest
    | .breaking => m :: rest

def withoutLate (declared : List RoomId) (messages : List EntitiesMessage) :
    List EntitiesMessage :=
  withoutLateAfter declared [] messages

section Judge

variable (declared : List RoomId) (taken messages : List EntitiesMessage)

theorem judgeAfter_withoutLateAfter :
    judgeAfter declared taken (withoutLateAfter declared taken messages) =
      judgeAfter declared taken messages := by
  induction messages generalizing taken with
  | nil => rfl
  | cons m rest ih =>
      rw [withoutLateAfter]
      cases h : verdict declared taken m with
      | accepted =>
          show judgeAfter declared taken (m :: _) = _
          rw [judgeAfter, judgeAfter, h]
          exact ih (taken ++ [m])
      | late =>
          show judgeAfter declared taken (withoutLateAfter declared taken rest) = _
          rw [ih, judgeAfter, h]
      | breaking => rfl

/-- **Late messages may be left out.** -/
theorem judge_withoutLate :
    judge declared (withoutLate declared messages) = judge declared messages :=
  judgeAfter_withoutLateAfter declared [] messages

theorem judgeAfter_accepted :
    ∃ new, (judgeAfter declared taken messages).1 = taken ++ new ∧
      judgeAfter declared taken new = (taken ++ new, none) := by
  induction messages generalizing taken with
  | nil => exact ⟨[], (List.append_nil taken).symm, by rw [List.append_nil]; rfl⟩
  | cons m rest ih =>
      rw [judgeAfter]
      -- What is accepted from here on is accepted again, after the same messages.
      cases h : verdict declared taken m with
      | accepted =>
          obtain ⟨new, all, again⟩ := ih (taken ++ [m])
          refine ⟨m :: new, ?_, ?_⟩
          · show (judgeAfter declared (taken ++ [m]) rest).1 = _
            rw [all, List.append_assoc, List.singleton_append]
          · rw [judgeAfter, h]
            show judgeAfter declared (taken ++ [m]) new = _
            rw [again, List.append_assoc, List.singleton_append]
      | late => exact ih taken
      | breaking => exact ⟨[], (List.append_nil taken).symm, by rw [List.append_nil]; rfl⟩

/-- **Only the accepted messages matter**: by themselves, all of them are accepted. -/
theorem judge_accepted :
    judge declared (judge declared messages).1 = ((judge declared messages).1, none) := by
  obtain ⟨new, all, again⟩ := judgeAfter_accepted declared [] messages
  rw [List.nil_append] at all again
  unfold judge
  rw [all, again]

end Judge

/-- What the message accepted last about a room lists for it. A category that it leaves out is
empty, and so is everything without such a message. -/
def lastWritten (taken : List EntitiesMessage) (room : RoomId) : Option RoomEntities :=
  (taken.filter (room ∈ ·.named)).getLast?.map (·.collections room)

theorem lastWritten_concat (taken : List EntitiesMessage) (m : EntitiesMessage) (room : RoomId) :
    lastWritten (taken ++ [m]) room =
      if room ∈ m.named then some (m.collections room) else lastWritten taken room := by
  unfold lastWritten
  rw [List.filter_append]
  by_cases named : room ∈ m.named <;> simp [named]

/-! ## Snapshots that show accepted messages -/

/-- The snapshot shows exactly these accepted messages of a session that began with `b`. -/
structure Mirrors (b : Bootstrap) (session : UInt64) (taken : List EntitiesMessage)
    (current : Snapshot) : Prop where
  session : current.session = session
  topology : current.topology = ⟨b.rooms, b.layout⟩
  worldTime : current.worldTime.toInt =
    (taken.getLast?.map fun m => (m.worldTime.toNat : Int)).getD (-1)
  /-- No accepted message is newer than the last one. -/
  newest : ∀ a ∈ taken, (a.worldTime.toNat : Int) ≤ current.worldTime.toInt
  initialized : current.entities.isSome ↔ taken ≠ []
  rooms : ∀ room, current.room? room = lastWritten taken room
  diagnostics : current.diagnostics = taken.getLast?.bind (·.diagnostics)

namespace Mirrors

variable {b : Bootstrap} {session : UInt64} {taken : List EntitiesMessage} {current : Snapshot}
  {m : EntitiesMessage} {u : Update}

theorem initial (b : Bootstrap) (session : UInt64) :
    Mirrors b session [] { Snapshot.initial b with session } where
  session := rfl
  topology := rfl
  worldTime := rfl
  newest _ h := by cases h
  initialized := ⟨fun described => (Bool.false_ne_true described).elim, fun ne => absurd rfl ne⟩
  rooms _ := rfl
  diagnostics := rfl

/-- A message is newer than the snapshot exactly if it is newer than every accepted one. -/
theorem isNewer_iff (h : Mirrors b session taken current) (valid : Update.ofMessage m = .ok u) :
    current.worldTime < u.worldTime ↔ ∀ a ∈ taken, a.worldTime < m.worldTime := by
  rw [Int64.lt_iff_toInt_lt, Update.worldTime_of_ofMessage valid]
  constructor
  · intro newer a ha
    rw [UInt64.lt_iff_toNat_lt]
    have bound := h.newest a ha
    omega
  · intro all
    have time := h.worldTime
    cases last : taken.getLast? with
    | none =>
        -- Nothing has been accepted: the snapshot lies before every tick.
        rw [last] at time
        show current.worldTime.toInt < _
        rw [time]
        show (-1 : Int) < _
        omega
    | some a =>
        rw [last] at time
        have newer := UInt64.lt_iff_toNat_lt.mp (all a (List.mem_of_getLast? last))
        rw [time]
        exact Int.ofNat_lt.mpr newer

theorem declares_iff (h : Mirrors b session taken current) (valid : Update.ofMessage m = .ok u) :
    current.Declares u ↔ ∀ room ∈ m.named, room ∈ b.rooms := by
  unfold Snapshot.Declares
  rw [h.topology]
  constructor
  · exact fun all room named => all room ((Update.mem_keys_of_ofMessage valid room).mpr named)
  · exact fun all room key => all room ((Update.mem_keys_of_ofMessage valid room).mp key)

/-- Accepting one more message. -/
theorem after (h : Mirrors b session taken current) (valid : Update.ofMessage m = .ok u)
    (newer : current.worldTime < u.worldTime) :
    Mirrors b session (taken ++ [m]) (current.after u) where
  session := h.session
  topology := h.topology
  worldTime := by
    rw [List.getLast?_concat]
    exact Update.worldTime_of_ofMessage valid
  newest := by
    have time : (current.after u).worldTime.toInt = m.worldTime.toNat :=
      Update.worldTime_of_ofMessage valid
    rw [time]
    refine forall_mem_concat (fun a ha => ?_) (Int.le_refl _)
    have older := UInt64.lt_iff_toNat_lt.mp ((h.isNewer_iff valid).mp newer a ha)
    omega
  initialized := ⟨fun _ => List.append_ne_nil_of_right_ne_nil taken (List.cons_ne_nil m []),
    fun _ => rfl⟩
  rooms room := by
    rw [Snapshot.room?_after, Update.find?_of_ofMessage valid, lastWritten_concat, h.rooms]
    by_cases named : room ∈ m.named <;> simp [named]
  diagnostics := by
    rw [List.getLast?_concat]
    exact Update.diagnostics_of_ofMessage valid

/-- **What becomes of the next message**: the same as in the snapshot's own checks. -/
theorem cases (h : Mirrors b session taken current) (valid : Update.ofMessage m = .ok u) :
    (verdict b.rooms taken m = .late ∧
      ∃ time latest, current.apply u = .error (.stale time latest)) ∨
    (verdict b.rooms taken m = .breaking ∧
      ∃ room, current.apply u = .error (.unknownRoom room)) ∨
    (verdict b.rooms taken m = .accepted ∧ current.apply u = .ok (current.after u) ∧
      Mirrors b session (taken ++ [m]) (current.after u)) := by
  unfold verdict
  rcases Snapshot.apply_cases current u with ⟨late, refused⟩ | ⟨newer, undeclared, room, refused⟩ |
    ⟨newer, declared, applied⟩
  · have not_newer := mt (h.isNewer_iff valid).mpr (Int64.not_lt.mpr late)
    exact .inl ⟨if_neg not_newer, _, _, refused⟩
  · -- The time is checked first, in the verdict as in the snapshot.
    have stray := mt (h.declares_iff valid).mpr undeclared
    rw [if_pos ((h.isNewer_iff valid).mp newer), if_neg stray]
    exact .inr (.inl ⟨rfl, room, refused⟩)
  · rw [if_pos ((h.isNewer_iff valid).mp newer), if_pos ((h.declares_iff valid).mp declared)]
    exact .inr (.inr ⟨rfl, applied, h.after valid newer⟩)

/-- What readers get for a room, declared or not. -/
theorem roomObjects (h : Mirrors b session taken current) (room : RoomId) :
    current.roomObjects room =
      if taken = [] then .error .notInitialized
      else .ok ⟨current.worldTime, room, (lastWritten taken room).getD .none⟩ := by
  have rooms := h.rooms room
  unfold Snapshot.roomObjects
  cases known : current.entities with
  | none =>
      by_cases some_taken : taken = []
      · rw [if_pos some_taken]
      · have described := h.initialized.mpr some_taken
        rw [known] at described
        cases described
  | some entities =>
      have some_taken : taken ≠ [] := h.initialized.mp (by rw [known]; rfl)
      have found : entities.find? room = lastWritten taken room := by
        rw [← rooms, Snapshot.room?, known]
        rfl
      rw [if_neg some_taken, ← found]

/-- **The messages determine the snapshot.** -/
theorem unique {other : Snapshot} (h : Mirrors b session taken current)
    (h' : Mirrors b session taken other) : current = other := by
  have worldTime : current.worldTime = other.worldTime :=
    Int64.toInt_inj.mp (h.worldTime.trans h'.worldTime.symm)
  have entities : current.entities = other.entities := by
    have both := h.initialized.trans h'.initialized.symm
    have rooms (room : RoomId) : current.room? room = other.room? room :=
      (h.rooms room).trans (h'.rooms room).symm
    unfold Snapshot.room? at rooms
    cases mine : current.entities with
    | none =>
        rw [mine] at both
        cases its : other.entities with
        | none => rfl
        | some n =>
            rw [its] at both
            exact absurd (both.mpr rfl) Bool.false_ne_true
    | some n =>
        rw [mine] at both rooms
        obtain ⟨n', its⟩ := Option.isSome_iff_exists.mp (both.mp rfl)
        rw [its] at rooms
        rw [its, RoomMap.ext rooms]
  -- What is left are the parts that the messages give directly.
  obtain ⟨time, number, map, topology, figures⟩ := current
  obtain ⟨time', number', map', topology', figures'⟩ := other
  have number_eq : number = number' := h.session.trans h'.session.symm
  have topology_eq : topology = topology' := h.topology.trans h'.topology.symm
  have figures_eq : figures = figures' := h.diagnostics.trans h'.diagnostics.symm
  subst worldTime entities number_eq topology_eq figures_eq
  rfl

end Mirrors
end HexWorld
