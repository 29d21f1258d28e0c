import HexWorld.Proofs.World.Snapshot
import HexWorld.Relay.Client

/-!
# `Proofs.Relay.Reaction` — everything a connection can do with one wake

`Client.step` branches on the stage, the wake, the selection, the result of a look-up and on whether
the client can be reached. `Reaction` lists the outcomes that differ in what they do to the
connection or in the entities that they send; proofs about connections open it instead.

## Contents
- `Outbound.view?`: the entities among what is sent.
- `Wake.isRequest`, `Wake.isProgress`: wakes from the client, and wakes from a reply under way.
- `Client.Reaction` and `Client.reaction_step`; `Receiver.push_cases`.
-/

namespace HexWorld

/-- The entities that something sent to a client carries. -/
def Outbound.view? : Outbound → Option RoomObjects
  | .frame (.entities view) => some view
  | _ => none

namespace Wake

/-- The wake comes from the client. -/
def isRequest : Wake → Bool
  | text _ | ping _ | other | closed => true
  | _ => false

/-- The wake comes while an earlier wake is being handled. -/
def isProgress : Wake → Bool
  | skipped | terrain _ | sent => true
  | _ => false

def isLagged : Wake → Bool
  | lagged _ => true
  | _ => false

/-- The snapshot that the wake brings. -/
def snapshot? : Wake → Option Snapshot
  | relayed s => some s
  | _ => none

/-- Neither requests nor progress come from the receiver. -/
theorem snapshot?_eq_none {w : Wake} (h : w.isRequest = true ∨ w.isProgress = true) :
    w.snapshot? = none ∧ w.isLagged = false := by
  cases w with
  | relayed | lagged => rcases h with h | h <;> cases h
  | text | ping | other | closed | skipped | terrain | sent => exact ⟨rfl, rfl⟩

end Wake

namespace Client

/-- Nothing that is sent carries entities. -/
def IsPlain (out : Option Outbound) : Prop :=
  ∀ o ∈ out, o.view? = none

/-- What the connection `c` can do with a wake while the store holds `current`. -/
inductive Reaction (current : Option Snapshot) (c : Client) :
    Wake → Client × Option Outbound → Prop where
  | closes {w} (lasting : w.isLagged = false) :
      Reaction current c w ({ c with stage := .closed }, none)
  /-- The wake does not fit the stage. -/
  | unfit {w} (apart : c.stage ≠ .attending ∨ w.isProgress = true) : Reaction current c w (c, none)
  | answers {w out} (stage : c.stage = .attending) (request : w.isRequest = true)
      (plain : IsPlain out) :
      Reaction current c w ({ c with stage := .attending }, out)
  | selects {t room} (stage : c.stage = .attending) :
      Reaction current c (.text t) ({ c with selected := some room, stage := .fetching room }, none)
  /-- A relayed snapshot goes to a client with a selection. -/
  | shows {s room view} (stage : c.stage = .attending) (selected : c.selected = some room)
      (found : s.roomObjects room = .ok view) :
      Reaction current c (.relayed s)
        ({ c with stage := .attending }, some (.frame (.entities view)))
  | ignores {s} (stage : c.stage = .attending) (silent : c.selected = none ∨ s.entities = none) :
      Reaction current c (.relayed s) ({ c with stage := .attending }, none)
  | skips {missed} (stage : c.stage = .attending) :
      Reaction current c (.lagged missed)
        ({ c with receiver := .empty, stage := .skipping }, none)
  | fetches {room result out} (stage : c.stage = .fetching room) (plain : IsPlain (some out)) :
      Reaction current c (.terrain result) ({ c with stage := .describing room }, some out)
  /-- The store is read: to answer a selection, or to catch up. -/
  | reads {w s room view}
      (stage : c.stage = .describing room ∧ w = .sent ∨
        c.stage = .skipping ∧ w = .skipped ∧ c.selected = some room)
      (stored : current = some s) (found : s.roomObjects room = .ok view) :
      Reaction current c w ({ c with stage := .attending }, some (.frame (.entities view)))
  /-- The same, without entities to be had or without a room to look up. -/
  | misses {w out}
      (stage : (∃ room, c.stage = .describing room) ∧ w = .sent ∨
        c.stage = .skipping ∧ w = .skipped)
      (silent : c.selected = none ∨ ∀ s, current = some s → s.entities = none)
      (plain : IsPlain out) :
      Reaction current c w ({ c with stage := .attending }, out)

variable {current : Option Snapshot} {reachable : Bool} {c : Client}

theorem isPlain_none : IsPlain none := fun _ h => by cases h

theorem isPlain_some {o : Outbound} (h : o.view? = none) : IsPlain (some o) := fun p hp => by
  cases hp
  exact h

theorem IsPlain.bind_view? {out : Option Outbound} (h : IsPlain out) :
    out.bind Outbound.view? = none := by
  cases out with
  | none => rfl
  | some o => exact h o rfl

/-- Sending either reaches the client or ends the connection. -/
theorem send_cases (reachable : Bool) (stage : ClientStage) (out : Option Outbound) (c : Client) :
    c.send reachable stage out = ({ c with stage }, out) ∨
      c.send reachable stage out = ({ c with stage := .closed }, none) := by
  unfold send
  cases out with
  | none => exact .inl rfl
  | some o =>
      cases reachable with
      | true => exact .inl rfl
      | false => exact .inr rfl

/-- What is sent for a wake is sent, or the connection ends. -/
theorem reaction_send {w : Wake} {stage : ClientStage} {out : Option Outbound}
    (lasting : w.isLagged = false) (sent : Reaction current c w ({ c with stage }, out)) :
    Reaction current c w (c.send reachable stage out) := by
  rcases send_cases reachable stage out c with h | h
  · rw [h]
    exact sent
  · rw [h]
    exact .closes lasting

/-- A snapshot has a view for a selected room, or causes no frame. -/
theorem entitiesOf_cases (selected : Option RoomId) (s : Snapshot) :
    (selected.bind (entitiesOf s) = none ∧ (selected = none ∨ s.entities = none)) ∨
    ∃ room view, selected = some room ∧ s.roomObjects room = .ok view ∧
      selected.bind (entitiesOf s) = some (.frame (.entities view)) := by
  cases selected with
  | none => exact .inl ⟨rfl, .inl rfl⟩
  | some room =>
      cases known : s.entities with
      | none =>
          have unknown : entitiesOf s room = none := by
            rw [entitiesOf, Snapshot.roomObjects_of_none known]
          exact .inl ⟨unknown, .inr rfl⟩
      | some entities =>
          obtain ⟨view, found⟩ := Snapshot.exists_roomObjects (s := s) (by rw [known]; rfl) room
          have shown : entitiesOf s room = some (.frame (.entities view)) := by
            rw [entitiesOf, found]
          exact .inr ⟨room, view, rfl, found, shown⟩

theorem reaction_select (stage : c.stage = .attending) (t : String) :
    Reaction current c (.text t) (c.select reachable t) := by
  unfold select
  split
  · exact .selects stage
  · exact reaction_send rfl (.answers stage rfl (isPlain_some rfl))

theorem reaction_relayed (stage : c.stage = .attending) (s : Snapshot) :
    Reaction current c (.relayed s)
      (c.send reachable .attending (c.selected.bind (entitiesOf s))) := by
  refine reaction_send rfl ?_
  rcases entitiesOf_cases c.selected s with ⟨out, silent⟩ | ⟨room, view, selected, found, out⟩
  · rw [out]
    exact .ignores stage silent
  · rw [out]
    exact .shows stage selected found

theorem reaction_skipped (stage : c.stage = .skipping) :
    Reaction current c .skipped
      (c.send reachable .attending (current.bind fun s => c.selected.bind (entitiesOf s))) := by
  refine reaction_send rfl ?_
  cases stored : current with
  | none => exact .misses (.inr ⟨stage, rfl⟩) (.inr fun _ h => by cases h) isPlain_none
  | some s =>
      rw [Option.bind_some]
      rcases entitiesOf_cases c.selected s with ⟨out, silent⟩ | ⟨room, view, selected, found, out⟩
      · rw [out]
        refine .misses (.inr ⟨stage, rfl⟩) (silent.imp_right fun none _ h => ?_) isPlain_none
        cases h
        exact none
      · rw [out]
        exact .reads (.inr ⟨stage, rfl, selected⟩) rfl found

theorem reaction_sent {room : RoomId} (stage : c.stage = .describing room) :
    Reaction current c .sent
      (c.send reachable .attending
        (some (.frame (entitiesFrame (Snapshot.latestObjects current room))))) := by
  refine reaction_send rfl ?_
  rcases Snapshot.latestObjects_cases current room with
    ⟨s, view, stored, found, latest⟩ | ⟨bare, latest⟩
  · rw [latest]
    exact .reads (.inl ⟨stage, rfl⟩) stored found
  · rw [latest]
    exact .misses (.inl ⟨⟨room, stage⟩, rfl⟩) (.inr bare) (isPlain_some rfl)

/-- **Every wake is met by a reaction.** -/
theorem reaction_step (current : Option Snapshot) (reachable : Bool) (w : Wake) (c : Client) :
    Reaction current c w (c.step current reachable w) := by
  unfold step
  split
  case h_1 s stage => exact reaction_relayed stage s
  case h_2 stage => exact .skips stage
  case h_3 stage => exact reaction_skipped stage
  case h_4 t stage => exact reaction_select stage t
  case h_5 stage => exact reaction_send rfl (.answers stage rfl (isPlain_some rfl))
  case h_6 stage =>
    -- The connection stays as it is, and so does its stage.
    have answered : Reaction current c .other ({ c with stage := .attending }, none) :=
      .answers stage rfl isPlain_none
    have same : ({ c with stage := .attending } : Client) = c := by rw [← stage]
    rw [same] at answered
    exact answered
  case h_7 stage => exact .closes rfl
  case h_8 room result stage =>
    refine reaction_send rfl (.fetches stage (isPlain_some ?_))
    cases result <;> rfl
  case h_9 room stage => exact reaction_sent stage
  case h_10 w _ _ not_relayed not_lagged _ not_text not_ping not_other not_closed _ _ =>
    -- At an attending connection, only what belongs to a reply under way is left.
    refine .unfit ?_
    by_cases stage : c.stage = .attending
    · right
      cases w with
      | skipped | terrain | sent => rfl
      | relayed s => exact (not_relayed s stage rfl).elim
      | lagged missed => exact (not_lagged missed stage rfl).elim
      | text t => exact (not_text t stage rfl).elim
      | ping data => exact (not_ping data stage rfl).elim
      | other => exact (not_other stage rfl).elim
      | closed => exact (not_closed stage rfl).elim
    · exact .inl stage

/-- A relayed snapshot with entities reaches a client that has selected a room. -/
theorem step_relayed {s : Snapshot} {room : RoomId} {view : RoomObjects}
    (stage : c.stage = .attending) (selected : c.selected = some room)
    (found : s.roomObjects room = .ok view) :
    c.step current true (.relayed s) = (c, some (.frame (.entities view))) := by
  obtain ⟨selection, place, receiver⟩ := c
  subst stage selected
  show send true .attending (entitiesOf s room) _ = _
  rw [entitiesOf, found]
  rfl

/-- A reaction keeps what the receiver holds, or passes over all of it. -/
theorem Reaction.receiver {w : Wake} {r : Client × Option Outbound} (h : Reaction current c w r) :
    r.1.receiver = c.receiver ∨ r.1.receiver = .empty := by
  cases h with
  | skips => exact .inr rfl
  | closes | unfit | answers | selects | shows | ignores | fetches | reads | misses =>
      exact .inl rfl

/-- **Entities are sent from a snapshot**: the one that was relayed, or the one in the store. -/
theorem Reaction.sends {w : Wake} {r : Client × Option Outbound} (h : Reaction current c w r) :
    IsPlain r.2 ∨ ∃ s room view, s.roomObjects room = .ok view ∧
      r = ({ c with stage := .attending }, some (.frame (.entities view))) ∧
      ((w = .relayed s ∧ c.selected = some room) ∨
        (w.isProgress = true ∧ c.stage ≠ .attending ∧ current = some s ∧
          (c.stage = .describing room ∨ c.selected = some room))) := by
  cases h with
  | closes | unfit | selects | ignores | skips => exact .inl isPlain_none
  | answers _ _ plain | fetches _ plain | misses _ _ plain => exact .inl plain
  | @shows s room view stage selected found =>
      exact .inr ⟨s, room, view, found, rfl, .inl ⟨rfl, selected⟩⟩
  | @reads _ s room view stage stored found =>
      refine .inr ⟨s, room, view, found, rfl, .inr ?_⟩
      rcases stage with ⟨describing, rfl⟩ | ⟨skipping, rfl, selected⟩
      · exact ⟨rfl, by rw [describing]; exact ClientStage.noConfusion, stored, .inl describing⟩
      · exact ⟨rfl, by rw [skipping]; exact ClientStage.noConfusion, stored, .inr selected⟩

/-- A loss is met by passing over everything. -/
theorem Reaction.receiver_of_isLagged {w : Wake} {r : Client × Option Outbound}
    (h : Reaction current c w r) (stage : c.stage = .attending) (lagged : w.isLagged = true) :
    r.1.receiver = .empty := by
  cases h with
  | skips => rfl
  | closes lasting =>
      rw [lagged] at lasting
      cases lasting
  | unfit apart =>
      have progress := apart.resolve_left fun other => other stage
      rw [(Wake.snapshot?_eq_none (.inr progress)).2] at lagged
      cases lagged
  | answers _ request =>
      rw [(Wake.snapshot?_eq_none (.inl request)).2] at lagged
      cases lagged
  | reads waiting | misses waiting =>
      rcases waiting with ⟨-, rfl⟩ | ⟨waiting, -⟩
      · cases lagged
      · rw [stage] at waiting
        cases waiting
  | selects | shows | ignores | fetches => cases lagged

end Client

/-- A receiver takes a snapshot in at the end, and drops the first one if it has to. -/
theorem Receiver.push_cases (capacity : Nat) (s : Snapshot) (r : Receiver) :
    r.push capacity s = ⟨r.pending ++ [s], r.missed⟩ ∨
      r.push capacity s = ⟨r.pending.drop 1 ++ [s], r.missed + 1⟩ := by
  unfold push
  by_cases room : r.pending.length < capacity
  · exact .inl (if_pos room)
  · exact .inr (if_neg room)

end HexWorld
