import HexWorld.Proofs.Relay.Observation
import HexWorld.Proofs.World.RoomText

/-!
# `Proofs.Relay.Occasion` — what a connection sends for each wake

A connection handles one wake at a time, and handling one may take several steps: a selection asks
for terrain, sends it, reads the store and sends entities. An `Occasion` is a wake with everything
that its handling meets until the connection is free again. After any history of occasions the
connection depends on the last selection in it and on nothing else, and so does what it sends next.

## Contents
- `Occasion`, `Client.meet` and `Client.after`: whole wakes, and histories of them.
- `Client.hand`: things handed over in order, until one is not taken.
- `Client.Answers` and `answers_meet`: everything one occasion can lead to, with
  `Client.IsDescription` for the second frame of a selection.
- `Attentive`, `attentive_after`: the connection after a history.
- `isInitialized_of_relayed`: what is relayed.
- `answers_each_wake`.
-/

namespace HexWorld

open Text

theorem Snapshot.isInitialized_of_none {s : Snapshot} (none : s.entities = none) :
    s.isInitialized = false := by
  rw [isInitialized, none]
  rfl

/-! ## Histories -/

/-- A step of a connection: what the store holds, whether the client takes what is sent, and the
wake. -/
structure Turn where
  current : Option Snapshot
  taken : Bool
  wake : Wake

/-- A wake of an attending connection, with what its handling meets: whether the client takes each
thing that is sent, what becomes of the request for terrain, and what the store holds when it is
read. A closing message, a fault of the transport and the end of the stream are all `closed`. -/
inductive Occasion where
  | relayed (s : Snapshot) (taken : Bool)
  | lagged (missed : Nat) (current : Option Snapshot) (taken : Bool)
  | text (t : String) (terrain : Except QueryError (List TerrainTile)) (taken : Bool)
      (current : Option Snapshot) (taken' : Bool)
  | ping (data : String) (taken : Bool)
  | other
  | closed

namespace Occasion

/-- The steps of the handling. A text that selects nothing needs the first of its three only, and
the others do not fit a connection that attends. -/
def turns : Occasion → List Turn
  | relayed s taken => [⟨none, taken, .relayed s⟩]
  | lagged missed current taken => [⟨none, true, .lagged missed⟩, ⟨current, taken, .skipped⟩]
  | text t terrain taken current taken' =>
    [⟨none, taken, .text t⟩, ⟨none, taken, .terrain terrain⟩, ⟨current, taken', .sent⟩]
  | ping data taken => [⟨none, taken, .ping data⟩]
  | other => [⟨none, true, .other⟩]
  | closed => [⟨none, true, .closed⟩]

/-- The room that the occasion selects. -/
def selection? : Occasion → Option RoomId
  | text t _ _ _ _ => (RoomId.parse t).toOption
  | _ => none

/-- Something that is sent would not be taken. -/
def Fails : Occasion → Prop
  | relayed _ taken | lagged _ _ taken | ping _ taken => taken = false
  | text _ _ taken _ taken' => taken = false ∨ taken' = false
  | other | closed => False

end Occasion

/-- The room of the last text that is a room. -/
def lastSelection (history : List Occasion) : Option RoomId :=
  (history.filterMap Occasion.selection?).getLast?

/-- Neither terrain nor entities. -/
def Outbound.isNotice : Outbound → Bool
  | .frame (.error _) | .pong _ => true
  | _ => false

namespace Client

/-- Where steps lead, and what is sent in them. -/
def turns : List Turn → Client → Client × List Outbound
  | [], c => (c, [])
  | t :: rest, c =>
    let (c, out) := c.step t.current t.taken t.wake
    let (c, log) := turns rest c
    (c, out.toList ++ log)

/-- One occasion. -/
def meet (e : Occasion) (c : Client) : Client × List Outbound :=
  c.turns e.turns

/-- A history. What the receiver holds changes between the wakes, so it is given with each. The
result has all that is sent. -/
def after : List (Receiver × Occasion) → Client → Client × List Outbound
  | [], c => (c, [])
  | (receiver, e) :: rest, c =>
    let (c, out) := { c with receiver }.meet e
    let (c, log) := after rest c
    (c, out ++ log)

/-- Things are handed over one after the other. If one is not taken, nothing follows it and the
connection ends; otherwise the connection goes on. -/
def hand (onward : Client) (things : List (Outbound × Bool)) : Client × List Outbound :=
  (if things.all (·.2) then onward else { onward with stage := .closed },
    (things.takeWhile (·.2)).map (·.1))

/-- The frame with the terrain of a room, or with the reason why there is none. -/
def terrainFrame (room : RoomId) : Except QueryError (List TerrainTile) → Frame
  | .ok tiles => .terrain room tiles
  | .error e => .error e.message

/-- The frame that tells of a room after its terrain: what the store has of it, under its name and
with the time of the snapshot, or that the store has no entities yet. -/
inductive IsDescription (current : Option Snapshot) (room : RoomId) : Frame → Prop where
  | shown {s view} (stored : current = some s) (found : s.roomObjects room = .ok view)
      (own : view.room = room) (time : view.time = s.worldTime) :
      IsDescription current room (.entities view)
  | unknown (bare : ∀ s, current = some s → s.isInitialized = false) :
      IsDescription current room (.error QueryError.notInitialized.message)

/-- What an attending connection makes of an occasion, and what it sends. -/
inductive Answers (c : Client) : Occasion → Client × List Outbound → Prop where
  | refuses {t terrain taken current taken' e}
      (misread : RoomId.parse (String.ofList (trim t.toList)) = .error e) :
      Answers c (.text t terrain taken current taken') (c.hand [(.frame (.error e.message), taken)])
  /-- The selection stays whatever the two frames are. -/
  | selects {t terrain taken current taken' room frame} (read : RoomId.parse t = .ok room)
      (described : IsDescription current room frame) :
      Answers c (.text t terrain taken current taken')
        ({ c with selected := some room }.hand [
          (.frame (terrainFrame room terrain), taken), (.frame frame, taken')])
  | shows {s room view taken} (selected : c.selected = some room)
      (found : s.roomObjects room = .ok view) (own : view.room = room)
      (time : view.time = s.worldTime) :
      Answers c (.relayed s taken) (c.hand [(.frame (.entities view), taken)])
  | passes {s taken} (silent : c.selected = none ∨ s.isInitialized = false) :
      Answers c (.relayed s taken) (c, [])
  | catchesUp {missed s room view taken} (selected : c.selected = some room)
      (found : s.roomObjects room = .ok view) (own : view.room = room)
      (time : view.time = s.worldTime) :
      Answers c (.lagged missed (some s) taken)
        ({ c with receiver := .empty }.hand [(.frame (.entities view), taken)])
  | resumes {missed current taken}
      (silent : c.selected = none ∨ ∀ s, current = some s → s.isInitialized = false) :
      Answers c (.lagged missed current taken) ({ c with receiver := .empty }, [])
  | pongs {data taken} : Answers c (.ping data taken) (c.hand [(.pong data, taken)])
  | ignores : Answers c .other (c, [])
  | closes : Answers c .closed ({ c with stage := .closed }, [])

/-! ## One occasion -/

theorem isDescription_latestObjects (current : Option Snapshot) (room : RoomId) :
    IsDescription current room (entitiesFrame (Snapshot.latestObjects current room)) := by
  rcases Snapshot.latestObjects_cases current room with
    ⟨s, view, stored, found, latest⟩ | ⟨bare, latest⟩
  · obtain ⟨own, time, -⟩ := Snapshot.view_of_roomObjects found
    rw [latest]
    exact .shown stored found own time
  · rw [latest]
    exact .unknown fun s stored => Snapshot.isInitialized_of_none (bare s stored)

section Meeting

variable {c : Client} (stage : c.stage = .attending)
include stage

theorem meet_text_of_error {t : String} {e : InvalidRoomId}
    (misread : RoomId.parse (String.ofList (trim t.toList)) = .error e)
    (terrain : Except QueryError (List TerrainTile)) (taken : Bool) (current : Option Snapshot)
    (taken' : Bool) :
    c.meet (.text t terrain taken current taken') = c.hand [(.frame (.error e.message), taken)] := by
  obtain ⟨selected, _, receiver⟩ := c
  cases stage
  -- The two steps that follow do not fit, whether the connection still attends or has ended.
  cases taken <;> simp [meet, Occasion.turns, turns, step, select, misread, send, hand]

theorem meet_text_of_ok {t : String} {room : RoomId} (read : RoomId.parse t = .ok room)
    (terrain : Except QueryError (List TerrainTile)) (taken : Bool) (current : Option Snapshot)
    (taken' : Bool) :
    c.meet (.text t terrain taken current taken') =
      { c with selected := some room }.hand [
        (.frame (terrainFrame room terrain), taken),
        (.frame (entitiesFrame (Snapshot.latestObjects current room)), taken')] := by
  obtain ⟨selected, _, receiver⟩ := c
  cases stage
  have read : RoomId.parse (String.ofList (trim t.toList)) = .ok room :=
    RoomId.parse_trim_eq_ok_iff.mpr read
  cases terrain <;> cases taken <;> cases taken' <;>
    simp [meet, Occasion.turns, turns, step, select, read, send, hand, terrainFrame]

theorem send_none (taken : Bool) : c.send taken .attending none = (c, none) := by
  obtain ⟨selected, _, receiver⟩ := c
  cases stage
  rfl

theorem send_some (taken : Bool) (out : Outbound) :
    ((c.send taken .attending (some out)).1, (c.send taken .attending (some out)).2.toList) =
      c.hand [(out, taken)] := by
  obtain ⟨selected, _, receiver⟩ := c
  cases stage
  cases taken <;> rfl

/-- An attending connection meets a relayed snapshot with the entities of the selected room. -/
theorem answers_relayed (s : Snapshot) (taken : Bool) :
    c.Answers (.relayed s taken) (c.meet (.relayed s taken)) := by
  have met : c.meet (.relayed s taken) =
      let r := c.send taken .attending (c.selected.bind (entitiesOf s))
      (r.1, r.2.toList) := by
    simp only [meet, Occasion.turns, turns, step, stage, List.append_nil]
  rw [met]
  rcases entitiesOf_cases c.selected s with ⟨out, silent⟩ | ⟨room, view, selected, found, out⟩
  · rw [out, send_none stage]
    exact .passes (silent.imp_right Snapshot.isInitialized_of_none)
  · rw [out]
    show c.Answers _ ((c.send taken .attending _).1, (c.send taken .attending _).2.toList)
    rw [send_some stage]
    obtain ⟨own, time, -⟩ := Snapshot.view_of_roomObjects found
    exact .shows selected found own time

/-- A lag report is met with the newest snapshot of all, and the receiver is emptied first. -/
theorem answers_lagged (missed : Nat) (current : Option Snapshot) (taken : Bool) :
    c.Answers (.lagged missed current taken) (c.meet (.lagged missed current taken)) := by
  have attends : ({ c with receiver := .empty } : Client).stage = .attending := stage
  have met : c.meet (.lagged missed current taken) =
      let r := { c with receiver := .empty }.send taken .attending
        (current.bind fun s => c.selected.bind (entitiesOf s))
      (r.1, r.2.toList) := by
    obtain ⟨selected, _, receiver⟩ := c
    cases stage
    simp [meet, Occasion.turns, turns, step, Receiver.skip, send]
  rw [met]
  cases current with
  | none =>
      rw [Option.bind_none, send_none attends]
      exact .resumes (.inr fun _ h => by cases h)
  | some s =>
      rw [Option.bind_some]
      rcases entitiesOf_cases c.selected s with ⟨out, silent⟩ | ⟨room, view, selected, found, out⟩
      · rw [out, send_none attends]
        refine .resumes (silent.imp_right fun none _ h => ?_)
        cases h
        exact Snapshot.isInitialized_of_none none
      · rw [out]
        obtain ⟨own, time, -⟩ := Snapshot.view_of_roomObjects found
        exact send_some attends taken _ ▸ .catchesUp selected found own time

/-- **Every occasion is answered.** -/
theorem answers_meet (e : Occasion) : c.Answers e (c.meet e) := by
  cases e with
  | relayed s taken => exact answers_relayed stage s taken
  | lagged missed current taken => exact answers_lagged stage missed current taken
  | text t terrain taken current taken' =>
      cases read : RoomId.parse (String.ofList (trim t.toList)) with
      | error e =>
          rw [meet_text_of_error stage read]
          exact .refuses read
      | ok room =>
          have read := RoomId.parse_trim_eq_ok_iff.mp read
          rw [meet_text_of_ok stage read]
          exact .selects read (isDescription_latestObjects current room)
  | ping data taken =>
      have met : c.meet (.ping data taken) = c.hand [(.pong data, taken)] := by
        rw [← send_some stage]
        simp only [meet, Occasion.turns, turns, step, stage, List.append_nil]
      rw [met]
      exact .pongs
  | other =>
      have met : c.meet .other = (c, []) := by
        simp only [meet, Occasion.turns, turns, step, stage, Option.toList_none, List.append_nil]
      rw [met]
      exact .ignores
  | closed =>
      have met : c.meet .closed = ({ c with stage := .closed }, []) := by
        simp only [meet, Occasion.turns, turns, step, stage, Option.toList_none, List.append_nil]
      rw [met]
      exact .closes

end Meeting

theorem isOpen_of_attending {c : Client} (stage : c.stage = .attending) : c.isOpen = true := by
  rw [isOpen, stage]
  rfl

/-- A connection that has ended does nothing more. -/
theorem meet_of_closed {c : Client} (ended : c.stage = .closed) (e : Occasion) :
    c.meet e = (c, []) := by
  have idle : ∀ (ts : List Turn), c.turns ts = (c, []) := by
    intro ts
    induction ts with
    | nil => rfl
    | cons t rest ih => simp [turns, step, ended, ih]
  exact idle e.turns

/-! ## What an answer leaves behind -/

/-- The things handed over are among those at hand, and the connection goes on or has ended. -/
theorem mem_hand {onward : Client} {things : List (Outbound × Bool)} {out : Outbound}
    (sent : out ∈ (onward.hand things).2) : ∃ taken, (out, taken) ∈ things := by
  obtain ⟨thing, within, rfl⟩ := List.mem_map.mp sent
  exact ⟨thing.2, List.takeWhile_subset _ within⟩

theorem hand_cases (onward : Client) (things : List (Outbound × Bool)) :
    (onward.hand things).1 = onward ∨
      (onward.hand things).1 = { onward with stage := .closed } ∧
        ∃ thing ∈ things, thing.2 = false := by
  unfold hand
  by_cases all : things.all (·.2) = true
  · exact .inl (if_pos all)
  · refine .inr ⟨if_neg all, ?_⟩
    simpa using all

theorem selection?_of_misread {t : String} {e : InvalidRoomId}
    (misread : RoomId.parse (String.ofList (trim t.toList)) = .error e)
    (terrain : Except QueryError (List TerrainTile)) (taken : Bool) (current : Option Snapshot)
    (taken' : Bool) : (Occasion.text t terrain taken current taken').selection? = none := by
  show (RoomId.parse t).toOption = none
  cases read : RoomId.parse t with
  | error => rfl
  | ok room =>
      rw [RoomId.parse_trim_eq_ok_iff.mpr read] at misread
      cases misread

namespace Answers

variable {c : Client} {e : Occasion} {r : Client × List Outbound}

/-- The connection attends to the next wake, with its selection up to date; or it has ended, for
one of two reasons. -/
def Leaves (c : Client) (e : Occasion) (c' : Client) : Prop :=
  (c'.stage = .attending ∧ c'.selected = e.selection?.or c.selected) ∨
    (c'.stage = .closed ∧ (e = .closed ∨ e.Fails))

theorem leaves_hand {onward : Client} {things : List (Outbound × Bool)}
    (stage : onward.stage = .attending) (selected : onward.selected = e.selection?.or c.selected)
    (fails : ∀ thing ∈ things, thing.2 = false → e.Fails) :
    Leaves c e (onward.hand things).1 := by
  rcases hand_cases onward things with goes | ⟨ends, thing, within, lost⟩
  · rw [goes]
    exact .inl ⟨stage, selected⟩
  · rw [ends]
    exact .inr ⟨rfl, .inr (fails thing within lost)⟩

theorem leaves (h : c.Answers e r) (stage : c.stage = .attending) : Leaves c e r.1 := by
  cases h with
  | refuses misread =>
      refine leaves_hand stage ?_ fun thing within lost => ?_
      · rw [selection?_of_misread misread]
        rfl
      · cases List.mem_singleton.mp within
        exact .inl lost
  | selects read =>
      refine leaves_hand stage ?_ fun thing within lost => ?_
      · rw [Occasion.selection?, read]
        rfl
      · rcases List.mem_cons.mp within with rfl | within
        · exact .inl lost
        · cases List.mem_singleton.mp within
          exact .inr lost
  | shows | catchesUp | pongs =>
      refine leaves_hand stage rfl fun thing within lost => ?_
      cases List.mem_singleton.mp within
      exact lost
  | passes | resumes | ignores => exact .inl ⟨stage, rfl⟩
  | closes => exact .inr ⟨rfl, .inl rfl⟩

/-- Without a selection, and without selecting, a connection sends notices only. -/
theorem isNotice_of_unselected (h : c.Answers e r) (unselected : c.selected = none)
    (unselecting : e.selection? = none) : ∀ out ∈ r.2, out.isNotice = true := by
  cases h with
  | refuses | pongs =>
      intro out sent
      obtain ⟨taken, within⟩ := mem_hand sent
      cases List.mem_singleton.mp within
      rfl
  | selects read =>
      rw [Occasion.selection?, read] at unselecting
      cases unselecting
  | shows selected | catchesUp selected =>
      rw [unselected] at selected
      cases selected
  | passes | resumes | ignores | closes => exact List.forall_mem_nil _

end Answers

/-! ## Histories -/

/-- The connection has ended, or it attends to the next wake and its selection is the last one. -/
def Attentive (past : List Occasion) (c : Client) : Prop :=
  c.stage = .closed ∨ c.stage = .attending ∧ c.selected = lastSelection past

theorem lastSelection_concat (past : List Occasion) (e : Occasion) :
    lastSelection (past ++ [e]) = e.selection?.or (lastSelection past) := by
  rw [lastSelection, List.filterMap_append]
  cases selects : e.selection? with
  | none => simp [selects, lastSelection]
  | some room => simp [selects]

theorem lastSelection_eq_none_iff {history : List Occasion} :
    lastSelection history = none ↔ ∀ e ∈ history, e.selection? = none := by
  rw [lastSelection, List.getLast?_eq_none_iff, List.filterMap_eq_nil_iff]

variable {past : List Occasion} {c : Client}

theorem attentive_meet (h : Attentive past c) (e : Occasion) :
    Attentive (past ++ [e]) (c.meet e).1 := by
  rcases h with ended | ⟨stage, selected⟩
  · rw [meet_of_closed ended]
    exact .inl ended
  · rcases (answers_meet stage e).leaves stage with ⟨attends, updated⟩ | ⟨ended, -⟩
    · refine .inr ⟨attends, ?_⟩
      rw [updated, lastSelection_concat, selected]
    · exact .inl ended

/-- **After any history the selection is the last one in it**, unless the connection has ended. -/
theorem attentive_after (h : Attentive past c) (history : List (Receiver × Occasion)) :
    Attentive (past ++ history.map (·.2)) (after history c).1 := by
  induction history generalizing past c with
  | nil => exact (List.append_nil past).symm ▸ h
  | cons m rest ih =>
      have attentive : Attentive past { c with receiver := m.1 } := h
      rw [List.map_cons, List.append_cons]
      exact ih (attentive_meet attentive m.2)

/-- **Before the first selection there are only notices.** -/
theorem isNotice_after (h : Attentive past c) (history : List (Receiver × Occasion))
    (unselected : lastSelection (past ++ history.map (·.2)) = none) :
    ∀ out ∈ (after history c).2, out.isNotice = true := by
  induction history generalizing past c with
  | nil => exact List.forall_mem_nil _
  | cons m rest ih =>
      have attentive : Attentive past { c with receiver := m.1 } := h
      rw [List.map_cons, List.append_cons] at unselected
      have never := lastSelection_eq_none_iff.mp unselected
      intro out sent
      rcases List.mem_append.mp sent with now | later
      · have now : out ∈ ({ c with receiver := m.1 }.meet m.2).2 := now
        rcases attentive with ended | ⟨stage, selected⟩
        · rw [meet_of_closed ended] at now
          cases now
        · have unselecting : m.2.selection? = none := never m.2 (by simp)
          refine (answers_meet stage m.2).isNotice_of_unselected ?_ unselecting out now
          rw [selected]
          exact lastSelection_eq_none_iff.mpr fun e he => never e (by simp [he])
      · exact ih (attentive_meet attentive m.2) unselected out later

end Client

namespace Observation

variable {β τ : Type}

/-- Bare snapshots are not relayed, whatever the writer and the connection do. -/
theorem isInitialized_of_relayed (settings : SyncSettings) (subscription : Subscription β τ)
    (capacity : Nat) (words : List UInt64) (memory : τ) (actions : List (Action β τ))
    {s : Snapshot}
    (woken : (after settings subscription capacity actions (start words memory)).wake =
      some (.relayed s)) : s.isInitialized = true := by
  have coherent : (after settings subscription capacity actions (start words memory)).Coherent :=
    after_induction (coherent_start words memory) (fun _ _ => coherent_happens) actions
  refine coherent.full s ?_
  rw [line, woken]
  exact List.mem_cons_self

end Observation

namespace Client

/-- **What a connection sends.** While it is open, its selection is that of the last text that is a
room; it answers every wake as `Answers` tells, and ends only when it is closed or when something is
not taken. Ended connections send nothing. Before the first selection there is neither terrain nor
entities. A snapshot that is relayed has entities, so a connection with a selection sends them. -/
theorem answers_each_wake {β τ : Type} (settings : SyncSettings)
    (subscription : Subscription β τ) (capacity : Nat) (words : List UInt64) (memory : τ) :
    (∀ (history : List (Receiver × Occasion)) (receiver : Receiver) (e : Occasion),
      let c := { (after history connect).1 with receiver }
      (c.isOpen = true → c.selected = lastSelection (history.map (·.2)) ∧ c.Answers e (c.meet e) ∧
        ((c.meet e).1.isOpen = false → e = .closed ∨ e.Fails)) ∧
      (c.isOpen = false → c.meet e = (c, []))) ∧
    (∀ history : List (Receiver × Occasion), lastSelection (history.map (·.2)) = none →
      ∀ out ∈ (after history connect).2, out.isNotice = true) ∧
    ∀ (actions : List (Action β τ)) (s : Snapshot),
      (Observation.after settings subscription capacity actions (.start words memory)).wake =
        some (.relayed s) → s.isInitialized = true := by
  have new : Attentive [] connect := .inr ⟨rfl, rfl⟩
  refine ⟨fun history receiver e => ?_, fun history => isNotice_after new history,
    fun actions s => Observation.isInitialized_of_relayed settings subscription capacity words
      memory actions⟩
  have attentive : Attentive (history.map (·.2)) { (after history connect).1 with receiver } :=
    attentive_after new history
  constructor
  · intro isOpen
    obtain ⟨stage, selected⟩ := attentive.resolve_left (bne_iff_ne.mp isOpen)
    have answers := answers_meet stage e
    refine ⟨selected, answers, fun ended => ?_⟩
    rcases answers.leaves stage with ⟨attends, -⟩ | ⟨-, cause⟩
    · rw [isOpen_of_attending attends] at ended
      cases ended
    · exact cause
  · intro ended
    exact meet_of_closed (bne_eq_false_iff_eq.mp ended) e

/-- A text that is no room, a room without terrain or entities, and another text that is no room. -/
def misreadings : List (Receiver × Occasion) := [
  (.empty, .text "nowhere" (.error .notInitialized) true none true),
  (.empty, .text " 1;0" (.error .notInitialized) true none true),
  (.empty, .text "" (.error .notInitialized) true none true)]

open Observation Supervisor in
/-- The first snapshot with entities reaches a client whose room has been missing so far. -/
theorem answers_each_wake_misreadings :
    let c := (after misreadings connect).1
    let o := Observation.after plainSettings noSubscription 1
      (writes (.poll false none :: opening [⟨1, 0⟩] ++ [.hear (tick 1 ⟨1, 0⟩ [])]) ++ [.take])
      (.start [] ())
    c.selected = some ⟨⟨1, 0⟩⟩ ∧
    ∃ s, o.wake = some (.relayed s) ∧ s.isInitialized = true ∧
      c.Answers (.relayed s true) (c.meet (.relayed s true)) ∧
      ∀ out ∈ (after (misreadings.take 1) connect).2, out.isNotice = true := by
  intro c o
  obtain ⟨each, notices, relayed⟩ := answers_each_wake plainSettings noSubscription 1 [] ()
  have isOpen : c.isOpen = true := by decide +kernel
  have last : lastSelection (misreadings.map (·.2)) = some ⟨⟨1, 0⟩⟩ := by decide +kernel
  have none : lastSelection ((misreadings.take 1).map (·.2)) = none := by decide +kernel
  have woken : o.wake.any (·.snapshot?.isSome) = true := by decide +kernel
  obtain ⟨w, wake, isRelayed⟩ := (Option.any_eq_true _ _).mp woken
  cases w with
  | relayed s =>
      obtain ⟨selected, answers, -⟩ :=
        (each misreadings c.receiver (.relayed s true)).1 isOpen
      exact ⟨selected.trans last, s, wake, relayed _ s wake, answers, notices _ none⟩
  | lagged | text | ping | other | closed | skipped | terrain | sent => cases isRelayed

end Client

end HexWorld
