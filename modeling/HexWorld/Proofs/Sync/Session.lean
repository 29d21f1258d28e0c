import HexWorld.Proofs.Sync.Run
import HexWorld.Proofs.World.LastWriter

/-!
# `Proofs.Sync.Session` — one session, from its description of the world on

What a session shows to readers depends on its accepted messages only. The proof walks along the
messages: as long as the machine streams, its snapshot mirrors the messages accepted so far; at the
first breaking message it halts, and from then on nothing that comes changes what is shown.

## Contents
- `Move.IsIdle`, `heard`, `IsFeed`: moves that bring messages and nothing else.
- `Streams`, `Follows`: what the machine shows while messages are judged.
- `run_feed`: the walk.
- `session_eq_lastWriter`: the session as a whole.
-/

namespace HexWorld

namespace Supervisor

variable {β τ : Type} {settings : SyncSettings} {subscription : Subscription β τ}

/-! ## Moves of a session -/

/-- Nothing comes, and no stop is requested. -/
def Move.IsIdle : Move β τ → Prop
  | .poll stopping ready => stopping = false ∧ ready = none
  | _ => True

/-- The message that a move brings. -/
def Move.message? : Move β τ → Option EntitiesMessage
  | .poll false (some (.item (some (.ok m)))) => some m
  | _ => none

/-- The messages of a sequence of moves, in order. -/
def heard (moves : List (Move β τ)) : List EntitiesMessage :=
  moves.filterMap Move.message?

/-- The moves bring valid messages, and nothing happens otherwise. -/
def IsFeed (moves : List (Move β τ)) : Prop :=
  ∀ move ∈ moves, move.IsIdle ∨ ∃ m u, move = .hear m ∧ Update.ofMessage m = .ok u

theorem Move.message?_of_isIdle {m : Move β τ} (h : m.IsIdle) : m.message? = none := by
  cases m with
  | poll stopping ready =>
      obtain ⟨rfl, rfl⟩ := h
      rfl
  | register | deregister | remember => rfl

theorem heard_cons_of_isIdle {m : Move β τ} (h : m.IsIdle) (rest : List (Move β τ)) :
    heard (m :: rest) = heard rest :=
  List.filterMap_cons_none (Move.message?_of_isIdle h)

theorem isFeed_map_hear {messages : List EntitiesMessage}
    (valid : ∀ m ∈ messages, (Update.ofMessage m).toBool = true) :
    IsFeed (messages.map .hear : List (Move β τ)) := by
  intro move h
  obtain ⟨m, hm, rfl⟩ := List.mem_map.mp h
  have checked := valid m hm
  cases result : Update.ofMessage m with
  | ok u => exact .inr ⟨m, u, rfl, result⟩
  | error e =>
      rw [result] at checked
      cases checked

theorem heard_cons_hear (m : EntitiesMessage) (rest : List (Move β τ)) :
    heard (.hear m :: rest) = m :: heard rest := rfl

/-! ## Machines that stay as they are -/

section Moves

variable (settings : SyncSettings) (subscription : Subscription β τ) {s : Supervisor β τ}

/-- While a machine waits, an idle move changes neither its position nor the store. -/
theorem move_of_isIdle {m : Move β τ} (h : m.IsIdle) (started : s.position ≠ .idle)
    (begun : s.position ≠ .beginning) :
    (s.move settings subscription m).1.position = s.position ∧
      (s.move settings subscription m).1.hub.current = s.hub.current := by
  cases m with
  | poll stopping ready =>
      obtain ⟨rfl, rfl⟩ := h
      have rest : s.poll settings subscription false none = (s, []) := by
        unfold poll
        rw [if_neg Bool.false_ne_true]
        split
        · exact absurd ‹_› started
        · exact absurd ‹_› begun
        · contradiction
        · rfl
      rw [move, rest]
      exact ⟨rfl, rfl⟩
  | register | deregister | remember => exact ⟨rfl, rfl⟩

theorem run_of_isIdle {moves : List (Move β τ)} (h : ∀ m ∈ moves, m.IsIdle)
    (started : s.position ≠ .idle) (begun : s.position ≠ .beginning) :
    (run settings subscription moves s).1.position = s.position ∧
      (run settings subscription moves s).1.hub.current = s.hub.current := by
  induction moves generalizing s with
  | nil => exact ⟨rfl, rfl⟩
  | cons m rest ih =>
      obtain ⟨position, current⟩ := move_of_isIdle settings subscription
        (h m List.mem_cons_self) started begun
      rw [run_cons, ← position, ← current]
      rw [← position] at started begun
      exact ih (fun m hm => h m (List.mem_cons_of_mem _ hm)) started begun

/-- Messages do not reach a machine whose session is over. -/
theorem move_hear_of_isHalted (h : s.position.IsHalted) (m : EntitiesMessage) :
    s.move settings subscription (.hear m) = (s, []) := by
  show s.poll settings subscription false (some (.item (some (.ok m)))) = (s, [])
  unfold poll
  rw [if_neg Bool.false_ne_true]
  cases position : s.position with
  | sleeping | ended => simp only [take, position]
  | idle | beginning | connecting | listing | placing | subscribing | streaming =>
      rw [position] at h
      exact h.elim

theorem run_of_isHalted {feed : List (Move β τ)} (fed : IsFeed feed) (h : s.position.IsHalted) :
    (run settings subscription feed s).1.position.IsHalted ∧
      (run settings subscription feed s).1.hub.current = s.hub.current := by
  induction feed generalizing s with
  | nil => exact ⟨h, rfl⟩
  | cons move rest ih =>
      have rest_fed : IsFeed rest := fun m hm => fed m (List.mem_cons_of_mem _ hm)
      rw [run_cons]
      rcases fed move List.mem_cons_self with idle | ⟨m, u, rfl, -⟩
      · have started : s.position ≠ .idle := fun eq => by rw [eq] at h; exact h
        have begun : s.position ≠ .beginning := fun eq => by rw [eq] at h; exact h
        obtain ⟨position, current⟩ := move_of_isIdle settings subscription idle started begun
        rw [← current]
        rw [← position] at h
        exact ih rest_fed h
      · rw [move_hear_of_isHalted settings subscription h]
        exact ih rest_fed h

end Moves

/-! ## What is shown while messages are judged -/

section Shown

variable {b : Bootstrap} {session : UInt64} {taken : List EntitiesMessage} {s : Supervisor β τ}

/-- The machine streams and shows exactly the accepted messages. -/
def Streams (b : Bootstrap) (session : UInt64) (taken : List EntitiesMessage)
    (s : Supervisor β τ) : Prop :=
  ∃ c, s.position = .streaming c ∧ s.hub.current = some c ∧ Mirrors b session taken c

/-- The machine shows exactly the accepted messages, and it streams unless a message has broken the
session. -/
def Follows (b : Bootstrap) (session : UInt64)
    (judged : List EntitiesMessage × Option EntitiesMessage) (s : Supervisor β τ) : Prop :=
  ∃ c, s.hub.current = some c ∧ Mirrors b session judged.1 c ∧
    (judged.2 = none → s.position = .streaming c) ∧ (judged.2 ≠ none → s.position.IsHalted)

variable (settings : SyncSettings) (subscription : Subscription β τ)

/-- One message: the machine goes on as the verdict says, or halts. -/
theorem move_hear (h : Streams b session taken s) {m : EntitiesMessage} {u : Update}
    (valid : Update.ofMessage m = .ok u) :
    let s' := (s.move settings subscription (.hear m)).1
    match verdict b.rooms taken m with
    | .accepted => Streams b session (taken ++ [m]) s'
    | .late => Streams b session taken s'
    | .breaking => s'.position.IsHalted ∧ s'.hub.current = s.hub.current := by
  obtain ⟨c, position, current, mirrors⟩ := h
  have received : s.move settings subscription (.hear m) =
      s.receive settings.policy subscription c m := by
    show s.poll settings subscription false (some (.item (some (.ok m)))) = _
    unfold poll
    rw [if_neg Bool.false_ne_true]
    simp only [take, position]
  rw [received]
  -- The checks of the machine and the verdict distinguish the same three cases.
  rcases mirrors.cases valid with ⟨judged, _, _, applied⟩ | ⟨judged, room, applied⟩ |
    ⟨judged, applied, next⟩
  · have dropped : s.receive settings.policy subscription c m = (s.countStale, []) := by
      simp only [receive, valid, applied, countStale]
    rw [dropped, judged]
    exact ⟨c, position, current, mirrors⟩
  · have broken : s.receive settings.policy subscription c m =
        s.fail settings.policy (.protocol (ApplyError.unknownRoom room).message) := by
      simp only [receive, valid, applied]
    rw [broken, judged]
    exact ⟨isHalted_fail _ _ s, (Quietly.fail _ _).current⟩
  · have accepted : s.receive settings.policy subscription c m =
        s.accept subscription (c.after u) := by
      simp only [receive, valid, applied]
    rw [accepted, judged]
    exact ⟨c.after u, rfl, rfl, next⟩

/-- **The walk.** While messages come, the machine follows their judgement. -/
theorem run_feed (h : Streams b session taken s) {feed : List (Move β τ)} (fed : IsFeed feed) :
    Follows b session (judgeAfter b.rooms taken (heard feed))
      (run settings subscription feed s).1 := by
  induction feed generalizing taken s with
  | nil =>
      obtain ⟨c, position, current, mirrors⟩ := h
      exact ⟨c, current, mirrors, fun _ => position, fun broken => absurd rfl broken⟩
  | cons move rest ih =>
      have rest_fed : IsFeed rest := fun m hm => fed m (List.mem_cons_of_mem _ hm)
      rw [run_cons]
      rcases fed move List.mem_cons_self with idle | ⟨m, u, rfl, valid⟩
      · rw [heard_cons_of_isIdle idle]
        obtain ⟨c, position, current, mirrors⟩ := h
        obtain ⟨position', current'⟩ := move_of_isIdle settings subscription (s := s) idle
          (by rw [position]; exact Position.noConfusion)
          (by rw [position]; exact Position.noConfusion)
        exact ih ⟨c, position'.trans position, current'.trans current, mirrors⟩ rest_fed
      · have moved := move_hear settings subscription h valid
        rw [heard_cons_hear, judgeAfter]
        cases judged : verdict b.rooms taken m with
        | accepted =>
            rw [judged] at moved
            exact ih moved rest_fed
        | late =>
            rw [judged] at moved
            exact ih moved rest_fed
        | breaking =>
            rw [judged] at moved
            obtain ⟨c, -, current, mirrors⟩ := h
            -- The session is over: what was shown at the breaking message stays.
            obtain ⟨halted, kept⟩ := run_of_isHalted settings subscription rest_fed moved.1
            refine ⟨c, (kept.trans moved.2).trans current, mirrors, ?_, fun _ => halted⟩
            intro none
            cases none

end Shown

/-! ## The session as a whole -/

/-- The moves of a session from its description on: the layout comes, then the subscription begins,
then the messages come. -/
def wholeSession (layout : LayoutReply) (between feed : List (Move β τ)) : List (Move β τ) :=
  .poll false (some (.placed (.answered (.ok layout)))) :: between ++
    .poll false (some (.subscribed (.answered (.ok ())))) :: feed

section Session

variable (settings : SyncSettings) (subscription : Subscription β τ) {s : Supervisor β τ}
  {rooms : RoomList} {layout : LayoutReply} {b : Bootstrap} {between feed : List (Move β τ)}

theorem follows_wholeSession (position : s.position = .placing rooms)
    (described : Bootstrap.ofReplies rooms layout = .ok b) (idle : ∀ m ∈ between, m.IsIdle)
    (fed : IsFeed feed) :
    Follows b s.session (judge b.rooms (heard feed))
      (run settings subscription (wholeSession layout between feed) s).1 := by
  -- The description is published.
  have first : s.move settings subscription
      (.poll false (some (.placed (.answered (.ok layout))))) = s.publishFirst b := by
    show s.poll settings subscription false (some (.placed (.answered (.ok layout)))) = _
    unfold poll
    rw [if_neg Bool.false_ne_true]
    simp only [take, position, Bounded.ofRequest, described]
  -- Nothing changes until the subscription begins.
  obtain ⟨waiting, shown⟩ := run_of_isIdle settings subscription (s := (s.publishFirst b).1) idle
    (by exact Position.noConfusion) (by exact Position.noConfusion)
  have streams (s' : Supervisor β τ) (waiting : s'.position = (s.publishFirst b).1.position)
      (shown : s'.hub.current = (s.publishFirst b).1.hub.current) :
      Streams b s.session [] (s'.move settings subscription
        (.poll false (some (.subscribed (.answered (.ok ())))))).1 := by
    have entered : s'.move settings subscription
        (.poll false (some (.subscribed (.answered (.ok ()))))) =
        s'.enter (.streaming { Snapshot.initial b with session := s.session })
          (.streaming s'.session) := by
      show s'.poll settings subscription false (some (.subscribed (.answered (.ok ())))) = _
      unfold poll
      rw [if_neg Bool.false_ne_true]
      simp only [take, waiting, publishFirst, Bounded.ofRequest]
    rw [entered]
    exact ⟨_, rfl, shown, .initial b s.session⟩
  rw [wholeSession, run_append, run_cons, run_cons, first]
  exact run_feed settings subscription (streams _ waiting shown) fed

/-- **The last writer wins.** After any feed of valid messages, a session shows what the accepted
ones alone say, room by room, and it streams unless a message newer than all accepted ones has named
an undeclared room. So the feed may be cut down to the messages that are not late, or to the
accepted ones: the snapshot stays the same. -/
theorem session_eq_lastWriter (position : s.position = .placing rooms)
    (described : Bootstrap.ofReplies rooms layout = .ok b) (idle : ∀ m ∈ between, m.IsIdle)
    (fed : IsFeed feed) :
    let after feed := (run settings subscription (wholeSession layout between feed) s).1
    let taken := (judge b.rooms (heard feed)).1
    let offender := (judge b.rooms (heard feed)).2
    (∃ current, (after feed).hub.current = some current ∧
      current.worldTime.toInt = (taken.getLast?.map fun m => (m.worldTime.toNat : Int)).getD (-1) ∧
      current.diagnostics = taken.getLast?.bind (·.diagnostics) ∧
      (∀ room, (after feed).hub.objects room =
        if taken = [] then .error .notInitialized
        else .ok ⟨current.worldTime, room, (lastWritten taken room).getD .none⟩) ∧
      (offender = none → (after feed).position = .streaming current) ∧
      (offender ≠ none → (after feed).position.IsHalted)) ∧
    ∀ other, IsFeed other →
      heard other = withoutLate b.rooms (heard feed) ∨ heard other = taken →
      (after other).hub.current = (after feed).hub.current := by
  intro after taken offender
  obtain ⟨c, current, mirrors, streaming, halted⟩ :=
    follows_wholeSession settings subscription position described idle fed
  refine ⟨⟨c, current, mirrors.worldTime, mirrors.diagnostics, ?_, streaming, halted⟩, ?_⟩
  · intro room
    show Snapshot.latestObjects (after feed).hub.current room = _
    rw [current]
    exact mirrors.roomObjects room
  · intro other other_fed cut
    obtain ⟨d, current', mirrors', -, -⟩ :=
      follows_wholeSession settings subscription position described idle other_fed
    -- Both feeds have the same accepted messages, and these determine the snapshot.
    have same : (judge b.rooms (heard other)).1 = taken := by
      rcases cut with cut | cut
      · rw [cut, judge_withoutLate]
      · rw [cut, judge_accepted]
    rw [same] at mirrors'
    rw [current, current', mirrors.unique mirrors']

/-- Two accepted messages, a late one between them, and one about an undeclared room before the
last. -/
def fiveMessages : List EntitiesMessage :=
  [tick 5 ⟨0, 0⟩ [default], tick 4 ⟨0, 0⟩ [], tick 7 ⟨1, 0⟩ [], tick 8 ⟨9, 9⟩ [],
    tick 9 ⟨0, 0⟩ []]

theorem session_eq_lastWriter_fiveMessages :
    let s := (run plainSettings noSubscription
      (.poll false none :: (opening [⟨0, 0⟩, ⟨1, 0⟩]).take 3) (start [] ())).1
    let r := (run plainSettings noSubscription
      (wholeSession ⟨[]⟩ [.register ()] (fiveMessages.map .hear)) s).1
    r.position.IsHalted ∧
    ∃ current, r.hub.current = some current ∧ current.worldTime.toInt = 7 ∧
      ∀ room, r.hub.objects room = .ok ⟨current.worldTime, room,
        (lastWritten [tick 5 ⟨0, 0⟩ [default], tick 7 ⟨1, 0⟩ []] room).getD .none⟩ := by
  intro s r
  have position : s.position = .placing ⟨[⟨0, 0⟩, ⟨1, 0⟩]⟩ := rfl
  have described : Bootstrap.ofReplies ⟨[⟨0, 0⟩, ⟨1, 0⟩]⟩ ⟨[]⟩ =
      .ok ⟨[⟨⟨0, 0⟩⟩, ⟨⟨1, 0⟩⟩], .empty⟩ := rfl
  have idle : ∀ m ∈ [Move.register (τ := Unit) ()], m.IsIdle := by
    intro m hm
    rw [List.mem_singleton.mp hm]
    trivial
  have fed : IsFeed (fiveMessages.map .hear : List (Move Unit Unit)) :=
    isFeed_map_hear (by decide +kernel)
  have judged : judge [⟨⟨0, 0⟩⟩, ⟨⟨1, 0⟩⟩]
      (heard (fiveMessages.map .hear : List (Move Unit Unit))) =
      ([tick 5 ⟨0, 0⟩ [default], tick 7 ⟨1, 0⟩ []], some (tick 8 ⟨9, 9⟩ [])) := by
    decide +kernel
  obtain ⟨⟨c, current, time, -, rooms, -, halted⟩, -⟩ :=
    session_eq_lastWriter plainSettings noSubscription position described idle fed
  rw [judged] at time rooms halted
  exact ⟨halted (Option.some_ne_none _), c, current, time, rooms⟩

end Session

end Supervisor
end HexWorld
