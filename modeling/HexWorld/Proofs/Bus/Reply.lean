import HexWorld.Proofs.Message.Envelope
import HexWorld.Proofs.Message.Json
import HexWorld.Proofs.Sync.Description
import HexWorld.Proofs.Terrain.Step
import HexWorld.Rehearsal.Broker

/-!
# `Proofs.Bus.Reply` — what a reply can bring about

Anybody may answer on the bus, with any payload. What is made of a payload depends on the reply that
it carries alone: a body, or a refusal with its code; and a payload that carries none is a breach of
the protocol. So no answer can put a room in another's place, a description of the world never fails
for want of a room, and only one code of refusal ends supervision at once.

## Contents
- `decodeReply_eq_iff`, `decodeReply_eq_ok_iff` and its like: which payload means what.
- `IsDenial` and `decodeReply_final_iff`: the final failures.
- `TerrainSlot.told?`, `told?_answered_eq_ok_iff` and its like: what a caller of the slot is told.
- `Heard`, `Source.IsOnBus`: what a conversation with a source on the bus can hear.
- `Supervisor.EndsOnlyBy`, `Supervisor.Meets`: what an answer does to the machine.
- `Connector.replies_are_told_apart`.
-/

namespace HexWorld

open Json Rehearsal

/-! ## Meanings -/

namespace Reply

variable {α : Type} {operation : String} {room : Option RoomId} {r : Reply α}

theorem result_eq_ok_iff {a : α} : r.result operation room = .ok a ↔ r = .ok a := by
  rcases r with a' | ⟨code, message⟩
  · simp [result]
  · simp [result]

theorem result_eq_roomNotFound_iff {missing : RoomId} :
    r.result operation room = .error (.roomNotFound missing) ↔
      room = some missing ∧ ∃ message, r = .error .notFound message := by
  rcases r with a | ⟨code, message⟩
  · simp [result]
  · rcases room with _ | room <;> cases code <;> simp [result]

theorem result_eq_permissionDenied_iff {detail : String} :
    r.result operation room = .error (.permissionDenied detail) ↔
      ∃ message, r = .error .permissionDenied message ∧ detail = s!"{operation}: {message}" := by
  rcases r with a | ⟨code, message⟩
  · simp [result]
  · rcases room with _ | room <;> cases code <;> simp [result, eq_comm]

theorem result_eq_unavailable_iff {detail : String} :
    r.result operation room = .error (.unavailable detail) ↔
      ∃ code message, r = .error code message ∧ (code = .unavailable ∨ code = .internal) ∧
        detail = s!"{operation} failed ({code.title}): {message}" := by
  rcases r with a | ⟨code, message⟩
  · simp [result]
  · rcases room with _ | room <;> cases code <;> simp [result, eq_comm, and_assoc]

theorem result_eq_protocol_iff :
    (∃ detail, r.result operation room = .error (.protocol detail)) ↔
      ∃ message, r = .error .invalidArgument message ∨
        r = .error .notFound message ∧ room = none := by
  rcases r with a | ⟨code, message⟩
  · simp [result]
  · rcases room with _ | room <;> cases code <;> simp [result]

/-- Settings and ends of streams are not spoken of in replies. -/
theorem result_ne {e : SourceError} (h : (∃ detail, e = .config detail) ∨ e = .streamEnded) :
    r.result operation room ≠ .error e := by
  rcases h with ⟨detail, rfl⟩ | rfl <;> rcases r with a | ⟨code, message⟩ <;>
    rcases room with _ | room <;> try cases code
  all_goals simp [result]

end Reply

section Decoding

variable {α : Type} {body? : Value → Option α} {payload : List UInt8} {operation : String}
  {room : Option RoomId}

/-- What is made of a payload comes from the reply that it carries, unless it is the complaint that
it carries none. -/
theorem decodeReply_eq_iff {x : Except SourceError α}
    (other : x ≠ .error (.protocol s!"undecodable {operation} reply")) :
    decodeReply body? operation room payload = x ↔
      ∃ r, Carries body? payload r ∧ r.result operation room = x := by
  constructor
  · intro h
    by_cases carries : ∃ r : Reply α, Carries body? payload r
    · obtain ⟨r, carries⟩ := carries
      exact ⟨r, carries, (decodeReply_of_carries carries operation room).symm.trans h⟩
    · rw [decodeReply_of_not_carries (not_exists.mp carries)] at h
      exact absurd h.symm other
  · rintro ⟨r, carries, rfl⟩
    exact decodeReply_of_carries carries operation room

theorem decodeReply_eq_ok_iff {a : α} :
    decodeReply body? operation room payload = .ok a ↔ Carries body? payload (.ok a) := by
  simp [decodeReply_eq_iff, Reply.result_eq_ok_iff]

theorem decodeReply_eq_roomNotFound_iff {missing : RoomId} :
    decodeReply body? operation room payload = .error (.roomNotFound missing) ↔
      room = some missing ∧ ∃ message, Carries body? payload (.error .notFound message) := by
  rw [decodeReply_eq_iff (by simp)]
  simp only [Reply.result_eq_roomNotFound_iff]
  constructor
  · rintro ⟨_, carries, named, message, rfl⟩
    exact ⟨named, message, carries⟩
  · rintro ⟨named, message, carries⟩
    exact ⟨_, carries, named, message, rfl⟩

theorem decodeReply_eq_permissionDenied_iff {detail : String} :
    decodeReply body? operation room payload = .error (.permissionDenied detail) ↔
      ∃ message, Carries body? payload (.error .permissionDenied message) ∧
        detail = s!"{operation}: {message}" := by
  rw [decodeReply_eq_iff (by simp)]
  simp only [Reply.result_eq_permissionDenied_iff]
  constructor
  · rintro ⟨_, carries, message, rfl, text⟩
    exact ⟨message, carries, text⟩
  · rintro ⟨message, carries, text⟩
    exact ⟨_, carries, message, rfl, text⟩

theorem decodeReply_eq_unavailable_iff {detail : String} :
    decodeReply body? operation room payload = .error (.unavailable detail) ↔
      ∃ code message, Carries body? payload (.error code message) ∧
        (code = .unavailable ∨ code = .internal) ∧
        detail = s!"{operation} failed ({code.title}): {message}" := by
  rw [decodeReply_eq_iff (by simp)]
  simp only [Reply.result_eq_unavailable_iff]
  constructor
  · rintro ⟨_, carries, code, message, rfl, lost, text⟩
    exact ⟨code, message, carries, lost, text⟩
  · rintro ⟨code, message, carries, lost, text⟩
    exact ⟨_, carries, code, message, rfl, lost, text⟩

theorem decodeReply_eq_protocol_iff :
    (∃ detail, decodeReply body? operation room payload = .error (.protocol detail)) ↔
      ∀ r, Carries body? payload r →
        ∃ message, r = .error .invalidArgument message ∨
          r = .error .notFound message ∧ room = none := by
  constructor
  · rintro ⟨detail, h⟩ r carries
    rw [decodeReply_of_carries carries] at h
    exact Reply.result_eq_protocol_iff.mp ⟨detail, h⟩
  · intro h
    by_cases carries : ∃ r : Reply α, Carries body? payload r
    · obtain ⟨r, carries⟩ := carries
      rw [decodeReply_of_carries carries]
      exact Reply.result_eq_protocol_iff.mpr (h r carries)
    · exact ⟨_, decodeReply_of_not_carries (not_exists.mp carries) operation room⟩

theorem decodeReply_ne {e : SourceError}
    (h : (∃ detail, e = .config detail) ∨ e = .streamEnded) :
    decodeReply body? operation room payload ≠ .error e := by
  intro same
  have other : (Except.error e : Except SourceError α) ≠
      .error (.protocol s!"undecodable {operation} reply") := by
    rcases h with ⟨detail, rfl⟩ | rfl <;> simp
  obtain ⟨r, -, same⟩ := (decodeReply_eq_iff other).mp same
  exact Reply.result_ne h same

/-- The failure is the denial that a payload carries. -/
def IsDenial (body? : Value → Option α) (operation : String) (payload : List UInt8)
    (e : SourceError) : Prop :=
  ∃ message, Carries body? payload (.error .permissionDenied message) ∧
    e = .permissionDenied s!"{operation}: {message}"

/-- Only a denial is final. -/
theorem decodeReply_final_iff {e : SourceError} :
    decodeReply body? operation room payload = .error e ∧ e.isRetryable = false ↔
      IsDenial body? operation payload e := by
  constructor
  · rintro ⟨h, final⟩
    cases e with
    | permissionDenied detail =>
        obtain ⟨message, carries, rfl⟩ := decodeReply_eq_permissionDenied_iff.mp h
        exact ⟨message, carries, rfl⟩
    | config detail => exact absurd h (decodeReply_ne (.inl ⟨detail, rfl⟩))
    | unavailable | protocol | roomNotFound | streamEnded => cases final
  · rintro ⟨message, carries, rfl⟩
    exact ⟨decodeReply_eq_permissionDenied_iff.mpr ⟨message, carries, rfl⟩, rfl⟩

end Decoding

/-! ## Terrain -/

theorem QueryError.mapError_ofSource_eq_ok_iff {α : Type} {result : Except SourceError α} {a : α} :
    result.mapError QueryError.ofSource = .ok a ↔ result = .ok a := by
  rcases result with e | given
  · exact iff_of_false nofun nofun
  · show Except.ok given = _ ↔ _
    simp

theorem QueryError.mapError_ofSource_eq_roomNotFound_iff {α : Type}
    {result : Except SourceError α} {missing : RoomId} :
    result.mapError QueryError.ofSource = .error (.roomNotFound missing) ↔
      result = .error (.roomNotFound missing) := by
  rcases result with e | given
  · show Except.error (QueryError.ofSource e) = _ ↔ _
    cases e <;> simp [QueryError.ofSource]
  · exact iff_of_false nofun nofun

namespace TerrainSlot

variable {s : TerrainSlot} {n connection : Nat} {room : RoomId} {timeout : Duration}

/-- What the caller is told once its call is done. -/
def told? (n : Nat) (s : TerrainSlot) : Option (Except QueryError (List TerrainTile)) :=
  (s.result? n).map (·.mapError QueryError.ofSource)

variable (room timeout) in
theorem resultFor_eq_ok_iff {result : Except SourceError TerrainReply} {tiles : List TerrainTile} :
    resultFor timeout room (.answered result) = .ok tiles ↔ result = .ok ⟨room.axial, tiles⟩ := by
  rcases result with e | ⟨about, given⟩
  · exact iff_of_false nofun nofun
  · show TerrainReply.tilesOf room ⟨about, given⟩ = .ok tiles ↔ _
    rcases room with ⟨axial⟩
    by_cases same : about = axial
    · simp [TerrainReply.tilesOf, same]
    · simp [TerrainReply.tilesOf, same]

variable (room timeout) in
theorem resultFor_eq_roomNotFound_iff {result : Except SourceError TerrainReply}
    {missing : RoomId} :
    resultFor timeout room (.answered result) = .error (.roomNotFound missing) ↔
      result = .error (.roomNotFound missing) := by
  rcases result with e | reply
  · show Except.error e = _ ↔ _
    simp
  · show TerrainReply.tilesOf room reply = _ ↔ _
    rw [TerrainReply.tilesOf]
    split <;> simp

/-- Only an outage does not end the call at once. -/
theorem result?_answered (asks : s.calls[n]? = some ⟨room, .asking connection⟩)
    (result : Bounded TerrainReply) :
    (s.answered timeout n result).result? n =
      match resultFor timeout room result with
      | .error (.unavailable _) => none
      | result => some result := by
  have moves {stage : TerrainStage} {s' : TerrainSlot}
      (calls : s'.calls = s.calls.modify n fun c => { c with stage }) :
      s'.stage? n = some stage := (moved_of_calls asks calls).self
  unfold answered
  simp only [asks]
  rcases resultFor timeout room result with e | tiles
  · cases e <;> dsimp only <;> rw [result?, moves rfl]
  · dsimp only
    rw [result?, moves rfl]

theorem told?_answered_eq_ok_iff (asks : s.calls[n]? = some ⟨room, .asking connection⟩)
    {result : Except SourceError TerrainReply} {tiles : List TerrainTile} :
    (s.answered timeout n (.answered result)).told? n = some (.ok tiles) ↔
      result = .ok ⟨room.axial, tiles⟩ := by
  rw [← resultFor_eq_ok_iff room timeout, told?, result?_answered asks]
  rcases resultFor timeout room (.answered result) with e | found
  · cases e <;> simp [QueryError.mapError_ofSource_eq_ok_iff]
  · simp [QueryError.mapError_ofSource_eq_ok_iff]

theorem told?_answered_eq_roomNotFound_iff (asks : s.calls[n]? = some ⟨room, .asking connection⟩)
    {result : Except SourceError TerrainReply} {missing : RoomId} :
    (s.answered timeout n (.answered result)).told? n = some (.error (.roomNotFound missing)) ↔
      result = .error (.roomNotFound missing) := by
  rw [← resultFor_eq_roomNotFound_iff room timeout, told?, result?_answered asks]
  rcases resultFor timeout room (.answered result) with e | found
  · cases e <;> simp [QueryError.mapError_ofSource_eq_roomNotFound_iff]
  · simp [QueryError.mapError_ofSource_eq_roomNotFound_iff]

end TerrainSlot

/-! ## Conversations -/

/-- No description of the world fails for want of a room, if no answer does. -/
theorem Bootstrap.not_answers_roomNotFound {listing : Except SourceError RoomList}
    {placing : Except SourceError LayoutReply} {missing : RoomId}
    (listed : listing ≠ .error (.roomNotFound missing))
    (placed : placing ≠ .error (.roomNotFound missing)) :
    ¬Answers listing placing (.error (.roomNotFound missing)) := by
  intro answers
  generalize refused : (Except.error (.roomNotFound missing) : Except SourceError Bootstrap) = x
    at answers
  cases answers with
  | unlisted failed => exact listed (failed.trans (by cases refused; rfl))
  | unplaced _ failed => exact placed (failed.trans (by cases refused; rfl))
  | refused _ _ refuses =>
      cases refused
      cases refuses
  | described => cases refused

namespace Rehearsal

/-- What can be heard of a request on the bus: what a payload means, or that the source is
unavailable. -/
inductive Heard {α : Type} (body? : Value → Option α) (i : Inquiry) : Except SourceError α → Prop where
  | reply (payload : List UInt8) : Heard body? i (Connector.reply body? i payload)
  | outage (detail : String) : Heard body? i (.error (.unavailable detail))

/-- A source on the bus: anybody may answer what it is asked, with any payload. -/
structure Source.IsOnBus (σ : Type) [Source σ] : Prop where
  rooms : ∀ n (s : σ), Heard RoomList.ofJson? .rooms (Source.listRooms n s).1.answer
  layout : ∀ n (s : σ), Heard LayoutReply.ofJson? .layout (Source.layout n s).1.answer
  terrain : ∀ n room (s : σ),
    Heard (TerrainReply.ofJson? .inReply) (.terrain room) (Source.terrain n room s).1.answer

variable {α : Type} {body? : Value → Option α} {i : Inquiry} {x : Except SourceError α}

theorem Heard.room?_of_roomNotFound {missing : RoomId} (h : Heard body? i x)
    (absent : x = .error (.roomNotFound missing)) : i.room? = some missing := by
  cases h with
  | reply => exact (decodeReply_eq_roomNotFound_iff.mp absent).1
  | outage => cases absent

theorem Heard.carries {a : α} (h : Heard body? i x) (shown : x = .ok a) :
    ∃ payload, x = Connector.reply body? i payload ∧ Carries body? payload (.ok a) := by
  cases h with
  | reply payload => exact ⟨payload, rfl, decodeReply_eq_ok_iff.mp shown⟩
  | outage => cases shown

namespace Conversation

variable {σ : Type}

/-- A deadline makes an outage of an answer, if anything. -/
theorem ask_cases (c : Conversation σ) (operation : String)
    (request : σ → Timed (Except SourceError α) × σ) :
    (c.ask operation request).1 = (request c.source).1.answer ∨
      ∃ detail, (c.ask operation request).1 = .error (.unavailable detail) := by
  show Bounded.ofRequest operation c.timeout ((request c.source).1.bounded c.timeout).2 = _ ∨
    ∃ detail, Bounded.ofRequest operation c.timeout ((request c.source).1.bounded c.timeout).2 = _
  unfold Timed.bounded Timed.within
  split
  · split
    · exact .inl rfl
    · exact .inr ⟨_, rfl⟩
  · exact .inr ⟨_, rfl⟩

/-- No answer that was heard puts a room in another's place. -/
theorem room?_of_ask {c : Conversation σ} {operation : String}
    {request : σ → Timed (Except SourceError α) × σ} {missing : RoomId}
    (heard : Heard body? i (request c.source).1.answer)
    (absent : (c.ask operation request).1 = .error (.roomNotFound missing)) :
    i.room? = some missing := by
  rcases c.ask_cases operation request with answered | ⟨detail, late⟩
  · exact heard.room?_of_roomNotFound (answered.symm.trans absent)
  · cases late.symm.trans absent

variable [Source σ]

theorem bootstrap_ne_roomNotFound (bus : Source.IsOnBus σ) (c : Conversation σ) (missing : RoomId) :
    c.bootstrap.1 ≠ .error (.roomNotFound missing) := by
  intro h
  rw [bootstrap_eq] at h
  refine Bootstrap.not_answers_roomNotFound (fun failed => ?_) (fun failed => ?_)
    (Bootstrap.answers_iff.mpr h)
  · cases room?_of_ask (bus.rooms _ _) failed
  · cases room?_of_ask (bus.layout _ _) failed

/-- The terrain of a room is shown from a reply about this room only, and no other room is said to
be missing. -/
theorem terrain_cases (bus : Source.IsOnBus σ) (c : Conversation σ) (room : RoomId) :
    (∀ tiles, (c.terrain room).1 = .ok tiles → ∃ payload,
      (Source.terrain c.connection room c.source).1.answer =
        Connector.reply (TerrainReply.ofJson? .inReply) (.terrain room) payload ∧
      Carries (TerrainReply.ofJson? .inReply) payload (.ok ⟨room.axial, tiles⟩)) ∧
    ∀ missing, (c.terrain room).1 = .error (.roomNotFound missing) → missing = room := by
  have heard := bus.terrain c.connection room c.source
  have result : (c.terrain room).1 = TerrainSlot.resultFor c.timeout room
      (.answered (c.ask "GetRoomTerrain" (Source.terrain c.connection room)).1) := rfl
  rw [result]
  refine ⟨fun tiles shown => ?_, fun missing absent => ?_⟩
  · rw [TerrainSlot.resultFor_eq_ok_iff] at shown
    rcases c.ask_cases "GetRoomTerrain" (Source.terrain c.connection room) with
      answered | ⟨detail, late⟩
    · exact heard.carries (answered.symm.trans shown)
    · cases late.symm.trans shown
  · rw [TerrainSlot.resultFor_eq_roomNotFound_iff] at absent
    exact (Option.some.inj (room?_of_ask heard absent)).symm

end Conversation

theorem Broker.heard_ask (b : Broker) (n : Nat) : Heard body? i (b.ask body? i n).1.answer := by
  unfold ask
  cases b.state n with
  | cut | broken => exact .outage _
  | up =>
      dsimp only
      rcases (b.nextReply (i.subject b.connector.subjects)).1 with bytes | - | - | -
      · exact .reply bytes
      · exact .outage _
      · exact .outage _
      · exact .outage _

theorem Broker.isOnBus : Source.IsOnBus Broker where
  rooms n b := b.heard_ask n
  layout n b := b.heard_ask n
  terrain n _ b := b.heard_ask n

end Rehearsal

/-! ## The machine -/

namespace Supervisor

variable {β τ : Type} {settings : SyncSettings} {subscription : Subscription β τ}
  {s : Supervisor β τ}

/-- Supervision ends at once by this failure. -/
def EndsBy (e : SourceError) (r : Supervisor β τ × List Effect) : Prop :=
  r.1.position = .ended (.finished (.error (.nonRetryable e)))

/-- Supervision ends at once by these failures and by no others, and as long as a retry is left it
ends in no other way. -/
structure EndsOnlyBy (policy : Backoff) (final : SourceError → Prop) (s : Supervisor β τ)
    (r : Supervisor β τ × List Effect) : Prop where
  endsBy_iff : ∀ e, EndsBy e r ↔ final e
  endsBy_of_ended : policy.allowsRetry (Saturating.next32 s.failures) = true →
    ∀ ending, r.1.position = .ended ending → ∃ e, EndsBy e r

/-- What comes of an answer: the session goes on, or it fails, by the answer itself or by what the
checks find in it, which may pass. -/
inductive Meets {α : Type} (policy : Backoff) (s : Supervisor β τ) :
    Except SourceError α → Supervisor β τ × List Effect → Prop where
  | goesOn {a r} (going : ¬r.1.position.IsHalted) : Meets policy s (.ok a) r
  | refuted {a e} (retryable : e.isRetryable = true) : Meets policy s (.ok a) (s.fail policy e)
  | failed {e} : Meets policy s (.error e) (s.fail policy e)

theorem endsBy_fail_iff {policy : Backoff} {e failure : SourceError} :
    EndsBy e (s.fail policy failure) ↔ failure = e ∧ failure.isRetryable = false := by
  unfold EndsBy
  rcases fail_cases policy failure s with
    ⟨final, h⟩ | ⟨retryable, -, h⟩ | ⟨retryable, -, h⟩
  · simp [h, finish, enter, final]
  · simp [h, backOff, retryable]
  · simp [h, finish, enter, retryable]

theorem endsBy_of_ended_fail {policy : Backoff} {failure : SourceError} {ending : Ending}
    (allowed : policy.allowsRetry (Saturating.next32 s.failures) = true)
    (ended : (s.fail policy failure).1.position = .ended ending) :
    ∃ e, EndsBy e (s.fail policy failure) := by
  rcases fail_cases policy failure s with
    ⟨final, -⟩ | ⟨-, -, h⟩ | ⟨-, forbidden, -⟩
  · exact ⟨failure, endsBy_fail_iff.mpr ⟨rfl, final⟩⟩
  · rw [h] at ended
    cases ended
  · exact absurd allowed (ne_true_of_eq_false forbidden)

theorem Meets.endsOnlyBy {α : Type} {policy : Backoff} {result : Except SourceError α}
    {r : Supervisor β τ × List Effect} (h : Meets policy s result r) :
    EndsOnlyBy policy (fun e => result = .error e ∧ e.isRetryable = false) s r := by
  cases h with
  | goesOn going =>
      refine ⟨fun e => iff_of_false (fun ended => going ?_) nofun, fun _ ending ended =>
        absurd ?_ going⟩
      · rw [show r.1.position = _ from ended]
        trivial
      · rw [ended]
        trivial
  | refuted retryable =>
      refine ⟨fun e => ?_, fun allowed ending => endsBy_of_ended_fail allowed⟩
      rw [endsBy_fail_iff, retryable]
      exact iff_of_false nofun nofun
  | failed =>
      refine ⟨fun e => ?_, fun allowed ending => endsBy_of_ended_fail allowed⟩
      rw [endsBy_fail_iff, Except.error.injEq]
      exact and_congr_right fun same => by rw [same]

/-- What the checks of two replies find is never final. -/
theorem isRetryable_of_refuses {list : RoomList} {reply : LayoutReply} {e : SourceError}
    (h : Bootstrap.Refuses list reply e) : e.isRetryable = true := by
  cases h <;> rfl

theorem meets_listed (position : s.position = .listing) (result : Except SourceError RoomList) :
    Meets settings.policy s result
      (s.poll settings subscription false (some (.listed (.answered result)))) := by
  cases result with
  | ok list =>
      refine .goesOn ?_
      simp [poll, take, position, Bounded.ofRequest, moveTo, Position.IsHalted]
  | error e =>
      have breaks : Breaks settings.requestTimeout .listing (.listed (.answered (.error e))) e :=
        .unlisted rfl
      rw [poll_of_breaks (position ▸ breaks)]
      exact .failed

theorem meets_placed {list : RoomList} (position : s.position = .placing list)
    (result : Except SourceError LayoutReply) :
    Meets settings.policy s result
      (s.poll settings subscription false (some (.placed (.answered result)))) := by
  cases result with
  | ok reply =>
      cases checked : Bootstrap.ofReplies list reply with
      | ok b =>
          refine .goesOn ?_
          simp [poll, take, position, Bounded.ofRequest, checked, publishFirst, Position.IsHalted]
      | error e =>
          have breaks : Breaks settings.requestTimeout (.placing list)
              (.placed (.answered (.ok reply))) e := .malformed rfl checked
          rw [poll_of_breaks (position ▸ breaks)]
          exact .refuted (isRetryable_of_refuses (Bootstrap.ofReplies_eq_error_iff.mp checked))
  | error e =>
      have breaks : Breaks settings.requestTimeout (.placing list)
          (.placed (.answered (.error e))) e := .unplaced rfl
      rw [poll_of_breaks (position ▸ breaks)]
      exact .failed

/-- Of the payloads that may answer a request, those that carry a denial end supervision at once. -/
theorem Meets.endsOnlyBy_denial {α : Type} {body? : Value → Option α} {i : Inquiry}
    {payload : List UInt8} {r : Supervisor β τ × List Effect}
    (h : Meets settings.policy s (Connector.reply body? i payload) r) :
    EndsOnlyBy settings.policy (IsDenial body? i.operation payload) s r where
  endsBy_iff e := (h.endsOnlyBy.endsBy_iff e).trans decodeReply_final_iff
  endsBy_of_ended := h.endsOnlyBy.endsBy_of_ended

end Supervisor

/-! ## Replies -/

/-- **What a payload means, and what it can bring about.** A payload is a body exactly if it carries
an envelope with one; a missing room exactly if it carries a refusal of that kind and the request
named a room, which is then the one that is missing; a denial or an outage exactly if the code of
its refusal says so; and a breach of the protocol in all other cases. So the terrain of a room is
shown from a reply about this room only, and no other room is said to be missing, to a caller of the
slot as well as in a conversation with any source on the bus; a description of the world never fails
for want of a room; and of all replies only a denial ends supervision at once. -/
theorem Connector.replies_are_told_apart {α β τ σ : Type} [Source σ] (settings : SyncSettings)
    (subscription : Subscription β τ) (timeout : Duration) :
    (∀ (body? : Value → Option α) operation room payload,
      (∀ a, decodeReply body? operation room payload = .ok a ↔ Carries body? payload (.ok a)) ∧
      (∀ missing, decodeReply body? operation room payload = .error (.roomNotFound missing) ↔
        room = some missing ∧ ∃ message, Carries body? payload (.error .notFound message)) ∧
      (∀ detail, decodeReply body? operation room payload = .error (.permissionDenied detail) ↔
        ∃ message, Carries body? payload (.error .permissionDenied message) ∧
          detail = s!"{operation}: {message}") ∧
      (∀ detail, decodeReply body? operation room payload = .error (.unavailable detail) ↔
        ∃ code message, Carries body? payload (.error code message) ∧
          (code = .unavailable ∨ code = .internal) ∧
          detail = s!"{operation} failed ({code.title}): {message}") ∧
      ((∃ detail, decodeReply body? operation room payload = .error (.protocol detail)) ↔
        ∀ r, Carries body? payload r →
          ∃ message, r = .error .invalidArgument message ∨
            r = .error .notFound message ∧ room = none) ∧
      ∀ e, (∃ detail, e = .config detail) ∨ e = .streamEnded →
        decodeReply body? operation room payload ≠ .error e) ∧
    (∀ (s : TerrainSlot) n room connection payload,
      s.calls[n]? = some ⟨room, .asking connection⟩ →
      let told := (s.answered timeout n
        (.answered (reply (TerrainReply.ofJson? .inReply) (.terrain room) payload))).told? n
      (∀ tiles, told = some (.ok tiles) ↔
        Carries (TerrainReply.ofJson? .inReply) payload (.ok ⟨room.axial, tiles⟩)) ∧
      ∀ missing, told = some (.error (.roomNotFound missing)) ↔
        missing = room ∧ ∃ message,
          Carries (TerrainReply.ofJson? .inReply) payload (.error .notFound message)) ∧
    (Source.IsOnBus σ → ∀ c : Conversation σ,
      (∀ room tiles, (c.terrain room).1 = .ok tiles → ∃ payload,
        (Source.terrain c.connection room c.source).1.answer =
          reply (TerrainReply.ofJson? .inReply) (.terrain room) payload ∧
        Carries (TerrainReply.ofJson? .inReply) payload (.ok ⟨room.axial, tiles⟩)) ∧
      (∀ room missing, (c.terrain room).1 = .error (.roomNotFound missing) → missing = room) ∧
      ∀ missing, c.bootstrap.1 ≠ .error (.roomNotFound missing)) ∧
    (∀ listing placing missing, ¬Bootstrap.Answers (reply RoomList.ofJson? .rooms listing)
      (reply LayoutReply.ofJson? .layout placing) (.error (.roomNotFound missing))) ∧
    ∀ (s : Supervisor β τ) payload,
      (s.position = .listing →
        s.EndsOnlyBy settings.policy (IsDenial RoomList.ofJson? "ListRooms" payload)
          (s.poll settings subscription false
            (some (.listed (.answered (reply RoomList.ofJson? .rooms payload)))))) ∧
      ∀ list, s.position = .placing list →
        s.EndsOnlyBy settings.policy (IsDenial LayoutReply.ofJson? "GetRoomLayout" payload)
          (s.poll settings subscription false
            (some (.placed (.answered (reply LayoutReply.ofJson? .layout payload))))) := by
  refine ⟨fun body? operation room payload => ⟨fun a => decodeReply_eq_ok_iff,
    fun missing => decodeReply_eq_roomNotFound_iff,
    fun detail => decodeReply_eq_permissionDenied_iff,
    fun detail => decodeReply_eq_unavailable_iff, decodeReply_eq_protocol_iff,
    fun e => decodeReply_ne⟩, ?_, fun bus c => ⟨fun room => (c.terrain_cases bus room).1,
    fun room => (c.terrain_cases bus room).2, c.bootstrap_ne_roomNotFound bus⟩, ?_, fun s payload =>
      ⟨fun position => (Supervisor.meets_listed position _).endsOnlyBy_denial (i := .rooms),
        fun list position => (Supervisor.meets_placed position _).endsOnlyBy_denial (i := .layout)⟩⟩
  · intro s n room connection payload asks told
    refine ⟨fun tiles => ?_, fun missing => ?_⟩
    · exact (TerrainSlot.told?_answered_eq_ok_iff asks).trans decodeReply_eq_ok_iff
    · refine (TerrainSlot.told?_answered_eq_roomNotFound_iff asks).trans
        (decodeReply_eq_roomNotFound_iff.trans (and_congr_left' ?_))
      exact Option.some.injEq room missing ▸ eq_comm
  · intro listing placing missing
    exact Bootstrap.not_answers_roomNotFound
      (fun failed => nomatch (decodeReply_eq_roomNotFound_iff.mp failed).1)
      (fun failed => nomatch (decodeReply_eq_roomNotFound_iff.mp failed).1)

/-- A reply about the room that was asked for, to a call and in a conversation; and a denial, which
ends supervision whichever request it answers. -/
theorem Connector.replies_are_told_apart_denied :
    let room : RoomId := ⟨⟨0, 1⟩⟩
    let about : Reply TerrainReply := .ok ⟨room.axial, []⟩
    let denial : Reply RoomList := .error .permissionDenied "go away"
    let slot : TerrainSlot := ⟨[⟨room, .asking 0⟩], some 0, 1, none, []⟩
    let bus : Broker := {
      connector := ⟨"nats://localhost", ⟨"rooms", "layout", "terrain", "entities"⟩, .ofMillis 5000⟩
      port := 4222, barred := none, asked := [], links := #[.admitted .requests]
      replies := [("terrain", [.payload (payload (about.toJson TerrainReply.toJson))])] }
    let c : Conversation Broker := ⟨bus, 0, 0, .ofMillis 5000⟩
    let listing := ((Supervisor.start [] () : Supervisor Unit Unit).moveTo .listing).1
    let placing := ((Supervisor.start [] () : Supervisor Unit Unit).moveTo (.placing ⟨[]⟩)).1
    let poll := fun (s : Supervisor Unit Unit) e =>
      s.poll Supervisor.plainSettings Supervisor.noSubscription false (some e)
    slot.calls[0]? = some ⟨room, .asking 0⟩ ∧
    (slot.answered Supervisor.plainSettings.requestTimeout 0 (.answered
      (reply (TerrainReply.ofJson? .inReply) (.terrain room)
        (payload (about.toJson TerrainReply.toJson))))).told? 0 = some (.ok []) ∧
    (c.terrain room).1 = .ok [] ∧
    (∃ payload, Carries (TerrainReply.ofJson? .inReply) payload (.ok ⟨room.axial, []⟩)) ∧
    c.bootstrap.1 ≠ .error (.roomNotFound room) ∧
    listing.position = .listing ∧
    Supervisor.EndsBy (.permissionDenied "ListRooms: go away") (poll listing
      (.listed (.answered (reply RoomList.ofJson? .rooms
        (payload (denial.toJson RoomList.toJson)))))) ∧
    placing.position = .placing ⟨[]⟩ ∧
    Supervisor.EndsBy (.permissionDenied "GetRoomLayout: go away") (poll placing
      (.placed (.answered (reply LayoutReply.ofJson? .layout
        (payload (denial.toJson RoomList.toJson)))))) ∧
    decodeReply RoomList.ofJson? "ListRooms" none (payload (denial.toJson RoomList.toJson)) ≠
      .error .streamEnded := by
  intro room about denial slot bus c listing placing poll
  have carries_about : Carries (TerrainReply.ofJson? .inReply)
      (payload (about.toJson TerrainReply.toJson)) about :=
    carries_iff.mpr ((Reply.transmits TerrainReply.isWritten_toJson
      (TerrainReply.ofJson?_reread .inReply)).bytes about trivial)
  have carries_denial : Carries RoomList.ofJson? (payload (denial.toJson RoomList.toJson)) denial :=
    carries_iff.mpr ((Reply.transmits RoomList.isWritten_toJson
      RoomList.ofJson?_reread).bytes denial trivial)
  obtain ⟨kinds, shows, converses, -, denies⟩ := replies_are_told_apart (α := RoomList)
    (σ := Broker) Supervisor.plainSettings Supervisor.noSubscription
    Supervisor.plainSettings.requestTimeout
  obtain ⟨tells, -, describes⟩ := converses Broker.isOnBus c
  have answered : (c.terrain room).1 = .ok [] := by
    have heard : (c.ask "GetRoomTerrain" (Source.terrain c.connection room)).1 =
        .ok ⟨room.axial, []⟩ := decodeReply_eq_ok_iff.mpr carries_about
    exact (TerrainSlot.resultFor_eq_ok_iff room c.timeout).mpr heard
  obtain ⟨text, -, carries⟩ := tells room [] answered
  obtain ⟨-, -, -, -, -, never⟩ := kinds RoomList.ofJson? "ListRooms" none
    (payload (denial.toJson RoomList.toJson))
  refine ⟨rfl, ((shows slot 0 room 0 _ rfl).1 []).mpr carries_about, answered, ⟨text, carries⟩,
    describes room, rfl,
    (((denies listing _).1 rfl).endsBy_iff _).mpr ⟨"go away", carries_denial, rfl⟩, rfl,
    (((denies placing _).2 ⟨[]⟩ rfl).endsBy_iff _).mpr ⟨"go away", ?_, rfl⟩,
    never _ (.inr rfl)⟩
  obtain ⟨v, document, meaningful, envelope⟩ := carries_denial
  exact ⟨v, document, meaningful, envelope.of_error⟩

end HexWorld
