import HexWorld.Bus.EntityFeed

/-!
# `Proofs.Bus.EntityFeed` — what a feed tells, read off what has happened

Messages, losses, new connections and the end of a subscription come in any order, and the feed is
read at any time in between. What each reading yields depends on three things in the past: whether
the connection was ever lost, also before the subscription; what has arrived; and what has been told
already. A loss is never made up for: whatever has arrived and not been read by then is not told.

## Contents
- `FeedMove`, `EntityFeed.run`: what can happen to a feed, and what it tells.
- `WasLost`, `received`, `items`, `HasEnded`: what is read off the past.
- `Yields`, `Yields.unique`: what a reading yields, by the past alone.
- `Polled`, `polled`: what a reading does.
- `Reads`, `reads_run`: the feed knows as much of the past as it needs.
- `run_of_hasEnded`, `run_of_isLost`, `run_of_isClosed`: a feed from its end, from a loss and from
  the close of its subscription on.
- `drain_eq`: reading all there is by now.
- `tells_what_arrived`.
-/

namespace HexWorld

/-! ## Runs -/

/-- Whether nobody can vouch any more that no message was missed. -/
def LinkEvent.isLoss : LinkEvent → Bool
  | disconnected | unwatched => true
  | message _ | connected | closed => false

/-- What can happen to a feed. -/
inductive FeedMove where
  | event (e : LinkEvent)
  | poll
  deriving DecidableEq

namespace FeedMove

def isLoss : FeedMove → Bool
  | event e => e.isLoss
  | poll => false

def isPoll : FeedMove → Bool
  | event _ => false
  | poll => true

end FeedMove

namespace EntityFeed

/-- One move, and what is told by it. -/
def move (f : EntityFeed) : FeedMove → EntityFeed × List Yield
  | .event e => (f.take e, [])
  | .poll => (f.poll.2, [f.poll.1])

/-- Where moves lead, and what is told. -/
def run : List FeedMove → EntityFeed → EntityFeed × List Yield
  | [], f => (f, [])
  | m :: rest, f =>
    let (last, later) := run rest (f.move m).1
    (last, (f.move m).2 ++ later)

theorem run_append (moves later : List FeedMove) (f : EntityFeed) :
    run (moves ++ later) f =
      ((run later (run moves f).1).1, (run moves f).2 ++ (run later (run moves f).1).2) := by
  induction moves generalizing f with
  | nil => rfl
  | cons m rest ih =>
      rw [List.cons_append, run, run, ih]
      simp only [List.append_assoc]

/-! ## The past -/

/-- How often the feed is read. -/
def polls (moves : List FeedMove) : Nat :=
  moves.countP FeedMove.isPoll

theorem polls_poll (rest : List FeedMove) : polls (.poll :: rest) = polls rest + 1 :=
  List.countP_cons_of_pos rfl

/-- The connection has been lost, before the subscription or after it. -/
def WasLost (link : List LinkEvent) (past : List FeedMove) : Prop :=
  (∃ e ∈ link, e.isLoss = true) ∨ ∃ m ∈ past, m.isLoss = true

/-- The messages that have arrived. Nothing arrives on a closed subscription. -/
def received : List FeedMove → List (List UInt8)
  | [] => []
  | .event (.message payload) :: rest => payload :: received rest
  | .event .closed :: _ => []
  | .event .disconnected :: rest | .event .connected :: rest | .event .unwatched :: rest
  | .poll :: rest => received rest

theorem received_append (past later : List FeedMove) :
    received (past ++ later) =
      if .event .closed ∈ past then received past else received past ++ received later := by
  induction past with
  | nil => rfl
  | cons m rest ih =>
      cases m with
      | poll => simp [received, ih]
      | event e =>
          cases e with
          | message payload =>
              rw [List.cons_append, received, received, ih]
              by_cases closed : .event .closed ∈ rest <;> simp [closed]
          | closed => simp [received]
          | disconnected | connected | unwatched => simp [received, ih]

/-- The items among what was told. -/
def items (told : List Yield) : List (Except SourceError EntitiesMessage) :=
  told.filterMap fun
    | .item i => some i
    | .nothingYet | .theEnd => none

theorem items_append (told later : List Yield) :
    items (told ++ later) = items told ++ items later :=
  List.filterMap_append

/-- The end has been told, or a loss, after which only the end can follow. -/
def HasEnded (told : List Yield) : Prop :=
  .theEnd ∈ told ∨ .item (.error lossError) ∈ told

theorem hasEnded_concat {told : List Yield} {y : Yield} :
    HasEnded (told ++ [y]) ↔ HasEnded told ∨ y = .theEnd ∨ y = .item (.error lossError) := by
  simp only [HasEnded, List.mem_append, List.mem_singleton, eq_comm (a := y)]
  exact or_or_or_comm

/-- What cannot be decoded is a breach of the protocol. -/
theorem protocol_of_decodeEntities {payload : List UInt8} {e : SourceError}
    (h : decodeEntities payload = .error e) :
    e = .protocol "undecodable entities message" := by
  unfold decodeEntities at h
  split at h
  · cases h
  · exact (Except.error.inj h).symm

/-- No message is taken for a loss. -/
theorem decodeEntities_ne_lossError (payload : List UInt8) :
    decodeEntities payload ≠ .error lossError := by
  intro h
  cases protocol_of_decodeEntities h

/-- What a reading yields, by the past: first the end, if that has been told; then a loss; then the
messages that have arrived, one by one; and then the end of the subscription. -/
inductive Yields (link : List LinkEvent) (past : List FeedMove) (told : List Yield) : Yield → Prop
    where
  | finished (ended : HasEnded told) : Yields link past told .theEnd
  | loss (going : ¬HasEnded told) (lost : WasLost link past) :
      Yields link past told (.item (.error lossError))
  | next {payload} (going : ¬HasEnded told) (kept : ¬WasLost link past)
      (first : (received past)[(items told).length]? = some payload) :
      Yields link past told (.item (decodeEntities payload))
  | closed (going : ¬HasEnded told) (kept : ¬WasLost link past)
      (all : (items told).length = (received past).length) (closed : .event .closed ∈ past) :
      Yields link past told .theEnd
  | nothing (going : ¬HasEnded told) (kept : ¬WasLost link past)
      (all : (items told).length = (received past).length) (isOpen : .event .closed ∉ past) :
      Yields link past told .nothingYet

/-! ## The feed and its past -/

section Taking

variable (f : EntityFeed) (e : LinkEvent)

theorem isLost_take : (f.take e).isLost = (f.isLost || e.isLoss) := by
  cases e with
  | message payload =>
      rw [LinkEvent.isLoss, Bool.or_false]
      unfold take
      dsimp only
      split <;> rfl
  | disconnected | unwatched => exact (Bool.or_true _).symm
  | connected | closed => exact (Bool.or_false _).symm

theorem isClosed_take : (f.take e).isClosed = (f.isClosed || decide (e = .closed)) := by
  cases e with
  | message payload =>
      unfold take
      dsimp only
      split <;> simp
  | disconnected | unwatched | connected | closed => simp [take]

theorem hasEnded_take : (f.take e).hasEnded = f.hasEnded := by
  cases e with
  | message payload =>
      unfold take
      dsimp only
      split <;> rfl
  | disconnected | unwatched | connected | closed => rfl

theorem pending_take :
    (f.take e).pending = if f.isClosed then f.pending else f.pending ++ received [.event e] := by
  cases e with
  | message payload =>
      unfold take
      dsimp only
      split <;> rfl
  | disconnected | unwatched | connected | closed => simp [take, received]

end Taking

section Polling

variable {f : EntityFeed}

theorem poll_of_hasEnded (ended : f.hasEnded = true) : f.poll = (.theEnd, f) := by
  rw [EntityFeed.poll, if_pos ended]

theorem poll_of_isLost (going : f.hasEnded = false) (lost : f.isLost = true) :
    f.poll = (.item (.error lossError), { f with hasEnded := true }) := by
  rw [EntityFeed.poll, if_neg (ne_true_of_eq_false going), if_pos lost]

theorem poll_of_pending {payload : List UInt8} {rest : List (List UInt8)}
    (going : f.hasEnded = false) (kept : f.isLost = false) (first : f.pending = payload :: rest) :
    f.poll = (.item (decodeEntities payload), { f with pending := rest }) := by
  rw [EntityFeed.poll, if_neg (ne_true_of_eq_false going), if_neg (ne_true_of_eq_false kept), first]

theorem poll_of_isClosed (going : f.hasEnded = false) (kept : f.isLost = false)
    (none : f.pending = []) (closed : f.isClosed = true) :
    f.poll = (.theEnd, { f with hasEnded := true }) := by
  rw [EntityFeed.poll, if_neg (ne_true_of_eq_false going), if_neg (ne_true_of_eq_false kept)]
  split <;> simp_all

theorem poll_of_isOpen (going : f.hasEnded = false) (kept : f.isLost = false)
    (none : f.pending = []) (isOpen : f.isClosed = false) : f.poll = (.nothingYet, f) := by
  rw [EntityFeed.poll, if_neg (ne_true_of_eq_false going), if_neg (ne_true_of_eq_false kept)]
  split <;> simp_all

/-- What a reading tells and leaves. -/
inductive Polled (f : EntityFeed) : Yield × EntityFeed → Prop where
  | finished (ended : f.hasEnded = true) : Polled f (.theEnd, f)
  | loss (going : f.hasEnded = false) (lost : f.isLost = true) :
      Polled f (.item (.error lossError), { f with hasEnded := true })
  | next {payload rest} (going : f.hasEnded = false) (kept : f.isLost = false)
      (first : f.pending = payload :: rest) :
      Polled f (.item (decodeEntities payload), { f with pending := rest })
  | closed (going : f.hasEnded = false) (kept : f.isLost = false) (none : f.pending = [])
      (closed : f.isClosed = true) : Polled f (.theEnd, { f with hasEnded := true })
  | nothing (going : f.hasEnded = false) (kept : f.isLost = false) (none : f.pending = [])
      (isOpen : f.isClosed = false) : Polled f (.nothingYet, f)

theorem polled (f : EntityFeed) : Polled f f.poll := by
  cases ended : f.hasEnded with
  | true => exact poll_of_hasEnded ended ▸ .finished ended
  | false =>
      cases lost : f.isLost with
      | true => exact poll_of_isLost ended lost ▸ .loss ended lost
      | false =>
          cases pending : f.pending with
          | cons payload rest =>
              exact poll_of_pending ended lost pending ▸ .next ended lost pending
          | nil =>
              cases closed : f.isClosed with
              | true =>
                  exact poll_of_isClosed ended lost pending closed ▸
                    .closed ended lost pending closed
              | false =>
                  exact poll_of_isOpen ended lost pending closed ▸
                    .nothing ended lost pending closed

end Polling

/-- The feed after this past, with what it has told: the messages that were read, in order, and
then perhaps a loss. -/
structure Reads (link : List LinkEvent) (past : List FeedMove) (told : List Yield)
    (f : EntityFeed) : Prop where
  lost : f.isLost = true ↔ WasLost link past
  closed : f.isClosed = true ↔ .event .closed ∈ past
  ended : f.hasEnded = true ↔ HasEnded told
  order : ∃ read tail, received past = read ++ f.pending ∧
    items told = read.map decodeEntities ++ tail ∧
    (tail = [] ∨ tail = [.error lossError] ∧ WasLost link past ∧ HasEnded told)

namespace Reads

variable {link : List LinkEvent} {past : List FeedMove} {told : List Yield} {f : EntityFeed}

theorem start (link : List LinkEvent) : Reads link [] [] (ofLink (link.any LinkEvent.isLoss)) where
  lost := by simp [ofLink, WasLost]
  closed := by simp [ofLink]
  ended := by simp [ofLink, HasEnded]
  order := ⟨[], [], rfl, rfl, .inl rfl⟩

theorem wasLost_concat {m : FeedMove} :
    WasLost link (past ++ [m]) ↔ WasLost link past ∨ m.isLoss = true := by
  simp only [WasLost, List.mem_append, List.mem_singleton, or_and_right, exists_or, or_assoc,
    exists_eq_left]

/-- Before its end a feed has told what it has read, and nothing else. -/
theorem order_of_going (h : Reads link past told f) (going : ¬HasEnded told) :
    ∃ read, received past = read ++ f.pending ∧ items told = read.map decodeEntities := by
  obtain ⟨read, tail, arrived, told_items, rfl | ⟨-, -, ended⟩⟩ := h.order
  · exact ⟨read, arrived, by rw [told_items, List.append_nil]⟩
  · exact absurd ended going

theorem pending_eq (h : Reads link past told f) (going : ¬HasEnded told) :
    f.pending = (received past).drop (items told).length := by
  obtain ⟨read, arrived, told_items⟩ := h.order_of_going going
  rw [arrived, told_items, List.length_map, List.drop_left]

theorem event (h : Reads link past told f) (e : LinkEvent) :
    Reads link (past ++ [.event e]) told (f.take e) := by
  refine ⟨?_, ?_, ?_, ?_⟩
  · rw [isLost_take, Bool.or_eq_true, h.lost, wasLost_concat]
    rfl
  · rw [isClosed_take, Bool.or_eq_true, h.closed, decide_eq_true_eq, List.mem_append,
      List.mem_singleton, FeedMove.event.injEq, eq_comm (a := e)]
  · rw [hasEnded_take, h.ended]
  · obtain ⟨read, tail, arrived, told_items, ending⟩ := h.order
    refine ⟨read, tail, ?_, told_items, ending.imp_right fun ⟨loss, lost, ended⟩ =>
      ⟨loss, wasLost_concat.mpr (.inl lost), ended⟩⟩
    rw [received_append, pending_take]
    simp only [← h.closed]
    split <;> simp [arrived]

/-- One more reading, which takes what it tells from what is pending. -/
theorem tell {f' : EntityFeed} {y : Yield} (h : Reads link past told f)
    (lost : f'.isLost = f.isLost) (closed : f'.isClosed = f.isClosed)
    (ended : f'.hasEnded = true ↔ HasEnded (told ++ [y]))
    (order : ∃ read tail, received past = read ++ f'.pending ∧
      items (told ++ [y]) = read.map decodeEntities ++ tail ∧
      (tail = [] ∨ tail = [.error lossError] ∧ WasLost link past ∧ HasEnded (told ++ [y]))) :
    Reads link (past ++ [.poll]) (told ++ [y]) f' := by
  have unlost : WasLost link (past ++ [.poll]) ↔ WasLost link past := by
    rw [wasLost_concat]
    exact or_iff_left Bool.false_ne_true
  have arrivals : received (past ++ [.poll]) = received past := by
    rw [received_append]
    simp [received]
  refine ⟨?_, ?_, ended, ?_⟩
  · rw [unlost, lost, h.lost]
  · rw [closed, h.closed]
    simp
  · rwa [unlost, arrivals]

theorem not_hasEnded (h : Reads link past told f) (going : f.hasEnded = false) :
    ¬HasEnded told :=
  mt h.ended.mpr (ne_true_of_eq_false going)

theorem not_wasLost (h : Reads link past told f) (kept : f.isLost = false) : ¬WasLost link past :=
  mt h.lost.mpr (ne_true_of_eq_false kept)

/-- If nothing is pending, there is an item for every message. -/
theorem read_all (h : Reads link past told f) (going : f.hasEnded = false)
    (none : f.pending = []) : (items told).length = (received past).length := by
  obtain ⟨read, arrived, told_items⟩ := h.order_of_going (h.not_hasEnded going)
  rw [told_items, List.length_map, arrived, none, List.append_nil]

/-- What a reading yields is told by the past. -/
theorem poll (h : Reads link past told f) :
    Yields link past told f.poll.1 ∧
      Reads link (past ++ [.poll]) (told ++ [f.poll.1]) f.poll.2 := by
  have polled := f.polled
  generalize f.poll = r at polled ⊢
  cases polled with
  | finished ended =>
      have finished : HasEnded told := h.ended.mp ended
      have finished' : HasEnded (told ++ [.theEnd]) := hasEnded_concat.mpr (.inl finished)
      obtain ⟨read, tail, arrived, told_items, ending⟩ := h.order
      refine ⟨.finished finished,
        h.tell rfl rfl (iff_of_true ended finished') ⟨read, tail, arrived, ?_,
          ending.imp_right fun ⟨loss, was, _⟩ => ⟨loss, was, finished'⟩⟩⟩
      rw [items_append, told_items]
      exact List.append_nil _
  | loss going lost =>
      have was : WasLost link past := h.lost.mp lost
      have finished : HasEnded (told ++ [.item (.error lossError)]) :=
        hasEnded_concat.mpr (.inr (.inr rfl))
      -- Whatever is pending stays pending for good.
      obtain ⟨read, arrived, told_items⟩ := h.order_of_going (h.not_hasEnded going)
      refine ⟨.loss (h.not_hasEnded going) was, h.tell rfl rfl (iff_of_true rfl finished)
        ⟨read, [.error lossError], arrived, ?_, .inr ⟨rfl, was, finished⟩⟩⟩
      rw [items_append, told_items]
      rfl
  | @next payload rest going kept first =>
      obtain ⟨read, arrived, told_items⟩ := h.order_of_going (h.not_hasEnded going)
      rw [first] at arrived
      -- There is an item for every message read, so the next message is the first without one.
      have next : (received past)[(items told).length]? = some payload := by
        rw [arrived, told_items, List.length_map, List.getElem?_append_right (Nat.le_refl _),
          Nat.sub_self]
        rfl
      have goesOn : ¬HasEnded (told ++ [.item (decodeEntities payload)]) := by
        rw [hasEnded_concat]
        rintro (finished | finished | finished)
        · exact h.not_hasEnded going finished
        · cases finished
        · exact decodeEntities_ne_lossError payload (Yield.item.inj finished)
      refine ⟨.next (h.not_hasEnded going) (h.not_wasLost kept) next,
        h.tell rfl rfl (iff_of_false (ne_true_of_eq_false going) goesOn)
          ⟨read ++ [payload], [], ?_, ?_, .inl rfl⟩⟩
      · rw [arrived, List.append_assoc]
        rfl
      · rw [items_append, told_items, List.map_append, List.append_nil]
        rfl
  | closed going kept none closed =>
      obtain ⟨read, arrived, told_items⟩ := h.order_of_going (h.not_hasEnded going)
      have finished : HasEnded (told ++ [.theEnd]) := hasEnded_concat.mpr (.inr (.inl rfl))
      refine ⟨.closed (h.not_hasEnded going) (h.not_wasLost kept) (h.read_all going none)
          (h.closed.mp closed),
        h.tell rfl rfl (iff_of_true rfl finished) ⟨read, [], arrived, ?_, .inl rfl⟩⟩
      rw [items_append, told_items]
      rfl
  | nothing going kept none isOpen =>
      obtain ⟨read, arrived, told_items⟩ := h.order_of_going (h.not_hasEnded going)
      have goesOn : ¬HasEnded (told ++ [.nothingYet]) := by
        rw [hasEnded_concat]
        rintro (finished | finished | finished)
        · exact h.not_hasEnded going finished
        · cases finished
        · cases finished
      refine ⟨.nothing (h.not_hasEnded going) (h.not_wasLost kept) (h.read_all going none)
          (mt h.closed.mpr (ne_true_of_eq_false isOpen)),
        h.tell rfl rfl (iff_of_false (ne_true_of_eq_false going) goesOn)
          ⟨read, [], arrived, ?_, .inl rfl⟩⟩
      rw [items_append, told_items]
      rfl

end Reads

/-- What a feed knows of its past is kept by every move. -/
theorem reads_run {link : List LinkEvent} {past : List FeedMove} {told : List Yield}
    {f : EntityFeed} (h : Reads link past told f) (moves : List FeedMove) :
    Reads link (past ++ moves) (told ++ (run moves f).2) (run moves f).1 := by
  induction moves generalizing past told f with
  | nil => simpa [run] using h
  | cons m rest ih =>
      cases m with
      | event e =>
          have later := ih (h.event e)
          rwa [List.append_assoc] at later
      | poll =>
          have later := ih h.poll.2
          rwa [List.append_assoc, List.append_assoc] at later

/-! ## From here on -/

theorem run_poll (rest : List FeedMove) (f : EntityFeed) :
    (run (.poll :: rest) f).2 = f.poll.1 :: (run rest f.poll.2).2 :=
  rfl

theorem run_of_hasEnded {f : EntityFeed} (ended : f.hasEnded = true) (moves : List FeedMove) :
    (run moves f).2 = List.replicate (polls moves) .theEnd := by
  induction moves generalizing f with
  | nil => rfl
  | cons m rest ih =>
      cases m with
      | event e => exact ih ((hasEnded_take f e).trans ended)
      | poll =>
          rw [run_poll, poll_of_hasEnded ended, ih ended, polls_poll, List.replicate_succ]

/-- A loss that has not been told is told first, and then only the end, whatever is pending and
whatever happens. -/
theorem run_of_isLost {f : EntityFeed} (going : f.hasEnded = false) (lost : f.isLost = true)
    (moves : List FeedMove) :
    (run moves f).2 =
      (.item (.error lossError) :: List.replicate (polls moves) .theEnd).take (polls moves) := by
  induction moves generalizing f with
  | nil => rfl
  | cons m rest ih =>
      cases m with
      | event e =>
          have still : (f.take e).isLost = true := by rw [isLost_take, lost, Bool.true_or]
          exact ih ((hasEnded_take f e).trans going) still
      | poll =>
          rw [run_poll, poll_of_isLost going lost, run_of_hasEnded rfl, polls_poll,
            List.take_succ_cons, List.take_replicate, Nat.min_eq_left (Nat.le_succ _)]

/-- On a closed subscription whose connection is never lost, what is pending is told and then the
end. -/
theorem run_of_isClosed {f : EntityFeed} (going : f.hasEnded = false) (kept : f.isLost = false)
    (closed : f.isClosed = true) {moves : List FeedMove}
    (keeps : ∀ m ∈ moves, m.isLoss = false) :
    (run moves f).2 = (f.pending.map (Yield.item ∘ decodeEntities) ++
      List.replicate (polls moves) Yield.theEnd).take (polls moves) := by
  induction moves generalizing f with
  | nil => rfl
  | cons m rest ih =>
      obtain ⟨keeps_m, keeps_rest⟩ := List.forall_mem_cons.mp keeps
      cases m with
      | event e =>
          have still : (f.take e).isLost = false := by
            rw [isLost_take, kept]
            exact keeps_m
          have shut : (f.take e).isClosed = true := by rw [isClosed_take, closed, Bool.true_or]
          have pending : (f.take e).pending = f.pending := by rw [pending_take, if_pos closed]
          have later := ih ((hasEnded_take f e).trans going) still shut keeps_rest
          rwa [pending] at later
      | poll =>
          rw [run_poll, polls_poll]
          cases pending : f.pending with
          | nil =>
              rw [poll_of_isClosed going kept pending closed, run_of_hasEnded rfl, List.map_nil,
                List.nil_append, List.take_replicate, Nat.min_self, List.replicate_succ]
          | cons payload others =>
              have enough : polls rest ≤ (others.map (Yield.item ∘ decodeEntities) ++
                  List.replicate (polls rest) Yield.theEnd).length := by simp
              rw [poll_of_pending going kept pending,
                ih (f := { f with pending := others }) going kept closed keeps_rest, List.map_cons,
                List.cons_append, List.take_succ_cons, List.replicate_succ', ← List.append_assoc,
                List.take_append_of_le_length enough]
              rfl

/-! ## Reading all there is -/

/-- How many more items a feed can tell if nothing happens to it. -/
def ahead (f : EntityFeed) : Nat :=
  if f.hasEnded then 0 else f.pending.length + 1

theorem ahead_poll {f : EntityFeed} {i} (h : f.poll.1 = .item i) : f.poll.2.ahead < f.ahead := by
  have polled := f.polled
  generalize f.poll = r at polled h ⊢
  cases polled with
  | finished | closed | nothing => cases h
  | loss going => simp [ahead, going]
  | next going _ first => simp [ahead, going, first]

theorem run_eq_go {n : Nat} {f : EntityFeed} (enough : f.ahead < n) :
    ∃ y, run (List.replicate ((drain.go n f).1.length + 1) .poll) f =
        ((drain.go n f).2, (drain.go n f).1.map .item ++ [y]) ∧
      (y = .nothingYet ∨ y = .theEnd) := by
  induction n generalizing f with
  | zero => exact absurd enough (Nat.not_lt_zero _)
  | succ n ih =>
      rw [drain.go]
      cases told : f.poll with
      | mk y f' =>
          cases y with
          | item i =>
              have less : f'.ahead < f.ahead := by
                have less := ahead_poll (f := f) (i := i) (by rw [told])
                rwa [told] at less
              obtain ⟨y, later, last⟩ := ih (Nat.lt_of_lt_of_le less (Nat.le_of_lt_succ enough))
              refine ⟨y, ?_, last⟩
              simp only [List.length_cons]
              rw [List.replicate_succ, run]
              simp only [move, told, later]
              rfl
          | nothingYet => exact ⟨.nothingYet, by simp [run, move, told], .inl rfl⟩
          | theEnd => exact ⟨.theEnd, by simp [run, move, told], .inr rfl⟩

/-- Reading until there is nothing more by now is reading once more than there are items. -/
theorem drain_eq (f : EntityFeed) :
    ∃ y, run (List.replicate (f.drain.1.length + 1) .poll) f =
        (f.drain.2, f.drain.1.map .item ++ [y]) ∧
      (y = .nothingYet ∨ y = .theEnd) := by
  refine run_eq_go ?_
  unfold ahead
  split <;> omega

/-! ## What a feed tells -/

/-- The past leaves a reading no choice. -/
theorem Yields.unique {link : List LinkEvent} {past : List FeedMove} {told : List Yield}
    {y y' : Yield} (h : Yields link past told y) (h' : Yields link past told y') : y = y' := by
  have read_all : ∀ {payload}, (received past)[(items told).length]? = some payload →
      (items told).length ≠ (received past).length := fun first =>
    Nat.ne_of_lt (List.getElem?_eq_some_iff.mp first).1
  cases h with
  | finished _ | loss _ _ => cases h' <;> first | rfl | contradiction
  | next _ _ first =>
      cases h' with
      | finished _ | loss _ _ => contradiction
      | next _ _ first' => rw [Option.some.inj (first.symm.trans first')]
      | closed _ _ all _ | nothing _ _ all _ => exact absurd all (read_all first)
  | closed _ _ all _ | nothing _ _ all _ =>
      cases h' with
      | finished _ | loss _ _ => contradiction
      | next _ _ first => exact absurd all (read_all first)
      | closed _ _ _ _ | nothing _ _ _ _ => first | rfl | contradiction

/-- A loss is told of lost connections only. -/
theorem Reads.lossError_notMem {link : List LinkEvent} {past : List FeedMove} {told : List Yield}
    {f : EntityFeed} (h : Reads link past told f) (kept : ¬WasLost link past) :
    .item (.error lossError) ∉ told := by
  intro loss
  obtain ⟨read, tail, -, told_items, rfl | ⟨-, lost, -⟩⟩ := h.order
  · have loss : Except.error lossError ∈ items told := List.mem_filterMap.mpr ⟨_, loss, rfl⟩
    rw [told_items, List.append_nil] at loss
    obtain ⟨payload, -, loss⟩ := List.mem_map.mp loss
    exact decodeEntities_ne_lossError payload loss
  · exact kept lost

/-- Whatever has happened to a feed and its connection, a reading yields what `Yields` says; and the
feed has told what arrived, from the first message on, and then perhaps a loss. From a loss on that
comes before the end, it tells the loss and then its end, whatever is pending and whatever happens;
from its end on only the end; and from the close of a subscription on that is never lost, what is
still pending and then the end. A message that cannot be decoded is told as a failure, and the feed
goes on. -/
theorem tells_what_arrived (link : List LinkEvent) (past rest : List FeedMove) :
    let feed := ofLink (link.any LinkEvent.isLoss)
    let told := (run past feed).2
    let later := (run rest (run past feed).1).2
    (run (past ++ rest) feed).2 = told ++ later ∧
      Yields link past told (run past feed).1.poll.1 ∧
      (∃ read tail, read <+: received past ∧ items told = read.map decodeEntities ++ tail ∧
        (tail = [] ∨ tail = [.error lossError] ∧ WasLost link past)) ∧
      (WasLost link past → ¬HasEnded told →
        later = (.item (.error lossError) :: List.replicate (polls rest) .theEnd).take
          (polls rest)) ∧
      (HasEnded told → later = List.replicate (polls rest) .theEnd) ∧
      (¬WasLost link (past ++ rest) → .item (.error lossError) ∉ told ++ later ∧
        (.event .closed ∈ past → ¬HasEnded told →
          later = (((received past).drop (items told).length).map (Yield.item ∘ decodeEntities) ++
            List.replicate (polls rest) Yield.theEnd).take (polls rest))) ∧
      ∀ payload e, decodeEntities payload = .error e →
        e = .protocol "undecodable entities message" ∧
          (HasEnded (told ++ [.item (.error e)]) ↔ HasEnded told) := by
  intro feed told later
  have reads : Reads link past told (run past feed).1 := reads_run (.start link) past
  have reads_later : Reads link (past ++ rest) (told ++ later) (run rest (run past feed).1).1 :=
    reads_run reads rest
  have going_of : ¬HasEnded told → (run past feed).1.hasEnded = false := fun going =>
    Bool.eq_false_iff.mpr (mt reads.ended.mp going)
  refine ⟨?_, reads.poll.1, ?_, ?_, ?_, ?_, ?_⟩
  · rw [run_append]
  · obtain ⟨read, tail, arrived, told_items, ending⟩ := reads.order
    exact ⟨read, tail, ⟨_, arrived.symm⟩, told_items,
      ending.imp_right fun ⟨loss, lost, _⟩ => ⟨loss, lost⟩⟩
  · intro lost going
    exact run_of_isLost (going_of going) (reads.lost.mpr lost) rest
  · intro ended
    exact run_of_hasEnded (reads.ended.mpr ended) rest
  · intro kept
    refine ⟨reads_later.lossError_notMem kept, fun closed going => ?_⟩
    have keeps : ∀ m ∈ rest, m.isLoss = false := fun m mem =>
      Bool.eq_false_iff.mpr fun loss => kept (.inr ⟨m, List.mem_append_right past mem, loss⟩)
    have was_kept : ¬WasLost link past := fun lost =>
      kept (lost.imp_right fun ⟨m, mem, loss⟩ => ⟨m, List.mem_append_left rest mem, loss⟩)
    have still : (run past feed).1.isLost = false :=
      Bool.eq_false_iff.mpr (mt reads.lost.mp was_kept)
    rw [← reads.pending_eq going]
    exact run_of_isClosed (going_of going) still (reads.closed.mpr closed) keeps
  · intro payload e undecodable
    refine ⟨protocol_of_decodeEntities undecodable, ?_⟩
    rw [hasEnded_concat]
    refine or_iff_left ?_
    rintro (finished | finished)
    · cases finished
    · exact decodeEntities_ne_lossError payload (undecodable.trans (Yield.item.inj finished))

/-- A message is read; then the connection is lost, which a new connection and another message do
not make up for: the loss is told, and that is all. -/
theorem tells_what_arrived_reconnecting :
    let past : List FeedMove := [.event (.message []), .poll, .event .disconnected,
      .event .connected, .event (.message [])]
    let told := (run past (ofLink false)).2
    let later := (run [.poll, .poll, .poll] (run past (ofLink false)).1).2
    later = [.item (.error lossError), .theEnd, .theEnd] ∧
      told ++ later = [.item (decodeEntities []), .item (.error lossError), .theEnd, .theEnd] := by
  intro past told later
  have lost : WasLost [] past := .inr ⟨.event .disconnected, by decide, rfl⟩
  have told_eq : told = [.item (decodeEntities [])] := rfl
  have going : ¬HasEnded told := by
    rw [told_eq]
    rintro (finished | finished)
    · cases List.mem_singleton.mp finished
    · exact decodeEntities_ne_lossError [] (Yield.item.inj (List.mem_singleton.mp finished)).symm
  have later_eq : later = [.item (.error lossError), .theEnd, .theEnd] :=
    (tells_what_arrived [] past [.poll, .poll, .poll]).2.2.2.1 lost going
  exact ⟨later_eq, by rw [told_eq, later_eq]; rfl⟩

end EntityFeed
end HexWorld
