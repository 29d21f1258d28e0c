import HexWorld.Message.Decode

/-!
# `Proofs.Message.Envelope` — which payloads are replies

The reader of replies takes the status out from among the fields and then reads the fields that are
left. `Reply.Envelope` says which values are replies without an order of work: what an object gives
for each name, or what stands at each place of an array. Other fields are of no account, but every
part of the value has to mean something.

## Contents
- `given`, `Value.Names`: what an object gives for a name, and how a kind is named.
- `Reply.Envelope` and `Reply.ofJson?_eq_some_iff`: the values that are replies.
- `Carries`: the payloads that are; `carries_unique`.
- `decodeReply_of_carries`, `decodeReply_of_not_carries`: what is made of a payload.
-/

namespace HexWorld

open Json

/-! ## Objects -/

namespace Json

/-- The values that an object gives for a name. -/
def given (name : String) (members : List (Literal × Value)) : List Value :=
  (members.filter fun m => m.1.text? = some name.toList).map Prod.snd

/-- The value of a field that is given at most once. -/
def atMostOnce : List Value → Option (Option Value)
  | [] => some none
  | [v] => some (some v)
  | _ => none

theorem atMostOnce_eq_some {values : List Value} {v : Value} (h : atMostOnce values = some (some v)) :
    values = [v] := by
  unfold atMostOnce at h
  split at h
  · cases Option.some.inj h
  · cases h
    rfl
  · cases h

theorem atMostOnce_eq_none {values : List Value} (h : atMostOnce values = some none) :
    values = [] := by
  unfold atMostOnce at h
  split at h
  · rfl
  · cases Option.some.inj h
  · cases h

/-- Every name of the object has a text. -/
def IsNamed (members : List (Literal × Value)) : Prop :=
  ∀ m ∈ members, m.1.text?.isSome = true

theorem isNamed_of_meaningful {depth : Nat} {members : List (Literal × Value)}
    (h : Value.membersMeaningful depth members = true) : IsNamed members := by
  induction members with
  | nil => exact List.forall_mem_nil _
  | cons m rest ih =>
      rw [Value.membersMeaningful, Bool.and_eq_true, Bool.and_eq_true] at h
      exact List.forall_mem_cons.mpr ⟨h.1.1, ih h.2⟩

/-- The members with their texts tell the same of each name. -/
theorem exists_namedMembers? {members : List (Literal × Value)} (named : IsNamed members) :
    ∃ texts, namedMembers? members = some texts ∧
      ∀ name, member? texts name = atMostOnce (given name members) := by
  suffices ∃ texts, namedMembers? members = some texts ∧ ∀ name : String,
      (texts.filter (·.1 = name.toList)).map Prod.snd = given name members by
    obtain ⟨texts, found, same⟩ := this
    refine ⟨texts, found, fun name => ?_⟩
    rw [← same, member?]
    generalize texts.filter (·.1 = name.toList) = found
    rcases found with _ | ⟨m, _ | ⟨m', rest⟩⟩ <;> rfl
  induction members with
  | nil => exact ⟨[], rfl, fun _ => rfl⟩
  | cons m rest ih =>
      obtain ⟨key, v⟩ := m
      obtain ⟨named_m, named_rest⟩ := List.forall_mem_cons.mp named
      obtain ⟨text, text_eq⟩ := Option.isSome_iff_exists.mp named_m
      obtain ⟨texts, found, same⟩ := ih named_rest
      refine ⟨(text, v) :: texts, ?_, fun name => ?_⟩
      · rw [namedMembers?] at found ⊢
        simp only [List.mapM_cons, found, text_eq]
        rfl
      · rw [List.filter_cons, given, List.filter_cons, text_eq]
        by_cases here : text = name.toList
        · simpa [here, given] using same name
        · simpa [here, given] using same name

theorem slots_object {members : List (Literal × Value)} (named : IsNamed members)
    (names : List String) :
    slots names (.object members) = names.mapM fun name => atMostOnce (given name members) := by
  obtain ⟨texts, found, same⟩ := exists_namedMembers? named
  show (namedMembers? members).bind _ = _
  rw [found]
  exact congrArg (names.mapM ·) (funext same)

/-- A kind is named by a text, or by an object with nothing but that name. -/
def Value.Names (v : Value) (name : String) : Prop :=
  ∃ key : Literal, key.text? = some name.toList ∧
    (v = .string key ∨ v = .object [(key, .null)] ∨ v = .object [(key, .object [])])

theorem kindName?_eq_some_iff {v : Value} {name : String} :
    kindName? .inReply v = some name.toList ↔ v.Names name := by
  constructor
  · intro h
    unfold kindName? at h
    split at h
    · exact ⟨_, h, .inl rfl⟩
    · exact ⟨_, h, .inr (.inl rfl)⟩
    · exact ⟨_, h, .inr (.inr rfl)⟩
    · cases h
  · rintro ⟨key, text, rfl | rfl | rfl⟩ <;> exact text

end Json

theorem ErrorCode.ofJson?_eq_some_iff {v : Value} {code : ErrorCode} :
    ofJson? v = some code ↔ v.Names code.name := by
  rw [← kindName?_eq_some_iff]
  show (kindName? .inReply v).bind _ = _ ↔ _
  constructor
  · intro h
    obtain ⟨text, named, found⟩ := Option.bind_eq_some_iff.mp h
    have same : code.name.toList = text := by simpa using List.find?_some found
    rw [named, same]
  · intro h
    rw [h]
    cases code <;> rfl

/-! ## Envelopes -/

namespace Reply

variable {α : Type}

/-- The message of a refusal, which may be missing. -/
inductive IsMessage : List Value → String → Prop where
  | absent : IsMessage [] ""
  | present {v text} (reads : v.string? = some text) : IsMessage [v] text

/-- The reply that a value is. -/
inductive Envelope (body? : Value → Option α) : Value → Reply α → Prop where
  | okObject {members status body a} (statuses : given "status" members = [status])
      (isOk : status.text? = some "ok".toList) (bodies : given "body" members = [body])
      (reads : body? body = some a) : Envelope body? (.object members) (.ok a)
  | okArray {status body a} (isOk : status.text? = some "ok".toList)
      (reads : body? body = some a) : Envelope body? (.array [status, body]) (.ok a)
  | errorObject {members status v code message} (statuses : given "status" members = [status])
      (isError : status.text? = some "error".toList) (codes : given "code" members = [v])
      (names : v.Names code.name) (messages : IsMessage (given "message" members) message) :
      Envelope body? (.object members) (.error code message)
  | errorArray {status v rest code message} (isError : status.text? = some "error".toList)
      (names : v.Names code.name) (messages : IsMessage rest message) :
      Envelope body? (.array (status :: v :: rest)) (.error code message)

/-- A refusal is the same to every request. -/
theorem Envelope.of_error {β : Type} {body? : Value → Option α} {other? : Value → Option β}
    {v : Value} {code : ErrorCode} {message : String} (h : Envelope body? v (.error code message)) :
    Envelope other? v (.error code message) := by
  cases h with
  | errorObject statuses isError codes names messages =>
      exact .errorObject statuses isError codes names messages
  | errorArray isError names messages => exact .errorArray isError names messages

section Object

variable {members : List (Literal × Value)} {body? : Value → Option α} {r : Reply α}

/-- What is left of an object without its status. -/
def others (members : List (Literal × Value)) : List (Literal × Value) :=
  members.filter fun m => m.1.text? ≠ some "status".toList

theorem given_others {name : String} (other : name ≠ "status") :
    given name (others members) = given name members := by
  rw [given, others, List.filter_filter]
  refine congrArg (List.map Prod.snd) (List.filter_congr fun m _ => ?_)
  by_cases here : m.1.text? = some name.toList
  · have away : some name.toList ≠ some "status".toList := fun same =>
      other (String.toList_inj.mp (Option.some.inj same))
    rw [here, decide_eq_true away, Bool.and_true]
  · rw [decide_eq_false here, Bool.false_and]

theorem slots_others (named : IsNamed members) (names : List String) :
    slots names (.object (others members)) =
      names.mapM fun name => atMostOnce (given name (others members)) :=
  slots_object (fun m mem => named m (List.mem_filter.mp mem).1) names

theorem split?_object (named : IsNamed members) : split? (.object members) =
    (atMostOnce (given "status" members)).bind fun status? =>
      (status?.bind Value.text?).map fun status => (status, .object (others members)) := by
  obtain ⟨texts, found, same⟩ := exists_namedMembers? named
  show (namedMembers? members).bind _ = _
  rw [found]
  show (member? texts "status").bind _ = _
  rw [same]
  rcases atMostOnce (given "status" members) with _ | status?
  · rfl
  · show (status?.bind Value.text?).bind _ = Option.map _ (status?.bind Value.text?)
    rcases status?.bind Value.text? with _ | text <;> rfl

/-- The slots of an object that has a status. -/
theorem split?_object_eq_some (named : IsNamed members) {status : List Char} {fields : Value} :
    split? (.object members) = some (status, fields) ↔
      ∃ v, given "status" members = [v] ∧ v.text? = some status ∧
        fields = .object (others members) := by
  rw [split?_object named]
  constructor
  · intro h
    obtain ⟨_ | v, once, h⟩ := Option.bind_eq_some_iff.mp h
    · cases h
    · obtain ⟨text, text_eq, h⟩ := Option.map_eq_some_iff.mp h
      cases h
      exact ⟨v, atMostOnce_eq_some once, text_eq, rfl⟩
  · rintro ⟨v, once, text_eq, rfl⟩
    rw [once]
    show Option.map _ v.text? = _
    rw [text_eq]
    rfl

end Object

/-! ### Slots -/

section Slots

variable {items : List Value} {members : List (Literal × Value)} {slot code message : Option Value}

theorem slots_body_array :
    slots ["body"] (.array items) = some [slot] ↔ atMostOnce items = some slot := by
  rcases items with _ | ⟨v, _ | ⟨v', rest⟩⟩ <;> simp [slots, atMostOnce]

theorem slots_body_others (named : IsNamed members) :
    slots ["body"] (.object (others members)) = some [slot] ↔
      atMostOnce (given "body" members) = some slot := by
  rw [slots_others named, List.mapM_cons, List.mapM_nil, given_others (by decide)]
  rcases atMostOnce (given "body" members) with _ | found <;> simp

theorem slots_refusal_array :
    slots ["code", "message"] (.array items) = some [code, message] ↔
      atMostOnce (items.take 1) = some code ∧ atMostOnce (items.drop 1) = some message := by
  rcases items with _ | ⟨v, _ | ⟨v', _ | ⟨v'', rest⟩⟩⟩ <;> simp [slots, atMostOnce]

theorem slots_refusal_others (named : IsNamed members) :
    slots ["code", "message"] (.object (others members)) = some [code, message] ↔
      atMostOnce (given "code" members) = some code ∧
        atMostOnce (given "message" members) = some message := by
  rw [slots_others named, List.mapM_cons, List.mapM_cons, List.mapM_nil,
    given_others (by decide), given_others (by decide)]
  rcases atMostOnce (given "code" members) with _ | found <;>
    rcases atMostOnce (given "message" members) with _ | found' <;> simp

end Slots

theorem requiredSlot_iff {β : Type} {read : Value → Option β} {values : List Value} {b : β} :
    (∃ slot, atMostOnce values = some slot ∧ required read slot = some b) ↔
      ∃ v, values = [v] ∧ read v = some b := by
  constructor
  · rintro ⟨_ | v, once, reads⟩
    · cases reads
    · exact ⟨v, atMostOnce_eq_some once, reads⟩
  · rintro ⟨v, rfl, reads⟩
    exact ⟨some v, rfl, reads⟩

theorem messageSlot_iff {values : List Value} {message : String} :
    (∃ slot, atMostOnce values = some slot ∧
      Json.optional "" Value.string? slot = some message) ↔ IsMessage values message := by
  constructor
  · rintro ⟨_ | v, once, reads⟩
    · rw [atMostOnce_eq_none once]
      cases reads
      exact .absent
    · rw [atMostOnce_eq_some once]
      exact .present reads
  · rintro (_ | reads)
    · exact ⟨none, rfl, rfl⟩
    · exact ⟨some _, rfl, reads⟩

/-! ### Reading -/

/-- What the reader does once it has the status. -/
def variant? (body? : Value → Option α) (status : List Char) (fields : Value) :
    Option (Reply α) := do
  if status = "ok".toList then
    let [body] ← slots ["body"] fields | none
    return .ok (← required body? body)
  else if status = "error".toList then
    let [code, message] ← slots ["code", "message"] fields | none
    return .error (← required ErrorCode.ofJson? code) (← Json.optional "" Value.string? message)
  else none

section Variants

variable {body? : Value → Option α} {status : List Char} {fields : Value}

theorem variant?_eq_ok_iff {a : α} :
    variant? body? status fields = some (.ok a) ↔ status = "ok".toList ∧
      ∃ slot, slots ["body"] fields = some [slot] ∧ required body? slot = some a := by
  unfold variant?
  by_cases isOk : status = "ok".toList
  · rw [if_pos isOk]
    simp only [isOk, true_and]
    rcases slots ["body"] fields with _ | ⟨_ | ⟨slot, _ | ⟨slot', rest⟩⟩⟩ <;>
      simp [Option.bind_eq_some_iff]
  · rw [if_neg isOk]
    simp only [isOk, false_and, iff_false]
    split
    · rcases slots ["code", "message"] fields with
        _ | ⟨_ | ⟨code, _ | ⟨message, _ | ⟨other, rest⟩⟩⟩⟩ <;> simp [Option.bind_eq_some_iff]
    · exact nofun

theorem variant?_eq_error_iff {code : ErrorCode} {message : String} :
    variant? body? status fields = some (.error code message) ↔ status = "error".toList ∧
      ∃ c m, slots ["code", "message"] fields = some [c, m] ∧
        required ErrorCode.ofJson? c = some code ∧
          Json.optional "" Value.string? m = some message := by
  unfold variant?
  by_cases isOk : status = "ok".toList
  · rw [if_pos isOk, isOk]
    have away : "ok".toList ≠ "error".toList := by decide
    simp only [away, false_and, iff_false]
    rcases slots ["body"] fields with _ | ⟨_ | ⟨slot, _ | ⟨slot', rest⟩⟩⟩ <;>
      simp [Option.bind_eq_some_iff]
  · rw [if_neg isOk]
    by_cases isError : status = "error".toList
    · rw [if_pos isError]
      simp only [isError, true_and]
      rcases slots ["code", "message"] fields with
        _ | ⟨_ | ⟨c, _ | ⟨m, _ | ⟨other, rest⟩⟩⟩⟩ <;> simp [Option.bind_eq_some_iff, and_assoc]
    · rw [if_neg isError]
      simp only [isError, false_and, iff_false]
      exact nofun

end Variants

theorem ofJson?_eq_some_iff_variant? {body? : Value → Option α} {v : Value} {r : Reply α} :
    ofJson? body? v = some r ↔ v.isMeaningful maxDepth = true ∧
      ∃ status fields, split? v = some (status, fields) ∧
        variant? body? status fields = some r := by
  have unfolded : ofJson? body? v = (guard (v.isMeaningful maxDepth = true) : Option Unit).bind
      fun _ => (split? v).bind fun s => variant? body? s.1 s.2 := rfl
  rw [unfolded]
  by_cases meaningful : v.isMeaningful maxDepth = true
  · have passed : (guard (v.isMeaningful maxDepth = true) : Option Unit) = some () :=
      if_pos meaningful
    rw [passed]
    simp [meaningful, Option.bind_eq_some_iff]
  · have barred : (guard (v.isMeaningful maxDepth = true) : Option Unit) = none :=
      if_neg meaningful
    rw [barred]
    exact iff_of_false nofun fun h => meaningful h.1

/-- The status of an array comes first. -/
theorem split?_array_eq_some {items : List Value} {status : List Char} {fields : Value} :
    split? (.array items) = some (status, fields) ↔
      ∃ v rest, items = v :: rest ∧ v.text? = some status ∧ fields = .array rest := by
  rcases items with _ | ⟨v, rest⟩
  · simp [split?]
  · simp only [split?, Option.map_eq_some_iff, Prod.mk.injEq, List.cons.injEq]
    constructor
    · rintro ⟨text, text_eq, rfl, rfl⟩
      exact ⟨v, rest, ⟨rfl, rfl⟩, text_eq, rfl⟩
    · rintro ⟨_, _, ⟨rfl, rfl⟩, text_eq, rfl⟩
      exact ⟨status, text_eq, rfl, rfl⟩

/-- **The reader accepts the envelopes**, and nothing else. -/
theorem ofJson?_eq_some_iff {body? : Value → Option α} {v : Value} {r : Reply α} :
    ofJson? body? v = some r ↔ v.isMeaningful maxDepth = true ∧ Envelope body? v r := by
  rw [ofJson?_eq_some_iff_variant?]
  refine and_congr_right fun meaningful => ?_
  constructor
  · rintro ⟨status, fields, split, variant⟩
    cases v with
    | object members =>
        have named : IsNamed members := isNamed_of_meaningful meaningful
        obtain ⟨status, statuses, text, rfl⟩ := (split?_object_eq_some named).mp split
        cases r with
        | ok a =>
            obtain ⟨rfl, slot, slots_eq, reads⟩ := variant?_eq_ok_iff.mp variant
            obtain ⟨body, bodies, reads⟩ :=
              requiredSlot_iff.mp ⟨slot, (slots_body_others named).mp slots_eq, reads⟩
            exact .okObject statuses text bodies reads
        | error code message =>
            obtain ⟨rfl, c, m, slots_eq, names, reads⟩ := variant?_eq_error_iff.mp variant
            obtain ⟨codes, messages⟩ := (slots_refusal_others named).mp slots_eq
            obtain ⟨v, codes, names⟩ := requiredSlot_iff.mp ⟨c, codes, names⟩
            exact .errorObject statuses text codes (ErrorCode.ofJson?_eq_some_iff.mp names)
              (messageSlot_iff.mp ⟨m, messages, reads⟩)
    | array items =>
        obtain ⟨status, rest, rfl, text, rfl⟩ := split?_array_eq_some.mp split
        cases r with
        | ok a =>
            obtain ⟨rfl, slot, slots_eq, reads⟩ := variant?_eq_ok_iff.mp variant
            obtain ⟨body, rfl, reads⟩ :=
              requiredSlot_iff.mp ⟨slot, slots_body_array.mp slots_eq, reads⟩
            exact .okArray text reads
        | error code message =>
            obtain ⟨rfl, c, m, slots_eq, names, reads⟩ := variant?_eq_error_iff.mp variant
            obtain ⟨codes, messages⟩ := slots_refusal_array.mp slots_eq
            obtain ⟨v, first, names⟩ := requiredSlot_iff.mp ⟨c, codes, names⟩
            rw [← List.take_append_drop 1 rest, first]
            exact .errorArray text (ErrorCode.ofJson?_eq_some_iff.mp names)
              (messageSlot_iff.mp ⟨m, messages, reads⟩)
    | null | bool | number | string => cases split
  · intro envelope
    cases envelope with
    | okObject statuses isOk bodies reads =>
        have named := isNamed_of_meaningful meaningful
        obtain ⟨slot, once, reads⟩ := requiredSlot_iff.mpr ⟨_, bodies, reads⟩
        exact ⟨_, _, (split?_object_eq_some named).mpr ⟨_, statuses, isOk, rfl⟩,
          variant?_eq_ok_iff.mpr ⟨rfl, slot, (slots_body_others named).mpr once, reads⟩⟩
    | okArray isOk reads =>
        exact ⟨_, _, split?_array_eq_some.mpr ⟨_, _, rfl, isOk, rfl⟩,
          variant?_eq_ok_iff.mpr ⟨rfl, _, slots_body_array.mpr rfl, reads⟩⟩
    | errorObject statuses isError codes names messages =>
        have named := isNamed_of_meaningful meaningful
        obtain ⟨c, code_once, names⟩ :=
          requiredSlot_iff.mpr ⟨_, codes, ErrorCode.ofJson?_eq_some_iff.mpr names⟩
        obtain ⟨m, message_once, reads⟩ := messageSlot_iff.mpr messages
        exact ⟨_, _, (split?_object_eq_some named).mpr ⟨_, statuses, isError, rfl⟩,
          variant?_eq_error_iff.mpr ⟨rfl, c, m,
            (slots_refusal_others named).mpr ⟨code_once, message_once⟩, names, reads⟩⟩
    | errorArray isError names messages =>
        obtain ⟨c, code_once, names⟩ :=
          requiredSlot_iff.mpr ⟨_, rfl, ErrorCode.ofJson?_eq_some_iff.mpr names⟩
        obtain ⟨m, message_once, reads⟩ := messageSlot_iff.mpr messages
        exact ⟨_, _, split?_array_eq_some.mpr ⟨_, _, rfl, isError, rfl⟩,
          variant?_eq_error_iff.mpr ⟨rfl, c, m,
            slots_refusal_array.mpr ⟨code_once, message_once⟩, names, reads⟩⟩

end Reply

/-! ## Payloads -/

section Payloads

variable {α : Type} {body? : Value → Option α} {payload : List UInt8} {r : Reply α}

/-- The payload is the text of a value that is this reply. -/
def Carries (body? : Value → Option α) (payload : List UInt8) (r : Reply α) : Prop :=
  ∃ v, Value.ofBytes? payload = some v ∧ v.isMeaningful Reply.maxDepth = true ∧
    Reply.Envelope body? v r

theorem carries_iff :
    Carries body? payload r ↔ (Value.ofBytes? payload).bind (Reply.ofJson? body?) = some r := by
  simp only [Option.bind_eq_some_iff, Reply.ofJson?_eq_some_iff]
  rfl

/-- A payload is one reply at most. -/
theorem carries_unique {r' : Reply α} (h : Carries body? payload r)
    (h' : Carries body? payload r') : r = r' :=
  Option.some.inj ((carries_iff.mp h).symm.trans (carries_iff.mp h'))

theorem decodeReply_of_carries (h : Carries body? payload r) (operation : String)
    (room : Option RoomId) :
    decodeReply body? operation room payload = r.result operation room := by
  rw [decodeReply, carries_iff.mp h]

theorem decodeReply_of_not_carries (h : ∀ r : Reply α, ¬Carries body? payload r)
    (operation : String) (room : Option RoomId) :
    decodeReply body? operation room payload =
      .error (.protocol s!"undecodable {operation} reply") := by
  have none : (Value.ofBytes? payload).bind (Reply.ofJson? body?) = none :=
    Option.eq_none_iff_forall_ne_some.mpr fun r found => h r (carries_iff.mpr found)
  rw [decodeReply, none]

end Payloads

end HexWorld
