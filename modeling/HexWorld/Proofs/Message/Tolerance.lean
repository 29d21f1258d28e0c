import HexWorld.Proofs.Message.Json
import HexWorld.Proofs.Message.Variation

/-!
# `Proofs.Message.Tolerance` — decoding does not mind order and strangers

Each type of a message has a shape, and its reader tolerates it: the reader of a record from the
readers of its fields, one slot after the other. A reply is read in another way, since its fields
are not known before its status is; still it tolerates the shape of its variant.

## Contents
- `Axial.shape` and its like, with `Axial.tolerates` and its like.
- `Reply.shape`, `Reply.envelope_iff` and `Reply.ofJson?_of_alters`, for the replies that are objects.
- `Withstands`, with `withstands_entities` and `withstands_reply`: payloads.
- `decoding_is_tolerant`.
-/

namespace HexWorld

open Json

/-! ## Fields -/

section Fields

variable {α : Type}

/-- Integers are found in no container, and neither are other numbers and texts. -/
theorem tolerates_int? (range : Text.IntegerRange) (f : Int → α) :
    Tolerates .leaf fun v => (v.int? range).map f :=
  tolerates_leaf (fun _ => rfl) fun _ => rfl

theorem tolerates_double? : Tolerates .leaf Value.double? :=
  tolerates_leaf (fun _ => rfl) fun _ => rfl

theorem tolerates_text? (f : List Char → Option α) : Tolerates .leaf fun v => v.text?.bind f :=
  tolerates_leaf (fun _ => rfl) fun _ => rfl

theorem tolerates_amount : SlotTolerates .leaf (optional 0 Value.uint32?) :=
  (tolerates_int? (.unsigned 32) fun n => UInt32.ofNat n.toNat).optional 0

theorem tolerates_number : SlotTolerates .leaf (required Value.uint64?) :=
  (tolerates_int? (.unsigned 64) fun n => UInt64.ofNat n.toNat).required

theorem tolerates_owner : SlotTolerates .leaf (nullable Uuid.ofJson?) :=
  (tolerates_text? Uuid.ofText?).nullable

end Fields

/-! ## Entities -/

def Axial.shape : Shape := .record [("q", .leaf), ("r", .leaf)]

theorem Axial.tolerates : Tolerates shape ofJson? := by
  have coordinate := (tolerates_int? (.signed 32) Int32.ofInt).required
  exact tolerates_record (by decide) (fun _ => rfl)
    (row_cons fun _ => row_cons fun _ => row_nil rfl)
    (.next coordinate fun q => .next coordinate fun r => rowTolerates_done ⟨q, r⟩)

def WorldPosition.shape : Shape := .record [("room", Axial.shape), ("pos", Axial.shape)]

theorem WorldPosition.tolerates : Tolerates shape ofJson? := by
  have place := Axial.tolerates.required
  exact tolerates_record (by decide) (fun _ => rfl)
    (row_cons fun _ => row_cons fun _ => row_nil rfl)
    (.next place fun room => .next place fun pos => rowTolerates_done ⟨room, pos⟩)

def Bot.shape : Shape := .record [
  ("id", .leaf), ("position", WorldPosition.shape), ("ownerId", .leaf), ("scriptId", .leaf),
  ("carry", .leaf), ("carryMax", .leaf), ("hp", .leaf), ("hpMax", .leaf)]

theorem Bot.tolerates : Tolerates shape ofJson? :=
  tolerates_record (by decide) (fun _ => rfl)
    (row_cons fun _ => row_cons fun _ => row_cons fun _ => row_cons fun _ => row_cons fun _ =>
      row_cons fun _ => row_cons fun _ => row_cons fun _ => row_nil rfl)
    (.next tolerates_number fun id => .next WorldPosition.tolerates.required fun position =>
      .next tolerates_owner fun ownerId => .next tolerates_owner fun scriptId =>
      .next tolerates_amount fun carry => .next tolerates_amount fun carryMax =>
      .next tolerates_amount fun hp => .next tolerates_amount fun hpMax =>
      rowTolerates_done ⟨id, position, ownerId, scriptId, carry, carryMax, hp, hpMax⟩)

def Structure.shape : Shape := .record [
  ("id", .leaf), ("position", WorldPosition.shape), ("kind", .leaf), ("ownerId", .leaf),
  ("hp", .leaf), ("hpMax", .leaf), ("energy", .leaf), ("energyMax", .leaf)]

theorem StructureKind.tolerates : Tolerates .leaf ofJson? :=
  (tolerates_kindName? .alone).map _

theorem Structure.tolerates : Tolerates shape ofJson? :=
  tolerates_record (by decide) (fun _ => rfl)
    (row_cons fun _ => row_cons fun _ => row_cons fun _ => row_cons fun _ => row_cons fun _ =>
      row_cons fun _ => row_cons fun _ => row_cons fun _ => row_nil rfl)
    (.next tolerates_number fun id => .next WorldPosition.tolerates.required fun position =>
      .next StructureKind.tolerates.required fun kind => .next tolerates_owner fun ownerId =>
      .next tolerates_amount fun hp => .next tolerates_amount fun hpMax =>
      .next tolerates_amount fun energy => .next tolerates_amount fun energyMax =>
      rowTolerates_done ⟨id, position, kind, ownerId, hp, hpMax, energy, energyMax⟩)

def Resource.shape : Shape := .record [
  ("id", .leaf), ("position", WorldPosition.shape), ("kind", .leaf), ("amount", .leaf),
  ("amountMax", .leaf)]

theorem ResourceKind.tolerates : Tolerates .leaf ofJson? :=
  (tolerates_kindName? .alone).map _

theorem Resource.tolerates : Tolerates shape ofJson? :=
  tolerates_record (by decide) (fun _ => rfl)
    (row_cons fun _ => row_cons fun _ => row_cons fun _ => row_cons fun _ => row_cons fun _ =>
      row_nil rfl)
    (.next tolerates_number fun id => .next WorldPosition.tolerates.required fun position =>
      .next ResourceKind.tolerates.required fun kind => .next tolerates_amount fun amount =>
      .next tolerates_amount fun amountMax =>
      rowTolerates_done ⟨id, position, kind, amount, amountMax⟩)

/-! ## Messages of a tick -/

def RoomGroup.shape (category : String) (member : Shape) : Shape :=
  .record [("roomId", Axial.shape), (category, .list member)]

theorem RoomGroup.tolerates {α : Type} {category : String} {member : Shape}
    {member? : Value → Option α} (apart : category ≠ "roomId") (h : Tolerates member member?) :
    Tolerates (shape category member) (ofJson? category member?) :=
  tolerates_record (by simpa using apart.symm) (fun _ => rfl)
    (row_cons fun _ => row_cons fun _ => row_nil rfl)
    (.next Axial.tolerates.required fun room =>
      .next ((tolerates_listOf h).optional []) fun members => rowTolerates_done ⟨room, members⟩)

def Diagnostics.shape : Shape := .record [
  ("tickLatencyMs", .leaf), ("scriptsRun", .leaf), ("scriptsFailed", .leaf), ("intents", .leaf),
  ("entities", .leaf)]

theorem Diagnostics.tolerates : Tolerates shape ofJson? := by
  have count := (tolerates_int? (.unsigned 64) fun n => UInt64.ofNat n.toNat).optional 0
  exact tolerates_record (by decide) (fun _ => rfl)
    (row_cons fun _ => row_cons fun _ => row_cons fun _ => row_cons fun _ => row_cons fun _ =>
      row_nil rfl)
    (.next (tolerates_double?.optional default) fun tickLatencyMs =>
      .next count fun scriptsRun => .next count fun scriptsFailed => .next count fun intents =>
      .next count fun entities =>
      rowTolerates_done ⟨tickLatencyMs, scriptsRun, scriptsFailed, intents, entities⟩)

def EntitiesMessage.shape : Shape := .record [
  ("worldTime", .leaf), ("bots", .list (RoomGroup.shape "bots" Bot.shape)),
  ("structures", .list (RoomGroup.shape "structures" Structure.shape)),
  ("resources", .list (RoomGroup.shape "resources" Resource.shape)),
  ("diagnostics", Diagnostics.shape)]

theorem EntitiesMessage.tolerates : Tolerates shape ofJson? := by
  exact tolerates_record (by decide) (fun _ => rfl)
    (row_cons fun _ => row_cons fun _ => row_cons fun _ => row_cons fun _ => row_cons fun _ =>
      row_nil rfl)
    (.next tolerates_number fun worldTime =>
      .next ((tolerates_listOf (RoomGroup.tolerates (by decide) Bot.tolerates)).optional [])
        fun bots =>
      .next ((tolerates_listOf (RoomGroup.tolerates (by decide) Structure.tolerates)).optional [])
        fun structures =>
      .next ((tolerates_listOf (RoomGroup.tolerates (by decide) Resource.tolerates)).optional [])
        fun resources =>
      .next Diagnostics.tolerates.nullable fun diagnostics =>
      rowTolerates_done ⟨worldTime, bots, structures, resources, diagnostics⟩)

/-! ## Bodies of replies -/

def RoomList.shape : Shape := .record [("roomIds", .list Axial.shape)]

theorem RoomList.tolerates : Tolerates shape ofJson? :=
  tolerates_record (by decide) (fun _ => rfl) (row_cons fun _ => row_nil rfl)
    (.next (tolerates_listOf Axial.tolerates).required fun roomIds => rowTolerates_done ⟨roomIds⟩)

def TerrainTile.shape : Shape := .record [("position", Axial.shape), ("terrain", .leaf)]

theorem TerrainTile.tolerates (setting : Setting) : Tolerates shape (ofJson? setting) := by
  have terrain : Tolerates .leaf (TerrainKind.ofJson? setting) :=
    (tolerates_kindName? setting).bind _
  exact tolerates_record (by decide) (fun _ => rfl)
    (row_cons fun _ => row_cons fun _ => row_nil rfl)
    (.next Axial.tolerates.required fun position => .next terrain.required fun terrain =>
      rowTolerates_done ⟨position, terrain⟩)

def TerrainReply.shape : Shape :=
  .record [("roomId", Axial.shape), ("tiles", .list TerrainTile.shape)]

theorem TerrainReply.tolerates (setting : Setting) : Tolerates shape (ofJson? setting) :=
  tolerates_record (by decide) (fun _ => rfl)
    (row_cons fun _ => row_cons fun _ => row_nil rfl)
    (.next Axial.tolerates.required fun room =>
      .next ((tolerates_listOf (TerrainTile.tolerates setting)).optional []) fun tiles =>
      rowTolerates_done ⟨room, tiles⟩)

/-! ## Replies -/

namespace Reply

variable {α : Type} {body : Shape} {body? : Value → Option α} {r : Reply α}
  {members members' : List (Literal × Value)}

/-- The status of a reply. -/
def tag : Reply α → String
  | .ok _ => "ok"
  | .error .. => "error"

/-- The fields of the variant that a reply is of, its status included. -/
def fields (body : Shape) : Reply α → List (String × Shape)
  | .ok _ => [("status", .leaf), ("body", body)]
  | .error .. => [("status", .leaf), ("code", .leaf), ("message", .leaf)]

/-- What is looked for in a reply. -/
def shape (body : Shape) (r : Reply α) : Shape :=
  .record (r.fields body)

/-- Nothing, if the value is this status. -/
def status? (tag : String) (v : Value) : Option Unit :=
  v.text?.bind fun text => if text = tag.toList then some () else none

/-- Reads a variant as a record with the status as its first field. -/
def row (body? : Value → Option α) : Reply α → List (Option Value) → Option (Reply α)
  | .ok _ => next (required (status? "ok")) fun _ => next (required body?) fun a => done (.ok a)
  | .error .. => next (required (status? "error")) fun _ =>
    next (required ErrorCode.ofJson?) fun code =>
    next (Json.optional "" Value.string?) fun message => done (.error code message)

theorem status?_eq_some_iff {tag : String} {v : Value} :
    status? tag v = some () ↔ v.text? = some tag.toList := by
  simp [status?, Option.bind_eq_some_iff]

theorem rowTolerates (h : Tolerates body body?) : RowTolerates (r.fields body) (r.row body?) := by
  cases r with
  | ok =>
      exact .next (tolerates_text? _).required fun _ => .next h.required fun a =>
        rowTolerates_done (Reply.ok a)
  | error =>
      have code : Tolerates .leaf ErrorCode.ofJson? := (tolerates_kindName? .inReply).bind _
      have text : Tolerates .leaf Value.string? := tolerates_leaf (fun _ => rfl) fun _ => rfl
      exact .next (tolerates_text? _).required fun _ => .next code.required fun code =>
        .next (text.optional "") fun message => rowTolerates_done (Reply.error code message)

/-- An object is a reply if it is a record of its variant. -/
theorem envelope_iff (named : IsNamed members) : Envelope body? (.object members) r ↔
    (slots ((r.fields body).map (·.1)) (.object members)).bind (r.row body?) = some r := by
  rw [slots_object named]
  cases r with
  | ok a =>
      simp only [fields, row, List.map_cons, List.map_nil, mapM_bind_next, requiredSlot_iff]
      constructor
      · intro envelope
        cases envelope with
        | okObject statuses isOk bodies reads =>
            exact ⟨(), ⟨_, statuses, status?_eq_some_iff.mpr isOk⟩, a, ⟨_, bodies, reads⟩, rfl⟩
      · rintro ⟨⟨⟩, ⟨_, statuses, isOk⟩, _, ⟨_, bodies, reads⟩, same⟩
        cases same
        exact .okObject statuses (status?_eq_some_iff.mp isOk) bodies reads
  | error code message =>
      simp only [fields, row, List.map_cons, List.map_nil, mapM_bind_next, requiredSlot_iff,
        messageSlot_iff]
      constructor
      · intro envelope
        cases envelope with
        | errorObject statuses isError codes names messages =>
            exact ⟨(), ⟨_, statuses, status?_eq_some_iff.mpr isError⟩, code,
              ⟨_, codes, ErrorCode.ofJson?_eq_some_iff.mpr names⟩, message, messages, rfl⟩
      · rintro ⟨⟨⟩, ⟨_, statuses, isError⟩, _, ⟨_, codes, names⟩, _, messages, same⟩
        cases same
        exact .errorObject statuses (status?_eq_some_iff.mp isError) codes
          (ErrorCode.ofJson?_eq_some_iff.mp names) messages

/-- The status that an object gives. -/
theorem given_status (envelope : Envelope body? (.object members) r) :
    ∃ v, given "status" members = [v] ∧ v.text? = some r.tag.toList := by
  cases envelope with
  | okObject statuses isOk => exact ⟨_, statuses, isOk⟩
  | errorObject statuses isError => exact ⟨_, statuses, isError⟩

/-- The status stays what it is, unless it is repeated. -/
theorem text?_status_of_alters {repeats : Bool}
    (alters : Alters (r.shape body) repeats (.object members) (.object members'))
    {v v' : Value} (before : given "status" members = [v]) (after : given "status" members' = [v'])
    {text : List Char} (reads : v.text? = some text) : v'.text? = some text := by
  have declared : ("status", .leaf) ∈ r.fields body := by cases r <;> exact List.mem_cons_self
  have leaf : ∀ f ∈ r.fields body, f.1 = "status" → f.2 = .leaf := by
    cases r <;> simp [fields]
  have kept (same : given "status" members' = given "status" members) : v'.text? = some text := by
    rw [before, after] at same
    cases same
    exact reads
  cases changes_of_alters alters with
  | keeps all =>
      have same := all _ declared
      rw [before, after] at same
      cases same
      exact reads
  | @again _ _ f _ twice others =>
      by_cases own : f.1 = "status"
      · rw [own, after] at twice
        cases twice
      · exact kept (others _ declared fun same => own same.symm)
  | @inner _ _ _ f front w w' back mem inner old new others =>
      by_cases own : f.1 = "status"
      · -- The status is a text, and texts do not change.
        rw [own, before] at old
        rw [leaf f mem own] at inner
        have same : w ∈ [v] := by
          rw [old]
          exact List.mem_append_right front List.mem_cons_self
        cases List.mem_singleton.mp same
        rcases inner.cases_container with ⟨_, _, rfl, -⟩ | ⟨_, _, rfl, -⟩ <;> cases reads
      · exact kept (others _ declared fun same => own same.symm)

/-- Replies with the same status are of one variant, and read alike. -/
theorem alike_of_tag {r' : Reply α} (same : r.tag = r'.tag) :
    r.fields body = r'.fields body ∧ r.row body? = r'.row body? := by
  have apart : "ok" ≠ "error" := by decide
  cases r with
  | ok =>
      cases r' with
      | ok => exact ⟨rfl, rfl⟩
      | error => exact absurd same apart
  | error =>
      cases r' with
      | ok => exact absurd same apart.symm
      | error => exact ⟨rfl, rfl⟩

theorem fits_shape (fits : body.Fits 126) : (r.shape body).Fits maxDepth := by
  refine .record (by decide) ?_
  cases r with
  | ok => exact List.forall_mem_cons.mpr ⟨.leaf, List.forall_mem_singleton.mpr fits⟩
  | error =>
      exact List.forall_mem_cons.mpr ⟨.leaf, List.forall_mem_cons.mpr ⟨.leaf,
        List.forall_mem_singleton.mpr .leaf⟩⟩

/-- **Replies that are objects tolerate their shape.** -/
theorem ofJson?_of_alters (h : Tolerates body body?) (fits : body.Fits 126) {repeats : Bool}
    {v' : Value} (accepted : ofJson? body? (.object members) = some r)
    (alters : Alters (r.shape body) repeats (.object members) v') :
    ofJson? body? v' = if repeats then none else some r := by
  obtain ⟨members', rfl⟩ : ∃ members', v' = .object members' := by
    cases alters <;> exact ⟨_, rfl⟩
  obtain ⟨meaningful, envelope⟩ := ofJson?_eq_some_iff.mp accepted
  have named : IsNamed members := isNamed_of_meaningful meaningful
  have named' : IsNamed members' := (isNamed_of_alters alters).mpr named
  have distinct : ((r.fields body).map (·.1)).Nodup := by
    cases r with
    | ok => exact (by decide : ["status", "body"].Nodup)
    | error => exact (by decide : ["status", "code", "message"].Nodup)
  have record : (slots ((r.fields body).map (·.1)) (.object members')).bind (r.row body?) =
      if repeats then none
      else (slots ((r.fields body).map (·.1)) (.object members)).bind (r.row body?) :=
    tolerates_record distinct (fun _ => rfl) (fun _ _ => rfl) (rowTolerates h) repeats _ _ alters
  rw [(envelope_iff named).mp envelope] at record
  cases repeats with
  | false =>
      refine ofJson?_eq_some_iff.mpr ⟨?_, (envelope_iff named').mpr record⟩
      rw [isMeaningful_of_alters (fits_shape fits) alters]
      exact meaningful
  | true =>
      refine Option.eq_none_iff_forall_ne_some.mpr fun r' accepted' => ?_
      obtain ⟨-, envelope'⟩ := ofJson?_eq_some_iff.mp accepted'
      obtain ⟨v, before, reads⟩ := given_status envelope
      obtain ⟨v', after, reads'⟩ := given_status envelope'
      -- The status has stayed, so it would be a reply of the same variant.
      rw [text?_status_of_alters alters before after reads] at reads'
      have same : r.tag = r'.tag := String.toList_inj.mp (Option.some.inj reads')
      have alike : r.fields body = r'.fields body ∧ r.row body? = r'.row body? := alike_of_tag same
      rw [envelope_iff named', ← alike.1, ← alike.2, record] at envelope'
      cases envelope'

/-- Replies that are objects stay so, and are read alike after any harmless changes. -/
theorem ofJson?_of_varies (h : Tolerates body body?) (fits : body.Fits 126)
    (accepted : ofJson? body? (.object members) = some r) {v : Value}
    (varies : Varies (r.shape body) (.object members) v) :
    ∃ members', v = .object members' ∧ ofJson? body? (.object members') = some r := by
  induction varies with
  | refl => exact ⟨members, rfl, accepted⟩
  | step before last ih =>
      obtain ⟨members', rfl, accepted'⟩ := ih
      have read := ofJson?_of_alters h fits accepted' last
      cases last <;> exact ⟨_, rfl, read⟩

end Reply

/-! ## Depths -/

theorem Axial.fits_shape {depth : Nat} (room : 99 ≤ depth) : shape.Fits (depth + 1) :=
  .record room (List.forall_mem_cons.mpr ⟨.leaf, List.forall_mem_singleton.mpr .leaf⟩)

theorem RoomList.fits_shape : shape.Fits 126 :=
  .record (by decide) (List.forall_mem_singleton.mpr (.list (Axial.fits_shape (by decide))))

theorem TerrainReply.fits_shape : shape.Fits 126 := by
  have tile : TerrainTile.shape.Fits 124 := .record (by decide)
    (List.forall_mem_cons.mpr ⟨Axial.fits_shape (by decide), List.forall_mem_singleton.mpr .leaf⟩)
  exact .record (by decide) (List.forall_mem_cons.mpr
    ⟨Axial.fits_shape (by decide), List.forall_mem_singleton.mpr (.list tile)⟩)

/-! ## Payloads -/

/-- What is made of payloads that differ from one payload in their values only: after harmless
changes the same, and nothing if something is repeated besides. -/
def Withstands {α : Type} (shape : Shape) (decode : List UInt8 → Except SourceError α)
    (fault : String) (payload : List UInt8) : Prop :=
  ∀ v v' payload', Value.ofBytes? payload = some v → Value.ofBytes? payload' = some v' →
    (Varies shape v v' → decode payload' = decode payload) ∧
    ∀ w, Varies shape v w → Alters shape true w v' → decode payload' = .error (.protocol fault)

theorem withstands_entities (payload : List UInt8) :
    Withstands EntitiesMessage.shape decodeEntities "undecodable entities message" payload := by
  intro v v' payload' document document'
  constructor
  · intro varies
    rw [decodeEntities, decodeEntities, document, document', Option.bind_some, Option.bind_some,
      EntitiesMessage.tolerates.read_of_varies varies]
  · intro w varies alters
    have none : EntitiesMessage.ofJson? v' = none := EntitiesMessage.tolerates true w v' alters
    rw [decodeEntities, document', Option.bind_some, none]

section Replies

variable {α : Type} {body : Shape} {body? : Value → Option α} {r : Reply α}

theorem withstands_reply (h : Tolerates body body?) (fits : body.Fits 126)
    {members : List (Literal × Value)} {payload : List UInt8}
    (object : Value.ofBytes? payload = some (.object members)) (carries : Carries body? payload r)
    (operation : String) (room : Option RoomId) :
    Withstands (r.shape body) (decodeReply body? operation room) s!"undecodable {operation} reply"
      payload := by
  have accepted : Reply.ofJson? body? (.object members) = some r := by
    have read := carries_iff.mp carries
    rw [object] at read
    exact read
  intro v v' payload' document document'
  rw [object] at document
  cases document
  constructor
  · intro varies
    obtain ⟨members', rfl, read⟩ := Reply.ofJson?_of_varies h fits accepted varies
    have carries' : Carries body? payload' r := by
      rw [carries_iff, document']
      exact read
    rw [decodeReply_of_carries carries, decodeReply_of_carries carries']
  · intro w varies alters
    obtain ⟨members', rfl, read⟩ := Reply.ofJson?_of_varies h fits accepted varies
    have none : Reply.ofJson? body? v' = none := Reply.ofJson?_of_alters h fits read alters
    refine decodeReply_of_not_carries (fun r' carries' => ?_) operation room
    rw [carries_iff, document'] at carries'
    rw [show Reply.ofJson? body? v' = some r' from carries'] at none
    cases none

end Replies

/-- **Decoding does not mind order and strangers, and minds repetitions.** Whatever harmless changes
are made to the value in a payload of entities, or to a reply that is an object, the payload is
decoded to the same as before; and if after that a field of one of its records is given again, it is
undecodable. -/
theorem decoding_is_tolerant :
    (∀ payload,
      Withstands EntitiesMessage.shape decodeEntities "undecodable entities message" payload) ∧
    (∀ operation room payload members (r : Reply RoomList),
      Value.ofBytes? payload = some (.object members) → Carries RoomList.ofJson? payload r →
      Withstands (r.shape RoomList.shape) (decodeReply RoomList.ofJson? operation room)
        s!"undecodable {operation} reply" payload) ∧
    ∀ operation room payload members (r : Reply TerrainReply),
      Value.ofBytes? payload = some (.object members) →
      Carries (TerrainReply.ofJson? .inReply) payload r →
      Withstands (r.shape TerrainReply.shape)
        (decodeReply (TerrainReply.ofJson? .inReply) operation room)
        s!"undecodable {operation} reply" payload := by
  refine ⟨withstands_entities, fun operation room payload members r object carries => ?_,
    fun operation room payload members r object carries => ?_⟩
  · exact withstands_reply RoomList.tolerates RoomList.fits_shape object carries operation room
  · exact withstands_reply (TerrainReply.tolerates .inReply) TerrainReply.fits_shape object carries
      operation room

/-- A refusal, the same with its status in front and a stranger, and with its code given twice. -/
theorem decoding_is_tolerant_refusal :
    let room : RoomId := ⟨⟨0, 1⟩⟩
    let code : String × Value := ("code", .ofString "not_found")
    let status : String × Value := ("status", .ofString "error")
    let stranger : String × Value := ("tiles", .null)
    let decode (fields : List (String × Value)) :=
      decodeReply (TerrainReply.ofJson? .inReply) "GetRoomTerrain" (some room)
        (payload (.ofFields fields))
    decode [code, status] = .error (.roomNotFound room) ∧
    decode [status, stranger, code] = .error (.roomNotFound room) ∧
    decode [status, code, stranger, code] =
      .error (.protocol "undecodable GetRoomTerrain reply") := by
  intro room code status stranger decode
  have document (fields : List (String × Value)) (inner : ∀ f ∈ fields, f.2.IsWritten 0)
      (same : (Value.ofFields fields).reread = .ofFields fields) :
      Value.ofBytes? (payload (.ofFields fields)) = some (.ofFields fields) :=
    (Value.ofBytes?_render (Value.IsWritten.ofFields inner).proper).trans (congrArg some same)
  have first := document [code, status] (by simp [code, status]) rfl
  have second := document [status, stranger, code] (by simp [code, status, stranger]) rfl
  have third := document [status, code, stranger, code] (by simp [code, status, stranger]) rfl
  let refusal : Reply TerrainReply := .error .notFound ""
  let member (f : String × Value) : Literal × Value := (.ofText f.1.toList, f.2)
  have carries : Carries (TerrainReply.ofJson? .inReply) (payload (.ofFields [code, status]))
      refusal := by
    rw [carries_iff, first]
    rfl
  have permuted : Alters (refusal.shape TerrainReply.shape) false
      (.ofFields [code, status]) (.ofFields [status, code]) := .permute (.swap ..)
  have inserted : Alters (refusal.shape TerrainReply.shape) false
      (.ofFields [status, code]) (.ofFields [status, stranger, code]) :=
    @Alters.insert _ [member status] _ _ _ _ (Literal.text?_ofText _) (by decide) rfl
  have repeated : Alters (refusal.shape TerrainReply.shape) true
      (.ofFields [status, stranger, code]) (.ofFields [status, code, stranger, code]) :=
    @Alters.again _ [member status] _ ("code", .leaf) _ _
      (List.mem_cons_of_mem _ List.mem_cons_self) (Literal.text?_ofText _)
      ⟨member code, List.mem_append_right _ (List.mem_cons_of_mem _ List.mem_cons_self),
        Literal.text?_ofText _⟩
  have varies : Varies (refusal.shape TerrainReply.shape)
      (.ofFields [code, status]) (.ofFields [status, stranger, code]) :=
    (Varies.refl.step permuted).step inserted
  obtain ⟨-, -, terrain⟩ := decoding_is_tolerant
  have withstands := terrain "GetRoomTerrain" (some room) _ _ refusal first carries
  have known : decode [code, status] = .error (.roomNotFound room) :=
    decodeReply_of_carries carries "GetRoomTerrain" (some room)
  exact ⟨known, ((withstands _ _ _ first second).1 varies).trans known,
    (withstands _ _ _ first third).2 _ varies repeated⟩

end HexWorld
