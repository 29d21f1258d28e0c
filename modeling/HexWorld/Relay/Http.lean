import HexWorld.Entity.Json
import HexWorld.Relay.Failure
import HexWorld.Relay.Page
import HexWorld.Relay.Route

/-!
# Answers over HTTP

## Contents
- `Request`, `Response`.
- `Hub.statusJson`, `Hub.roomsJson`, `terrainJson`: bodies. The names of their members are sorted.
- `Handling`, `handle`: what a request gets; only terrain has to be asked of the source first.
-/

namespace HexWorld

open Json

/-! ## Sorted names -/

namespace Json.Value

/-- Puts a member in front of the first one with a greater name. -/
def insertMember (member : Literal × Value) :
    List (Literal × Value) → List (Literal × Value)
  | [] => [member]
  | other :: rest =>
    if String.ofList (member.1.text?.getD []) < String.ofList (other.1.text?.getD []) then
      member :: other :: rest
    else other :: insertMember member rest

mutual
/-- The same value with the members of all objects sorted by their names. -/
def sorted : Value → Value
  | .array items => .array (itemsSorted items)
  | .object members => .object (membersSorted members)
  | v => v

def itemsSorted : List Value → List Value
  | [] => []
  | v :: rest => sorted v :: itemsSorted rest

def membersSorted : List (Literal × Value) → List (Literal × Value)
  | [] => []
  | (name, v) :: rest => insertMember (name, sorted v) (membersSorted rest)
end

end Json.Value

/-! ## Bodies -/

/-- The text that stands for the moment at which a snapshot was made; snapshots have no clock. -/
def observedAt : String := "<time>"

namespace Hub

variable {β τ : Type}

/-- The state of supervision. Before the first snapshot its fields are null. -/
def statusJson (h : Hub β τ) : Value :=
  let ofCurrent (f : Snapshot → Value) : Value := .ofOption f h.current
  Value.sorted <| .ofFields [
    ("phase", h.phase.toJson),
    ("initialized", .bool (h.current.any (·.isInitialized))),
    ("worldTime", ofCurrent fun s => .ofInt64 s.worldTime),
    ("session", ofCurrent fun s => .ofUInt64 s.session),
    ("observedAt", ofCurrent fun _ => .ofString observedAt),
    ("diagnostics", ofCurrent fun s => .ofOption Diagnostics.toJson s.diagnostics),
    ("counters", h.counters.toJson),
    ("subscribers", .ofNat h.registry.size)]

end Hub

/-- A position in numbers of 64 bits. -/
def RoomPosition.wideJson (p : RoomPosition) : Value :=
  .ofFields [("x", .ofDouble (p.x.convert .double)), ("y", .ofDouble (p.y.convert .double))]

/-- The rooms of a snapshot in the order of the source, and their places. -/
def Snapshot.roomsJson (s : Snapshot) : Value :=
  let rooms := s.topology.rooms
  Value.sorted <| .ofFields [
    ("session", .ofUInt64 s.session),
    ("count", .ofNat rooms.length),
    ("rooms", .array (rooms.map RoomId.toJson)),
    ("layout", .ofFields (s.topology.layout.entries.map fun e => (e.1.text, e.2.wideJson)))]

/-- The terrain of a room. -/
def terrainJson (room : RoomId) (tiles : List TerrainTile) : Value :=
  Value.sorted <| .ofFields [
    ("roomId", room.toJson), ("count", .ofNat tiles.length),
    ("tiles", .array (tiles.map TerrainTile.toJson))]

/-! ## Requests and responses -/

/-- A request. Names of header fields are compared without regard to case. -/
structure Request where
  method : String
  uri : String
  headers : List (String × String)

/-- The content of a response. -/
inductive Content where
  | empty
  | json (v : Value)
  | text (t : String)
  | page (t : String)
  /-- Nothing, where there would be something of this type. -/
  | omitted (mediaType : Option String)

/-- A response. Every response may be read by pages of any origin. -/
structure Response where
  status : Nat
  allow : Option String
  content : Content

namespace Content

def mediaType? : Content → Option String
  | empty => none
  | json _ => some "application/json"
  | text _ => some "text/plain; charset=utf-8"
  | page _ => some "text/html; charset=utf-8"
  | omitted mediaType => mediaType

def toText : Content → String
  | empty | omitted _ => ""
  | json v => v.render
  | text t => t
  | page t => t

end Content

namespace Response

def ofJson (v : Value) : Response := ⟨200, none, .json v⟩

def ofError (e : RelayError) : Response := ⟨e.status, none, .json e.body⟩

/-- A refusal in plain words. -/
def refusal (status : Nat) (reason : String) : Response := ⟨status, none, .text reason⟩

def notFound : Response := ⟨404, none, .empty⟩

def ofResult {α : Type} (body : α → Value) : Except QueryError α → Response
  | .ok a => ofJson (body a)
  | .error e => ofError (.ofQuery e)

/-- The words for a status. -/
def reason (status : Nat) : String :=
  match status with
  | 200 => "OK"
  | 400 => "Bad Request"
  | 404 => "Not Found"
  | 405 => "Method Not Allowed"
  | 426 => "Upgrade Required"
  | 500 => "Internal Server Error"
  | 502 => "Bad Gateway"
  | 503 => "Service Unavailable"
  | _ => ""

/-- The first line of a response. -/
def statusLine (r : Response) : String :=
  s!"HTTP/1.1 {r.status} {reason r.status}"

end Response

namespace Request

/-- The first value of a header field. -/
def header? (r : Request) (name : String) : Option String :=
  (r.headers.find? fun h => h.1.toLower = name).map (·.2)

/-- Why a request does not turn into a stream. There is no connection behind it that could. -/
def streamRefusal (r : Request) : Response :=
  let has (name : String) (p : String → Bool) := (r.header? name).any fun v => p v.toLower
  if r.method != "GET" then .refusal 405 "Request method must be `GET`"
  else if !has "connection" (fun v => (v.splitOn "upgrade").length != 1) then
    .refusal 400 "Connection header did not include 'upgrade'"
  else if !has "upgrade" (· = "websocket") then
    .refusal 400 "`Upgrade` header did not include 'websocket'"
  else if (r.header? "sec-websocket-key").isNone then
    .refusal 400 "`Sec-WebSocket-Key` header missing"
  else if !has "sec-websocket-version" (· = "13") then
    .refusal 400 "`Sec-WebSocket-Version` header did not include '13'"
  else .refusal 426 "WebSocket request couldn't be upgraded since no upgrade state was present"

end Request

/-- The response as it is sent: the head alone if only that was asked for. -/
def Request.trim (r : Request) (response : Response) : Response :=
  if r.method = "HEAD" then { response with content := .omitted response.content.mediaType? }
  else response

/-! ## Handling -/

/-- What a request gets, before it is trimmed. -/
inductive Handling where
  | respond (r : Response)
  /-- The terrain of a room, which has to be asked of the source. -/
  | terrain (room : RoomId)

namespace Handling

/-- Handling of the room that a path names. -/
def ofRoom (room : Option String) (handle : RoomId → Handling) : Handling :=
  match room with
  | none => respond (.refusal 400 "Invalid URL: Invalid UTF-8 in `room_id`")
  | some raw =>
    match RoomId.parse raw with
    | .ok room => handle room
    | .error e => respond (.ofError (.invalidRoomId s!"{Text.quoted raw}: {e.message}"))

end Handling

/-- What a request gets. Requests about other methods are answered for every path. -/
def handle {β τ : Type} (h : Hub β τ) (clients : Nat) (r : Request) : Handling :=
  if r.method = "OPTIONS" then .respond ⟨200, none, .empty⟩
  else
    match Route.ofUri? r.uri.toList with
    | none => .respond .notFound
    | some route =>
      if r.method != "GET" && r.method != "HEAD" then .respond ⟨405, some "GET,HEAD", .empty⟩
      else
        match route with
        | .page => .respond ⟨200, none, .page (Page.ofHub h clients)⟩
        | .status => .respond (.ofJson h.statusJson)
        | .rooms =>
          match h.current with
          | none => .respond (.ofError .notInitialized)
          | some s => .respond (.ofJson s.roomsJson)
        | .objects room => .ofRoom room fun room =>
          .respond (.ofResult RoomObjects.toJson (h.objects room))
        | .terrain room => .ofRoom room .terrain
        | .stream => .respond r.streamRefusal

end HexWorld
