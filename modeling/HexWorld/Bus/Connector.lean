import HexWorld.Bus.Endpoint
import HexWorld.Bus.EntityFeed
import HexWorld.Bus.Fault
import HexWorld.Config.Basic
import HexWorld.Sync.Request

/-!
# A source on the bus

What is sent over the bus for each request to a source, and what comes of the answers.

## Contents
- `Inquiry`, a request, with `operation`, `subject` and `payload`.
- `Connector`, how connections are opened: `Connector.endpoint` and the failures.
- `Connector.conversationShape`, a connection in reports about the program itself.
-/

namespace HexWorld

/-- What is asked of a source. -/
inductive Inquiry where
  | rooms
  | layout
  | terrain (room : RoomId)
  deriving DecidableEq

namespace Inquiry

/-- The name of the request in messages. -/
def operation : Inquiry → String
  | rooms => "ListRooms"
  | layout => "GetRoomLayout"
  | terrain _ => "GetRoomTerrain"

/-- The subject on which the request is sent. -/
def subject (s : Subjects) : Inquiry → String
  | rooms => s.rooms
  | layout => s.layout
  | terrain _ => s.terrain

/-- The text of the request; only a room has to be named. -/
def payload : Inquiry → String
  | rooms | layout => ""
  | terrain room => room.axial.toJson.render

/-- The room that a missing object in the answer would be. -/
def room? : Inquiry → Option RoomId
  | rooms | layout => none
  | terrain room => some room

end Inquiry

/-- The name under which a connection is made. -/
def Role.connectionName : Role → String
  | stream => "hexwatch-stream"
  | requests => "hexwatch-requests"

/-- How connections to a source are opened. -/
structure Connector where
  url : String
  subjects : Subjects
  requestTimeout : Duration

namespace Connector

def ofConfig (c : SourceConfig) : Connector :=
  ⟨c.url, c.subjects, .ofMillis c.requestTimeoutMs.toNat⟩

/-- The failure to connect, by a fault. -/
def connectError (c : Connector) (fault : ConnectFault) : SourceError :=
  .ofConnect s!"failed to connect to {c.url}" fault

/-- The endpoint of the bus. -/
def endpoint (c : Connector) : Except SourceError Endpoint :=
  match Endpoint.parse? c.url with
  | some endpoint => .ok endpoint
  | none => .error (c.connectError .serverAddress)

/-- The failure to subscribe. -/
def subscribeError (c : Connector) : SourceError :=
  .unavailable s!"failed to subscribe to {c.subjects.entities}"

/-- What a payload answers to an inquiry. -/
def reply {α : Type} (body? : Json.Value → Option α) (i : Inquiry) (payload : List UInt8) :
    Except SourceError α :=
  decodeReply body? i.operation i.room? payload

/-- An open connection with its deadline in reports about the program itself. -/
def conversationShape (c : Connector) (isLost : Bool) (deadline : Duration) : String :=
  let s := c.subjects
  "StreamClient \x7b source: NatsSource \x7b subjects: SubjectsConfig \x7b rooms: " ++
    Text.quoted s.rooms ++ ", layout: " ++ Text.quoted s.layout ++ ", terrain: " ++
    Text.quoted s.terrain ++ ", entities: " ++ Text.quoted s.entities ++ " \x7d, lost: " ++
    toString isLost ++ ", .. \x7d, request_timeout: " ++ deadline.text ++ " \x7d"

end Connector

end HexWorld
