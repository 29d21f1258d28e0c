import HexWorld.Failure
import HexWorld.Message.Json

/-!
# Decoding payloads

## Contents
- `Reply.result`: what a refusal by the source means to the one who asked.
- `decodeReply`, `decodeEntities`: from the bytes of a payload.
-/

namespace HexWorld

open Json

/-- The body of a reply, or the failure that its code stands for. A missing object is a missing
room if the request named one. -/
def Reply.result {α : Type} (operation : String) (room : Option RoomId) :
    Reply α → Except SourceError α
  | .ok body => .ok body
  | .error code message => .error <|
    match code, room with
    | .notFound, some room => .roomNotFound room
    | .notFound, none | .invalidArgument, _ =>
      .protocol s!"{operation} rejected ({code.title}): {message}"
    | .permissionDenied, _ => .permissionDenied s!"{operation}: {message}"
    | .unavailable, _ | .internal, _ =>
      .unavailable s!"{operation} failed ({code.title}): {message}"

/-- The body in the payload of a reply. -/
def decodeReply {α : Type} (body? : Value → Option α) (operation : String) (room : Option RoomId)
    (payload : List UInt8) : Except SourceError α :=
  match (Value.ofBytes? payload).bind (Reply.ofJson? body?) with
  | some reply => reply.result operation room
  | none => .error (.protocol s!"undecodable {operation} reply")

/-- The message in a payload of the entity subscription. -/
def decodeEntities (payload : List UInt8) : Except SourceError EntitiesMessage :=
  match (Value.ofBytes? payload).bind EntitiesMessage.ofJson? with
  | some message => .ok message
  | none => .error (.protocol "undecodable entities message")

end HexWorld
