import HexWorld.Json.Token
import HexWorld.Text.Utf8

/-!
# Paths of the relay

## Contents
- `percentDecode`, the bytes that a part of a path stands for.
- `Route`, what a path asks for; `Route.ofUri?`.
-/

namespace HexWorld

/-- The bytes of a part of a path. A percent sign without two hexadecimal digits stands for
itself. -/
def percentDecode : List Char → List UInt8
  | [] => []
  | c :: rest =>
    match c, rest with
    | '%', a :: b :: rest =>
      match Json.hexValue? a, Json.hexValue? b with
      | some high, some low => UInt8.ofNat (high * 16 + low) :: percentDecode rest
      | _, _ => String.utf8EncodeChar '%' ++ percentDecode (a :: b :: rest)
    | c, rest => String.utf8EncodeChar c ++ percentDecode rest

/-- The text of a part of a path, unless its bytes are not one. -/
def percentText? (part : List Char) : Option String :=
  (Text.Utf8.valid? (percentDecode part)).map String.ofList

/-- What a path asks for. A room is given as it was written, or not at all if it has no text. -/
inductive Route where
  | page
  | status
  | rooms
  | objects (room : Option String)
  | terrain (room : Option String)
  | stream
  deriving DecidableEq

namespace Route

/-- The parts of a text between the slashes. -/
def parts : List Char → List (List Char)
  | [] => [[]]
  | c :: rest =>
    if c = '/' then [] :: parts rest
    else
      match parts rest with
      | [] => [[c]]
      | part :: more => (c :: part) :: more

/-- The route of a path. An empty part is a part as well: between two slashes a room is given by the
empty text. -/
def ofPath? (path : List Char) : Option Route :=
  match (parts path).map String.ofList with
  | ["", ""] => some page
  | ["", "ws", "objects"] => some stream
  | ["", "api", "status"] => some status
  | ["", "api", "rooms"] => some rooms
  | ["", "api", "rooms", room, "objects"] => some (objects (percentText? room.toList))
  | ["", "api", "rooms", room, "terrain"] => some (terrain (percentText? room.toList))
  | _ => none

/-- The target without the scheme and the host that it may name first. Then an empty path is that of
the page. -/
def withoutHost (uri : List Char) : List Char :=
  let scheme := uri.takeWhile fun c => c.isAlphanum || c = '+' || c = '-' || c = '.'
  match uri.drop scheme.length with
  | ':' :: '/' :: '/' :: rest =>
    if scheme.isEmpty then uri
    else
      match rest.dropWhile fun c => c != '/' && c != '?' && c != '#' with
      | '/' :: path => '/' :: path
      | query => '/' :: query
  | _ => uri

/-- The route of a target, of which only the path counts. -/
def ofUri? (uri : List Char) : Option Route :=
  ofPath? ((withoutHost uri).takeWhile fun c => c != '?' && c != '#')

end Route

end HexWorld
