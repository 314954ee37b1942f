import Lobby.Record.DecodeError
import Lobby.Text.Quoted

/-!
# Errors

Everything that can go wrong outside the content of a request, with the text that reports it.
-/

namespace Lobby

inductive Error where
  /-- The network or the file system failed; `text` is its own report. -/
  | io (text : String)
  | content (cause : DecodeError)
  | invalidHeader
  /-- A frame of `length` bytes of content is larger than allowed. -/
  | oversized (length : Nat)
  | invalidLabel (name : String)
  | connectionClosed
  | gameFull (game : UInt32)
  | gameNotFound (game : UInt32)
  /-- A session cannot be in two games. -/
  | alreadyInGame (session game : UInt32)
  | unauthenticated (session : UInt32)
  | config (text : String)
  | custom (text : String)
  deriving DecidableEq, Repr

namespace Error

/-- The name of an error in reports. -/
def name : Error → String
  | io _ => "Io"
  | content _ => "Tdf"
  | invalidHeader => "InvalidHeader"
  | oversized _ => "OversizedPacket"
  | invalidLabel _ => "InvalidLabel"
  | connectionClosed => "ConnectionClosed"
  | gameFull _ => "GameFull"
  | gameNotFound _ => "GameNotFound"
  | alreadyInGame _ _ => "AlreadyInGame"
  | unauthenticated _ => "Unauthenticated"
  | config _ => "ConfigError"
  | custom _ => "Custom"

def message : Error → String
  | io text => s!"I/O error: {text}"
  | content cause => s!"TDF error: {cause.message}"
  | invalidHeader => "Invalid packet header"
  | oversized length => s!"Packet too large: {length} bytes"
  | invalidLabel name => s!"Invalid label: {Text.quote name}"
  | connectionClosed => "Connection closed"
  | gameFull game => s!"Game {game.toNat} is full"
  | gameNotFound game => s!"Game {game.toNat} not found"
  | alreadyInGame session game => s!"Session {session.toNat} is already in game {game.toNat}"
  | unauthenticated session => s!"Session {session.toNat} is not logged in"
  | config text => s!"Configuration error: {text}"
  | custom text => s!"Custom error: {text}"

end Error

end Lobby
