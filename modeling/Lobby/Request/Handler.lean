import Lobby.Request.Refusal
import Lobby.Server.Matchmaking

/-!
# Handlers

A handler answers the requests of one route.  It sees the server, the session that asks and the
request, and gives the replies to write, or the cause of a refusal.  What it pushes to the session
that asks is written before the replies.

Most handlers first check the request, which changes nothing, and then act on what they found:
`Handler.checked`.
-/

namespace Lobby

inductive Outcome where
  | replied (replies : List Packet)
  | refused (cause : Refusal)
  /-- The handler broke down. -/
  | crashed (text : Option String)

/-- Answers a request of a session. -/
abbrev Handler := Server → SessionId → Packet → Outcome × Server

/-- What a handler needs to know before it acts. -/
abbrev Check (α : Type) := Server → SessionId → Packet → Except Refusal α

namespace Handler

/-- Checks a request and then acts on it.  A request that fails the check changes nothing. -/
def checked {α : Type} (check : Check α)
    (act : Server → SessionId → Packet → α → Outcome × Server) : Handler :=
  fun server session request =>
    match check server session request with
    | .error cause => (.refused cause, server)
    | .ok found => act server session request found

/-- Answers with one reply of these records and changes nothing. -/
def answering (check : Check Content) : Handler :=
  checked check fun server _ request records => (.replied [request.response records], server)

/-- Changes the server and answers with an empty reply. -/
def acting {α : Type} (check : Check α) (act : Server → SessionId → α → Server) : Handler :=
  checked check fun server session request found =>
    (.replied [request.emptyResponse], act server session found)

end Handler

namespace Check

/-- The player a session is logged in as. -/
def player : Check Player := fun server session _ =>
  match (server.session session).player with
  | some player => .ok player
  | none => .error .notAuthenticated

/-- The content of a request, which must be readable. -/
def content (request : Packet) : Except Refusal Content := request.records.mapError .malformed

/-- A required field. -/
def field {α : Type} (r : Except Label α) : Except Refusal α := r.mapError .missingField

/-- The answer of the store. -/
def stored {α : Type} (r : Except StoreError α) : Except Refusal α := r.mapError .store

/-- Refuses with a code where there is nothing. -/
def orCode {α : Type} (code : RefusalCode) : Option α → Except Refusal α
  | some a => .ok a
  | none => .error (.coded code)

end Check

end Lobby
