import Lobby.Address
import Lobby.Network
import Lobby.Packet.Basic
import Lobby.Player

/-!
# Sessions

A session is one connection to a client: who it is logged in as, which game it is linked to,
whether it is looking for one, and what it has reported of itself.  Packets for the client are
queued in its outbox, from which the connection writes them in order.  Once the connection has let
go of the outbox, nothing more is queued.
-/

namespace Lobby

abbrev SessionId := UInt32

abbrev GameId := UInt32

/-- A place in a game. -/
structure Seat where
  game : GameId
  slot : Nat
  deriving DecidableEq, Repr

/-- What is queued for a client: one packet, or several to be written together. -/
inductive Outbound where
  | single (p : Packet)
  | batch (ps : List Packet)

/-- The packets of one entry of an outbox. -/
def Outbound.packets : Outbound → List Packet
  | single p => [p]
  | batch ps => ps

structure Session where
  /-- The address of the client, if it is known. -/
  peer : Option Address
  /-- Can the session be found by its id? -/
  registered : Bool
  player : Option Player
  seat : Option Seat
  /-- Is the session waiting for a game? -/
  seeking : Bool
  network : Network
  hardware : UInt16
  /-- Has the client sent a ping? -/
  pinged : Bool
  /-- Does a connection still take packets out of the outbox? -/
  listening : Bool
  outbox : List Outbound

namespace Session

/-- The session of a client that has just connected. -/
def connected (peer : Option Address) : Session where
  peer
  registered := true
  player := none
  seat := none
  seeking := false
  network := .unknown
  hardware := 0
  pinged := false
  listening := true
  outbox := []

instance : Inhabited Session := ⟨connected none⟩

/-- Queues an entry, unless nobody is listening. -/
def deliver (s : Session) (entry : Outbound) : Session :=
  if s.listening then { s with outbox := s.outbox ++ [entry] } else s

def push (s : Session) (p : Packet) : Session := s.deliver (.single p)

/-- Queues packets to be written together.  Without packets nothing is queued. -/
def pushAll (s : Session) (ps : List Packet) : Session :=
  if ps.isEmpty then s else s.deliver (.batch ps)

/-- Lets go of the outbox. -/
def close (s : Session) : Session := { s with listening := false, outbox := [] }

def isLoggedIn (s : Session) : Bool := s.player.isSome

/-- Links the session to a seat.  A session linked to another game is refused, with that game. -/
def claim (s : Session) (seat : Seat) : Except GameId Session :=
  match s.seat with
  | some held =>
    if held.game = seat.game then .ok { s with seat := some seat } else .error held.game
  | none => .ok { s with seat := some seat }

/-- Unlinks the session from a game, if it is linked to that one. -/
def leave (s : Session) (game : GameId) : Session :=
  if s.seat.any fun held => held.game = game then { s with seat := none } else s

end Session

end Lobby
