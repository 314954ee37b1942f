import Lobby.Error
import Lobby.Game.Notice
import Lobby.Game.Rules
import Lobby.Metrics
import Lobby.Store

/-!
# The server

A server is every session and every game there has ever been, the queue of sessions that look for
a game, the store and the counters.  Sessions and games that can no longer be found by their ids
are kept: a session that is gone still has its link, and a game that is gone still has its roster.

Sessions are numbered from one.  Pushing a packet only queues it in the outbox of a session.
-/

namespace Lobby

/-- A session that waits for a game. -/
structure Seeker where
  session : SessionId
  rules : RuleSet
  deriving DecidableEq, Repr

structure Server where
  sessions : SortedMap SessionId Session
  /-- The id of the next session. -/
  nextSession : SessionId
  games : SortedMap GameId Game
  /-- The number of games created. -/
  created : UInt32
  /-- The oldest seeker comes first. -/
  queue : List Seeker
  store : Store
  metrics : Metrics
  /-- The time, in seconds since 1970. -/
  clock : UInt64

namespace Server

def start (store : Store) : Server where
  sessions := ∅
  nextSession := 1
  games := ∅
  created := 0
  queue := []
  store
  metrics := {}
  clock := 0

/-! ## Sessions -/

def session (s : Server) (id : SessionId) : Session := (s.sessions.get? id).getD default

def updateSession (s : Server) (id : SessionId) (f : Session → Session) : Server :=
  { s with sessions := s.sessions.modify id f }

/-- The session with an id, if it is registered. -/
def findSession? (s : Server) (id : SessionId) : Option Session :=
  (s.sessions.get? id).filter (·.registered)

/-- The registered session that is logged in as a player.  Of several it is the oldest. -/
def findPlayer? (s : Server) (player : PlayerId) : Option SessionId :=
  (s.sessions.entries.find? fun e =>
    e.2.registered && e.2.player.any fun p => p.id = player).map (·.1)

def sessionCount (s : Server) : Nat := (s.sessions.values.filter (·.registered)).length

/-- Registers a new session. -/
def connect (s : Server) (peer : Option Address) : SessionId × Server :=
  (s.nextSession,
    { s with
      sessions := s.sessions.insert s.nextSession (.connected peer)
      nextSession := s.nextSession + 1 })

/-- Takes a session out of the register. -/
def deregister (s : Server) (id : SessionId) : Server :=
  s.updateSession id fun session => { session with registered := false }

/-- Lets go of the outbox of a session. -/
def close (s : Server) (id : SessionId) : Server := s.updateSession id Session.close

def setPlayer (s : Server) (id : SessionId) (player : Option Player) : Server :=
  s.updateSession id fun session => { session with player }

def setSeeking (s : Server) (id : SessionId) (seeking : Bool) : Server :=
  s.updateSession id fun session => { session with seeking }

def setNetwork (s : Server) (id : SessionId) (network : Network) : Server :=
  s.updateSession id fun session => { session with network }

def setHardware (s : Server) (id : SessionId) (hardware : UInt16) : Server :=
  s.updateSession id fun session => { session with hardware }

def recordPing (s : Server) (id : SessionId) : Server :=
  s.updateSession id fun session => { session with pinged := true }

/-- Links a session to a seat, unless it is linked to another game. -/
def claim (s : Server) (id : SessionId) (seat : Seat) : Except GameId Server :=
  (Session.claim (s.session id) seat).map fun session => s.updateSession id fun _ => session

/-- Unlinks a session from a game, if it is linked to that one. -/
def unlink (s : Server) (id : SessionId) (game : GameId) : Server :=
  s.updateSession id fun session => session.leave game

/-! ## Packets for sessions -/

def push (s : Server) (id : SessionId) (p : Packet) : Server :=
  s.updateSession id fun session => session.push p

def pushAll (s : Server) (id : SessionId) (ps : List Packet) : Server :=
  s.updateSession id fun session => session.pushAll ps

/-- Pushes a packet to each of several sessions. -/
def pushEach (s : Server) (ids : List SessionId) (p : Packet) : Server :=
  ids.foldl (fun s id => s.push id p) s

/-- Empties the outbox of a session. -/
def drain (s : Server) (id : SessionId) : List Outbound × Server :=
  ((s.session id).outbox, s.updateSession id fun session => { session with outbox := [] })

/-! ## Games -/

/-- The game with an id, if it is registered. -/
def findGame? (s : Server) (id : GameId) : Option Game :=
  (s.games.get? id).filter (·.registered)

def registeredGames (s : Server) : List (GameId × Game) :=
  s.games.entries.filter fun e => e.2.registered

def gameCount (s : Server) : Nat := s.registeredGames.length

def updateGame (s : Server) (id : GameId) (f : Game → Game) : Server :=
  { s with games := s.games.modify id f }

/-- The oldest registered game that is active and passes a test. -/
def firstGame? (s : Server) (test : Game → Bool) : Option GameId :=
  (s.registeredGames.find? fun e => e.2.active && test e.2).map (·.1)

/-- Takes a game out of the register. -/
def release (s : Server) (id : GameId) : Server :=
  s.updateGame id fun game => { game with registered := false }

/-! ## The queue and the counters -/

def setQueue (s : Server) (queue : List Seeker) : Server := { s with queue }

def isQueued (s : Server) (session : SessionId) : Bool := s.queue.any (·.session = session)

def count (s : Server) (f : Metrics → Metrics) : Server := { s with metrics := f s.metrics }

/-! ## Report -/

/-- A summary in one line. -/
def describe (s : Server) : String :=
  "ServerState \x7b sessions: " ++ toString s.sessionCount ++ ", games: " ++ toString s.gameCount ++
    ", queued: " ++ toString s.queue.length ++ ", .. \x7d"

end Server

end Lobby
