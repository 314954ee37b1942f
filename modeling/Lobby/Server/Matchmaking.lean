import Lobby.Server.Membership

/-!
# Matchmaking

A session that looks for a game gets the oldest one that suits it, or waits in the queue.  A new
game is offered to the queue, oldest seekers first, and never to more of them than it has free
slots.

A session is marked as seeking while it waits, and while a game it was taken off the queue for is
being joined.  A seeker that could not join because the game was full or gone is put back in
front.
-/

namespace Lobby.Server

/-- Puts a session at the end of the queue, in the place of an earlier entry of its own. -/
def enqueue (s : Server) (session : SessionId) (rules : RuleSet) : Server :=
  (s.setQueue (s.queue.filter (·.session ≠ session) ++ [⟨session, rules⟩])).setSeeking session true

/-- The oldest joinable game that satisfies some rules. -/
def findMatch? (s : Server) (rules : RuleSet) : Option GameId :=
  s.firstGame? fun game => game.isJoinable && rules.accepts game.attributes

/-- The game for a session to join.  Without one the session is queued. -/
def matchOrEnqueue (s : Server) (session : SessionId) (rules : RuleSet) : Option GameId × Server :=
  match s.findMatch? rules with
  | some id => (some id, s)
  | none => (none, s.enqueue session rules)

/-- Takes a session off the queue, and says whether it was seeking. -/
def withdraw (s : Server) (session : SessionId) : Bool × Server :=
  (s.isQueued session || (s.session session).seeking,
    (s.setQueue (s.queue.filter (·.session ≠ session))).setSeeking session false)

/-- Splits off the first seekers that are suited, at most `limit` of them. -/
def split (suited : Seeker → Bool) : (limit : Nat) → List Seeker → List Seeker × List Seeker
  | 0, queue => ([], queue)
  | _, [] => ([], [])
  | limit + 1, seeker :: queue =>
    if suited seeker then
      let (taken, kept) := split suited limit queue
      (seeker :: taken, kept)
    else
      let (taken, kept) := split suited (limit + 1) queue
      (taken, seeker :: kept)

/-- Is a seeker still there, and satisfied by some attributes? -/
def suits (s : Server) (attributes : Attributes) (seeker : Seeker) : Bool :=
  (s.session seeker.session).listening && seeker.rules.accepts attributes

/-- A session is no longer seeking, unless it has been queued again. -/
def settle (s : Server) (session : SessionId) : Server :=
  if s.isQueued session then s else s.setSeeking session false

/-- What became of seekers that were offered a game, in order. -/
structure Placement where
  placed : List SessionId
  refused : List Seeker

/-- Lets seekers join a game one by one. -/
def place (s : Server) (id : GameId) : List Seeker → Placement × Server
  | [] => (⟨[], []⟩, s)
  | seeker :: rest =>
    let (outcome, s) := s.join id seeker.session .matchmaking
    match outcome with
    | .ok _ =>
      let (p, s) := (s.settle seeker.session).place id rest
      (⟨seeker.session :: p.placed, p.refused⟩, s)
    | .error (.gameFull _) | .error (.gameNotFound _) =>
      let (p, s) := s.place id rest
      (⟨p.placed, seeker :: p.refused⟩, s)
    | .error _ => (s.settle seeker.session).place id rest

/-- Puts a seeker back in front, unless it has withdrawn, has gone or has been queued again. -/
def putBack (seeker : Seeker) (s : Server) : Server :=
  let session := s.session seeker.session
  if session.seeking && session.listening && !s.isQueued seeker.session then
    s.setQueue (seeker :: s.queue)
  else s

/-- Offers a game to the queue.  Gives the sessions that joined it. -/
def offer (s : Server) (id : GameId) : List SessionId × Server :=
  match s.games.get? id with
  | none => ([], s)
  | some game =>
    let (taken, kept) := split (s.suits game.attributes) game.freeSlots s.queue
    let (placement, s) := (s.setQueue kept).place id taken
    (placement.placed, placement.refused.foldr putBack s)

/-! ## Leaving -/

/-- The reason of a removal when the connection has gone. -/
def disconnectedReason : Int64 := 0x1

/-- The reason of a removal when the player left. -/
def leftReason : Int64 := 0x6

/-- Takes a session off the queue and out of its game. -/
def leaveActivities (s : Server) (session : SessionId) (reason : Int64) : Server :=
  let (_, s) := s.withdraw session
  match s.removeSession session reason with
  | (.emptied, s) => s.count Metrics.gameReleased
  | (_, s) => s

/-- What happens when the connection of a session has gone. -/
def disconnect (s : Server) (session : SessionId) : Server :=
  (s.leaveActivities session disconnectedReason).deregister session

end Lobby.Server
