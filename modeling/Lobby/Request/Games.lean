import Lobby.Request.Handler

/-!
# Requests about games

Creating games, changing them, removing players, and looking for a game.  All of it takes a login;
then the request is checked as a whole before anything happens.
-/

namespace Lobby.Games

/-- What a request about a game needs: the player who asks, the content, and the id of a registered
game. -/
def checkGame (server : Server) (session : SessionId) (request : Packet) :
    Except Refusal (Player × Content × GameId × Game) := do
  let player ← Check.player server session request
  let content ← Check.content request
  let id ← Check.field (content.requireUInt32 Field.gid)
  match server.findGame? id with
  | some game => return (player, content, id, game)
  | none => throw (.failed (.gameNotFound id))

/-! ## Creating -/

/-- The attributes and the setting of a new game. -/
def checkCreation : Check (Attributes × UInt16) := fun server session request => do
  let _ ← Check.player server session request
  let content ← Check.content request
  let setting ←
    match content.varint? Field.gset with
    | some _ => Check.field (content.requireUInt16 Field.gset)
    | none => .ok 0
  return ((content.attributes? Field.attr).getD ∅, setting)

/-- Leaves everything and creates a game.  If the session turns out to be in one, it leaves that as
well and tries again. -/
def leaveAndCreate (server : Server) (session : SessionId) (attributes : Attributes)
    (setting : UInt16) : Except Error GameId × Server :=
  let server := server.leaveActivities session Server.leftReason
  match server.createGame session attributes setting with
  | (.error (.alreadyInGame _ _), server) =>
    (server.leaveActivities session Server.leftReason).createGame session attributes setting
  | created => created

/-- Creates a game and offers it to the queue. -/
def createGame : Handler :=
  .checked checkCreation fun server session request (attributes, setting) =>
    match leaveAndCreate server session attributes setting with
    | (.error cause, server) => (.refused (.failed cause), server)
    | (.ok id, server) =>
      let (placed, server) := (server.count Metrics.gameCreated).offer id
      (.replied [request.response [.nat Field.gid id.toNat]],
        server.count fun m => m.seekersMatched (UInt64.ofNat placed.length))

/-! ## Changing -/

def checkAttributes : Check (GameId × Attributes) := fun server session request => do
  let (_, content, id, _) ← checkGame server session request
  return (id, ← Check.field (content.requireAttributes Field.attr))

/-- Adds to the attributes of a game and sends all of them to its members. -/
def setAttributes : Handler :=
  .acting checkAttributes fun server _ (id, attributes) =>
    (server.addAttributes id attributes).broadcastAttributes id

def checkNumber (label : Label) : Check (GameId × UInt16) := fun server session request => do
  let (_, content, id, _) ← checkGame server session request
  return (id, ← Check.field (content.requireUInt16 label))

def advanceState : Handler :=
  .acting (checkNumber Field.gsta) fun server _ (id, state) => server.setState id state

def setSettings : Handler :=
  .acting (checkNumber Field.gset) fun server _ (id, setting) => server.setSetting id setting

/-! ## Members -/

/-- The game, the player and the reason of a removal. -/
def checkRemoval : Check (GameId × PlayerId × Int64) := fun server session request => do
  let _ ← Check.player server session request
  let content ← Check.content request
  let id ← Check.field (content.requireUInt32 Field.gid)
  let player ← Check.field (content.requireUInt32 Field.pid)
  match server.findGame? id with
  | some _ => return (id, player, (content.varint? Field.reas).getD Server.leftReason)
  | none => throw (.failed (.gameNotFound id))

def removePlayer : Handler :=
  .acting checkRemoval fun server _ (id, player, reason) =>
    match server.removePlayer id player reason with
    | (.ok .emptied, server) => server.count Metrics.gameReleased
    | (_, server) => server

/-- The status of a mesh connection that is up. -/
def meshConnected : Int64 := 0x2

/-- Does a request say that a connection is up? -/
def reportsConnection (content : Content) : Bool :=
  match content.items? Field.targ with
  | some (.groups targets) =>
    targets.any fun t => Content.varint? t.fields Field.stat == some meshConnected
  | _ => false

/-- Who has joined which game, if the request says so: a member who is not the host and has a
connection. -/
def checkMesh : Check (Option (GameId × PlayerId)) := fun server session request => do
  let (player, content, id, game) ← checkGame server session request
  if reportsConnection content ∧ game.host ≠ session ∧ game.hasPlayer player.id then
    return some (id, player.id)
  else return none

/-- Tells the members of a game that one of them has joined for good. -/
def updateMeshConnection : Handler :=
  .acting checkMesh fun server _ joined =>
    match joined with
    | some (id, player) => server.broadcast id (Notice.playerJoinCompleted id player) none
    | none => server

/-! ## Matchmaking -/

/-- The rules of a search.  Without criteria every game will do. -/
def checkSearch : Check RuleSet := fun server session request => do
  let _ ← Check.player server session request
  let content ← Check.content request
  return ((content.group? Field.crit).map RuleSet.ofCriteria).getD .empty

/-- Joins the oldest game that suits, or waits for one.  The reply only says that the search has
begun; the notice of a game's setup says that it has ended. -/
def startMatchmaking : Handler :=
  .checked checkSearch fun server session request rules =>
    let reply := request.response [.nat Field.msid session.toNat]
    let server := server.leaveActivities session Server.leftReason
    match server.matchOrEnqueue session rules with
    | (none, server) => (.replied [reply], server.count Metrics.seekerQueued)
    | (some id, server) =>
      match server.join id session .matchmaking with
      | (.ok _, server) => (.replied [reply], server.count fun m => m.seekersMatched 1)
      | (.error (.gameFull _), server) | (.error (.gameNotFound _), server) =>
        (.replied [reply], (server.enqueue session rules).count Metrics.seekerQueued)
      | (.error (.alreadyInGame _ _), server) => (.replied [reply], server)
      | (.error cause, server) => (.refused (.failed cause), server)

/-- Ends a search.  Only a session that was seeking is told so. -/
def cancelMatchmaking : Handler :=
  .acting Check.player fun server session player =>
    match server.withdraw session with
    | (true, server) => server.push session (Notice.matchmakingFailed session player.id)
    | (false, server) => server

end Lobby.Games
