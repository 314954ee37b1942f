import Lobby.Server.Basic

/-!
# Members of games

Creating a game, joining it and being removed from it, each with the notices it takes.  A session
is linked to at most one game, so a session that is linked elsewhere can neither create nor join a
game.

A newcomer and the members before it are introduced to each other; the newcomer is then told the
whole game, and the host to expect it.  A removal is told to everybody who was a member.
-/

namespace Lobby.Server

/-- What the setup notice of a game says, if its host is a member. -/
def setup? (s : Server) (id : GameId) : Option GameSetup := do
  let game ← s.games.get? id
  let host ← game.hostMember?
  let participant := fun (m : Member) => (⟨m, (s.session m.session).network⟩ : Participant)
  return {
    game := game.id
    mid := game.mid
    host := participant host
    state := game.state
    setting := game.setting
    attributes := game.attributes
    members := game.roster.map participant }

/-- Sends the setup notice to the host. -/
def notifyCreated (s : Server) (id : GameId) : Server :=
  match s.setup? id with
  | none => s
  | some setup => s.push setup.host.member.session (Notice.gameSetup setup .created)

/-- Takes every inactive game out of the register. -/
def evict (s : Server) : Server :=
  { s with
    games := s.games.mapValues fun _ game =>
      { game with registered := game.registered && game.active } }

/-- Creates a game with a session as its host, and registers it.  Games and their ids in matchmaking
are numbered side by side. -/
def createGame (s : Server) (host : SessionId) (attributes : Attributes) (setting : UInt16) :
    Except Error GameId × Server :=
  let s := s.evict
  match (s.session host).player with
  | none => (.error (.unauthenticated host), s)
  | some player =>
    let id := 1 + s.created
    let mid := 0x10000001 + s.created
    match s.claim host ⟨id, 0⟩ with
    | .error other => (.error (.alreadyInGame host other), s)
    | .ok s =>
      let game := Game.hosted id mid host player attributes setting
      let s := { s with games := s.games.insert id game, created := s.created + 1 }
      (.ok id, s.notifyCreated id)

/-- How a member before is told of a newcomer. -/
def arrival (s : Server) (newcomer : Member) (setup : GameSetup) (other : SessionId) :
    List Packet :=
  let session := s.session newcomer.session
  session.added?.toList ++ session.updated?.toList ++
    if other = setup.host.member.session then
      [Notice.playerJoining setup.game ⟨newcomer, session.network⟩]
    else []

/-- How a newcomer is told of the game and of the members before it. -/
def welcome (s : Server) (setup : GameSetup) (context : JoinContext) (others : List SessionId) :
    List Packet :=
  others.filterMap (fun other => (s.session other).added?) ++ [Notice.gameSetup setup context]

/-- Introduces a newcomer and the members before it to each other. -/
def introduce (s : Server) (id : GameId) (newcomer : Member) (context : JoinContext)
    (others : List SessionId) : Server :=
  match s.setup? id with
  | none => s
  | some setup =>
    let told := others.foldl (fun t other => t.pushAll other (s.arrival newcomer setup other)) s
    told.pushAll newcomer.session (s.welcome setup context others)

/-- Why a session cannot join a game, or the member it would join as.  A session whose player is a
member already has that member's slot. -/
def admission (s : Server) (id : GameId) (session : SessionId) :
    Except Error (Nat ⊕ (Member × Server)) :=
  match (s.session session).player, s.games.get? id with
  | none, _ => .error (.unauthenticated session)
  | some _, none => .error (.gameNotFound id)
  | some player, some game =>
    if !game.active then .error (.gameNotFound id)
    else
      match game.memberOf? player.id with
      | some member => .ok (.inl member.slot)
      | none =>
        if gameCapacity ≤ game.count then .error (.gameFull id)
        else
          let slot := game.nextSlot
          match s.claim session ⟨id, slot⟩ with
          | .error other => .error (.alreadyInGame session other)
          | .ok s => .ok (.inr (⟨session, player, slot⟩, s))

/-- Makes a session a member of a game, in the lowest free slot.  If its player is a member already,
nothing happens. -/
def join (s : Server) (id : GameId) (session : SessionId) (context : JoinContext) :
    Except Error Nat × Server :=
  match s.admission id session with
  | .error e => (.error e, s)
  | .ok (.inl slot) => (.ok slot, s)
  | .ok (.inr (newcomer, linked)) =>
    let others := ((s.games.get? id).map Game.sessions).getD []
    let joined := linked.updateGame id fun game => game.seat newcomer
    (.ok newcomer.slot, joined.introduce id newcomer context others)

/-- Removes a player from a game. -/
def dismiss (s : Server) (id : GameId) (player : PlayerId) (reason : Int64) : Removal × Server :=
  match (s.games.get? id).bind fun game => game.remove? player with
  | none => (.notMember, s)
  | some (gone, removal, game) =>
    let s := (s.updateGame id fun _ => game).unlink gone.session id
    let notice := Notice.playerRemoved id player reason
    let s := s.push gone.session notice
    let packets := notice :: (s.session gone.session).updated?.toList
    (removal, game.sessions.foldl (fun s other => s.pushAll other packets) s)

/-- Removes the player of the first member with a session. -/
def dismissSession (s : Server) (id : GameId) (session : SessionId) (reason : Int64) :
    Removal × Server :=
  match (s.games.get? id).bind fun game => game.memberAt? session with
  | none => (.notMember, s)
  | some member => s.dismiss id member.player.id reason

/-- Releases a game that a removal has emptied. -/
def releaseIfEmptied (id : GameId) : Removal × Server → Removal × Server
  | (.emptied, s) => (.emptied, s.release id)
  | r => r

/-- Removes a player from a registered game, which is released when that empties it. -/
def removePlayer (s : Server) (id : GameId) (player : PlayerId) (reason : Int64) :
    Except Error Removal × Server :=
  match s.findGame? id with
  | none => (.error (.gameNotFound id), s)
  | some _ =>
    let (removal, s) := releaseIfEmptied id (s.dismiss id player reason)
    (.ok removal, s)

/-- Takes a session out of the game it is linked to. -/
def removeSession (s : Server) (session : SessionId) (reason : Int64) : Removal × Server :=
  match (s.session session).seat with
  | none => (.notMember, s)
  | some seat =>
    match s.findGame? seat.game with
    | none => (.notMember, s.unlink session seat.game)
    | some _ => releaseIfEmptied seat.game (s.dismissSession seat.game session reason)

/-! ## Changes the members are told of -/

/-- Pushes a packet to the members of a game, one session excepted if need be. -/
def broadcast (s : Server) (id : GameId) (p : Packet) (except : Option SessionId) : Server :=
  match s.games.get? id with
  | none => s
  | some game => s.pushEach (game.sessions.filter fun m => some m ≠ except) p

def addAttributes (s : Server) (id : GameId) (attributes : Attributes) : Server :=
  s.updateGame id fun game => game.addAttributes attributes

/-- Sends the attributes of a game to its members. -/
def broadcastAttributes (s : Server) (id : GameId) : Server :=
  match s.games.get? id with
  | none => s
  | some game =>
    (s.updateGame id fun game => { game with dirty := false }).broadcast id
      (Notice.gameAttributesChanged id game.attributes) none

def setState (s : Server) (id : GameId) (state : UInt16) : Server :=
  (s.updateGame id fun game => { game with state }).broadcast id
    (Notice.gameStateChanged id state) none

def setSetting (s : Server) (id : GameId) (setting : UInt16) : Server :=
  (s.updateGame id fun game => { game with setting }).broadcast id
    (Notice.gameSettingsChanged id setting) none

end Lobby.Server
