import Lobby.Game.Basic
import Lobby.Session.Notice

/-!
# Notices about games

What the members of a game are told: the game as a whole when they come in, and every change after
that.
-/

namespace Lobby

/-- A member with the addresses of its session. -/
structure Participant where
  member : Member
  network : Network

/-- Everything a newcomer is told about a game. -/
structure GameSetup where
  game : GameId
  mid : UInt32
  host : Participant
  state : UInt16
  setting : UInt16
  attributes : Attributes
  members : List Participant

namespace Notice

/-- The discriminants of the reason of a setup. -/
def createdReason : Discriminant := ⟨0x0, by decide⟩
def matchmakingReason : Discriminant := ⟨0x3, by decide⟩

/-- The result of a search that was cancelled. -/
def cancelledResult : Nat := 0x4

def participant (game : GameId) (p : Participant) : Content :=
  [.blob Field.blob [], .nat Field.gid game.toNat, .nat Field.loc Session.defaultLocale,
    .string Field.name p.member.player.name, .nat Field.pid p.member.player.id.toNat,
    p.network.record Field.pnet, .nat Field.sid p.member.slot, .nat Field.stat 0,
    .nat Field.uid p.member.session.toNat]

def setupReason (setup : GameSetup) : JoinContext → Record
  | .created => .union Field.reas createdReason (.group Field.valu [.nat Field.dctx 0])
  | .matchmaking =>
    .union Field.reas matchmakingReason
      (.group Field.valu
        [.nat Field.msid setup.mid.toNat, .nat Field.usid setup.host.member.player.id.toNat])

/-- The players whose session is the host's. -/
def administrators (setup : GameSetup) : List Int64 :=
  (setup.members.filter fun p => p.member.session = setup.host.member.session).map fun p =>
    Int64.ofNat p.member.player.id.toNat

/-- The whole game, for a member that has just come in. -/
def gameSetup (setup : GameSetup) (context : JoinContext) : Packet :=
  .notification Route.gameSetup
    [.group Field.game
        [.list Field.admn (.varints (administrators setup)),
          .attributes Field.attr setup.attributes,
          .varintList Field.cap [Int64.ofNat gameCapacity, 0], .nat Field.gid setup.game.toNat,
          .string Field.gnam setup.host.member.player.name,
          .nat Field.gset setup.setting.toNat, .nat Field.gsta setup.state.toNat,
          setup.host.network.record Field.hnet,
          .group Field.host
            [.nat Field.hpid setup.host.member.player.id.toNat,
              .nat Field.hslt setup.host.member.slot]],
      .list Field.pros
        (.groups (setup.members.map fun p => .mk false (participant setup.game p))),
      setupReason setup context]

/-- Tells the host to expect a member. -/
def playerJoining (game : GameId) (p : Participant) : Packet :=
  .notification Route.playerJoining
    [.nat Field.gid game.toNat, .group Field.pdat (participant game p)]

def playerJoinCompleted (game : GameId) (player : PlayerId) : Packet :=
  .notification Route.playerJoinCompleted
    [.nat Field.gid game.toNat, .nat Field.pid player.toNat]

def playerRemoved (game : GameId) (player : PlayerId) (reason : Int64) : Packet :=
  .notification Route.playerRemoved
    [.nat Field.cntx 0, .nat Field.gid game.toNat, .nat Field.pid player.toNat,
      .varint Field.reas reason]

def gameAttributesChanged (game : GameId) (attributes : Attributes) : Packet :=
  .notification Route.gameAttributesChanged
    [.attributes Field.attr attributes, .nat Field.gid game.toNat]

def gameStateChanged (game : GameId) (state : UInt16) : Packet :=
  .notification Route.gameStateChanged [.nat Field.gid game.toNat, .nat Field.gsta state.toNat]

def gameSettingsChanged (game : GameId) (setting : UInt16) : Packet :=
  .notification Route.gameSettingsChanged
    [.nat Field.attr setting.toNat, .nat Field.gid game.toNat]

/-- Tells a session that its search for a game has ended without one. -/
def matchmakingFailed (session : SessionId) (player : PlayerId) : Packet :=
  .notification Route.matchmakingFailed
    [.nat Field.maxf 0, .nat Field.msid session.toNat, .nat Field.rslt cancelledResult,
      .nat Field.usid player.toNat]

end Notice

end Lobby
