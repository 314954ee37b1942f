import Lobby.Route
import Lobby.Session.Basic

/-!
# Notices of presence

How a session is described to other clients.  Nothing is said of a session that is not logged in.
-/

namespace Lobby.Session

/-- The letters `enUS` as a number. -/
def defaultLocale : Nat := 0x656E5553

/-- The flags of a user who is present and whose data is current. -/
def presentFlags : Nat := 0x3

/-- How the list of a user's memberships names a game. -/
def membership (game : GameId) : Int64 × Int64 × Int64 :=
  (Int64.ofNat Component.games.number.toNat, 1, Int64.ofNat game.toNat)

def extendedData (s : Session) : Record :=
  .group Field.data
    [s.network.record Field.addr, .nat Field.hwfl s.hardware.toNat,
      .list Field.ulst (.triples (s.seat.toList.map fun seat => membership seat.game))]

/-- Introduces a session. -/
def added? (s : Session) : Option Packet :=
  s.player.map fun player =>
    .notification Route.userAdded
      [s.extendedData,
        .group Field.user
          [.nat Field.aid player.id.toNat, .nat Field.aloc defaultLocale,
            .nat Field.id player.id.toNat, .string Field.name player.name]]

/-- Says that the data of a session has changed. -/
def updated? (s : Session) : Option Packet :=
  s.player.map fun player =>
    .notification Route.userUpdated
      [s.extendedData, .nat Field.flgs presentFlags, .nat Field.id player.id.toNat]

end Lobby.Session
