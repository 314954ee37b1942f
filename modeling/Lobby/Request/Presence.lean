import Lobby.Request.Handler
import Lobby.Session.Notice

/-!
# Reports of a session

A client reports its addresses and the flags of its hardware.  The members of its game, or without
one the client itself, get the new data.
-/

namespace Lobby.Presence

/-- Sends the data of a session to its game, or to itself. -/
def refresh (server : Server) (session : SessionId) : Server :=
  let reporter := server.session session
  match reporter.updated? with
  | none => server
  | some notice =>
    let game := reporter.seat.bind fun seat => (server.findGame? seat.game).map fun _ => seat.game
    match game with
    | some id => server.broadcast id notice none
    | none => server.push session notice

/-- The addresses in a request. -/
def checkNetwork : Check Network := fun _ _ request => do
  let content ← Check.content request
  match (content.field? Field.addr).bind fun r => r.value.toUnion? with
  | none => throw (.missingField Field.addr)
  | some union => Check.field (Network.read union)

def updateNetworkInfo : Handler :=
  .acting checkNetwork fun server session network =>
    refresh (server.setNetwork session network) session

/-- The flags in a request. -/
def checkHardware : Check UInt16 := fun _ _ request => do
  let content ← Check.content request
  Check.field (content.requireUInt16 Field.hwfg)

def updateHardwareFlags : Handler :=
  .acting checkHardware fun server session hardware =>
    refresh (server.setHardware session hardware) session

end Lobby.Presence
