import Lobby.Packet.Basic

/-!
# Routes

The components of the server and the commands it serves or sends.  A route is a component with one
of its commands.
-/

namespace Lobby

/-- The components requests are routed to. -/
inductive Component where
  | authentication
  | games
  | utility
  | presence
  deriving DecidableEq, Repr

namespace Component

def number : Component → UInt16
  | authentication => 0x1
  | games => 0x4
  | utility => 0x9
  | presence => 0x7802

def all : List Component := [authentication, games, utility, presence]

def ofNumber? (n : UInt16) : Option Component := all.find? (·.number = n)

/-- The name of a component in reports. -/
def name : Component → String
  | authentication => "Authentication"
  | games => "GameManager"
  | utility => "Util"
  | presence => "UserSessions"

/-- The name reported for a component number. -/
def nameOf (n : UInt16) : String :=
  match ofNumber? n with
  | some c => c.name
  | none => "Unknown"

end Component

namespace Route

/-! ## Requests -/

def listEntitlements : Route := (Component.authentication.number, 0x1D)
def login : Route := (Component.authentication.number, 0x28)
def silentLogin : Route := (Component.authentication.number, 0x32)
def logout : Route := (Component.authentication.number, 0x46)

def createGame : Route := (Component.games.number, 0x1)
def advanceGameState : Route := (Component.games.number, 0x3)
def setGameSettings : Route := (Component.games.number, 0x4)
def setGameAttributes : Route := (Component.games.number, 0x7)
def removePlayer : Route := (Component.games.number, 0xB)
def startMatchmaking : Route := (Component.games.number, 0xF)
def cancelMatchmaking : Route := (Component.games.number, 0x10)
def updateMeshConnection : Route := (Component.games.number, 0x1D)

def fetchClientConfig : Route := (Component.utility.number, 0x1)
def ping : Route := (Component.utility.number, 0x2)
def preAuth : Route := (Component.utility.number, 0x7)
def postAuth : Route := (Component.utility.number, 0x8)
def saveSetting : Route := (Component.utility.number, 0xB)
def loadSettings : Route := (Component.utility.number, 0xC)

def updateHardwareFlags : Route := (Component.presence.number, 0x8)
def updateNetworkInfo : Route := (Component.presence.number, 0x14)

/-! ## Notices -/

def matchmakingFailed : Route := (Component.games.number, 0xA)
def gameSetup : Route := (Component.games.number, 0x14)
def playerJoining : Route := (Component.games.number, 0x15)
def playerJoinCompleted : Route := (Component.games.number, 0x1E)
def playerRemoved : Route := (Component.games.number, 0x28)
def gameAttributesChanged : Route := (Component.games.number, 0x50)
def gameStateChanged : Route := (Component.games.number, 0x64)
def gameSettingsChanged : Route := (Component.games.number, 0x6E)

def userUpdated : Route := (Component.presence.number, 0x1)
def userAdded : Route := (Component.presence.number, 0x2)

end Route

end Lobby
