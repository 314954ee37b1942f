/-!
# Metrics

Counters of what the server has done.  They count modulo 2^64.
-/

namespace Lobby

structure Metrics where
  /-- Connections accepted. -/
  connectionsTotal : UInt64 := 0
  /-- Connections open now. -/
  connectionsActive : UInt64 := 0
  /-- Connections refused because too many were open. -/
  connectionsRejected : UInt64 := 0
  packetsReceived : UInt64 := 0
  packetsSent : UInt64 := 0
  bytesReceived : UInt64 := 0
  bytesSent : UInt64 := 0
  /-- Requests that no route serves. -/
  unknownCommands : UInt64 := 0
  /-- Requests that failed for a cause the client is not told. -/
  handlerFailures : UInt64 := 0
  /-- Requests refused because the session is not logged in. -/
  authRejections : UInt64 := 0
  /-- Requests refused with a code. -/
  domainErrors : UInt64 := 0
  gamesCreated : UInt64 := 0
  gamesReleased : UInt64 := 0
  matchmakingQueued : UInt64 := 0
  matchmakingMatched : UInt64 := 0
  /-- Connections dropped because of a frame. -/
  protocolErrors : UInt64 := 0
  deriving DecidableEq, Repr

namespace Metrics

def connectionEstablished (m : Metrics) : Metrics :=
  { m with
    connectionsTotal := m.connectionsTotal + 1
    connectionsActive := m.connectionsActive + 1 }

def connectionClosed (m : Metrics) : Metrics :=
  { m with connectionsActive := m.connectionsActive - 1 }

def connectionRejected (m : Metrics) : Metrics :=
  { m with connectionsRejected := m.connectionsRejected + 1 }

/-- Counts a received frame of `size` bytes. -/
def packetReceived (m : Metrics) (size : UInt64) : Metrics :=
  { m with packetsReceived := m.packetsReceived + 1, bytesReceived := m.bytesReceived + size }

/-- Counts a sent frame of `size` bytes. -/
def packetSent (m : Metrics) (size : UInt64) : Metrics :=
  { m with packetsSent := m.packetsSent + 1, bytesSent := m.bytesSent + size }

def unknownCommand (m : Metrics) : Metrics := { m with unknownCommands := m.unknownCommands + 1 }

def handlerFailure (m : Metrics) : Metrics := { m with handlerFailures := m.handlerFailures + 1 }

def authRejected (m : Metrics) : Metrics := { m with authRejections := m.authRejections + 1 }

def domainError (m : Metrics) : Metrics := { m with domainErrors := m.domainErrors + 1 }

def gameCreated (m : Metrics) : Metrics := { m with gamesCreated := m.gamesCreated + 1 }

def gameReleased (m : Metrics) : Metrics := { m with gamesReleased := m.gamesReleased + 1 }

def seekerQueued (m : Metrics) : Metrics := { m with matchmakingQueued := m.matchmakingQueued + 1 }

/-- Counts `count` sessions that found a game. -/
def seekersMatched (m : Metrics) (count : UInt64) : Metrics :=
  { m with matchmakingMatched := m.matchmakingMatched + count }

def protocolError (m : Metrics) : Metrics := { m with protocolErrors := m.protocolErrors + 1 }

/-- Every counter under the name it is reported by. -/
def counters (m : Metrics) : List (String × UInt64) :=
  [("connections_total", m.connectionsTotal), ("connections_active", m.connectionsActive),
    ("connections_rejected", m.connectionsRejected), ("packets_received", m.packetsReceived),
    ("packets_sent", m.packetsSent), ("bytes_received", m.bytesReceived),
    ("bytes_sent", m.bytesSent), ("unknown_commands", m.unknownCommands),
    ("handler_failures", m.handlerFailures), ("auth_rejections", m.authRejections),
    ("domain_errors", m.domainErrors), ("games_created", m.gamesCreated),
    ("games_released", m.gamesReleased), ("matchmaking_queued", m.matchmakingQueued),
    ("matchmaking_matched", m.matchmakingMatched), ("protocol_errors", m.protocolErrors)]

end Metrics

end Lobby
