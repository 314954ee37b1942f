import Lobby.Address
import Lobby.Config.Basic
import Lobby.Error

/-!
# Checking a configuration

Every fault of a configuration has its own text.  A field has at most one fault.
-/

namespace Lobby

/-- The first text whose test holds. -/
def firstFault (tests : List (Bool × String)) : List String :=
  ((tests.find? (·.1)).map (·.2)).toList

namespace Limits

def addressFaults (l : Limits) : List String :=
  firstFault
    [(l.address.isEmpty, "Server address cannot be empty"),
      ((Address.ofString? l.address).isNone,
        "Invalid server address format: '" ++ l.address ++
          "' (expected format: '0.0.0.0:14219')")]

def connectionFaults (l : Limits) : List String :=
  firstFault
    [(l.maxConnections == 0, "Max connections must be greater than 0"),
      (100000 < l.maxConnections,
        "Max connections very high: " ++ toString l.maxConnections.toNat ++
          " (ensure system resources can support this)")]

def workerFaults (l : Limits) : List String :=
  firstFault
    [(l.handlerWorkers == 0, "Handler workers must be greater than 0"),
      (512 < l.handlerWorkers,
        "Handler workers too high: " ++ toString l.handlerWorkers.toNat ++ " (maximum: 512)")]

/-- A frame must be able to carry every length of sixteen bits, and cannot carry more than
thirty-two. -/
def packetFaults (l : Limits) : List String :=
  firstFault
    [(l.maxPacketSize < 0xffff, "Max packet size too small (minimum: 65535 bytes)"),
      (maxExpressible < l.maxPacketSize.toNat,
        "Max packet size too large: " ++ toString l.maxPacketSize.toNat ++ " bytes (maximum: " ++
          toString maxExpressible ++ ")")]

/-- Only whole seconds count. -/
def timeoutFaults (l : Limits) : List String :=
  let seconds := l.shutdownTimeout / 1000
  firstFault
    [(seconds < 1, "Shutdown timeout too short (minimum: 1s)"),
      (60 < seconds, "Shutdown timeout too long (maximum: 60s)")]

def faults (l : Limits) : List String :=
  l.addressFaults ++ l.connectionFaults ++ l.workerFaults ++ l.packetFaults ++ l.timeoutFaults

end Limits

namespace Logging

def faults (l : Logging) : List String :=
  firstFault
    [(l.appName.isEmpty, "Application name cannot be empty"),
      (64 < l.appName.utf8ByteSize,
        "Application name too long: " ++ toString l.appName.utf8ByteSize ++
          " characters (maximum: 64)")]

end Logging

namespace Config

def faults (c : Config) : List String := c.server.faults ++ c.logging.faults

/-- Refuses a configuration with faults, and lists them. -/
def validate (c : Config) : Except Error Unit :=
  if c.faults.isEmpty then .ok ()
  else
    .error (.config
      ("Configuration validation failed:\n  - " ++ "\n  - ".intercalate c.faults))

end Config

end Lobby
