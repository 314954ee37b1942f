import Lobby.Error
import Lobby.Packet.Frame
import Lobby.Text.Case

/-!
# Configuration

What a server can be told: where it listens and how much it takes on, and how it logs.  A
configuration starts from defaults, which environment variables may override.
-/

namespace Lobby

inductive LogLevel where
  | error
  | warn
  | info
  | debug
  | trace
  deriving DecidableEq, Repr

namespace LogLevel

def all : List LogLevel := [error, warn, info, debug, trace]

def name : LogLevel → String
  | error => "error"
  | warn => "warn"
  | info => "info"
  | debug => "debug"
  | trace => "trace"

end LogLevel

/-- Where a server listens and how much it takes on. -/
structure Limits where
  address : String
  maxConnections : UInt64
  /-- The number of requests that may be handled at once. -/
  handlerWorkers : UInt64
  /-- The greatest content of a frame, in bytes. -/
  maxPacketSize : UInt64
  /-- How long a server that shuts down waits for connections to end, in milliseconds. -/
  shutdownTimeout : UInt64
  deriving DecidableEq, Repr

structure Logging where
  appName : String
  level : LogLevel
  toConsole : Bool
  json : Bool
  deriving DecidableEq, Repr

structure Config where
  server : Limits
  logging : Logging
  deriving DecidableEq, Repr

def Limits.standard : Limits where
  address := "0.0.0.0:14219"
  maxConnections := 1024
  handlerWorkers := 16
  maxPacketSize := UInt64.ofNat defaultMaxPacketSize
  shutdownTimeout := 10000

def Logging.standard : Logging where
  appName := "blaze-protocol"
  level := .info
  toConsole := true
  json := false

/-- Logging is set up once in a process.  This is the error of doing so again. -/
def Logging.alreadyStarted : Error :=
  .custom
    "Failed to install tracing subscriber: a global default trace dispatcher has already been set"

namespace Config

def standard : Config := ⟨.standard, .standard⟩

/-! ## Numbers and levels in texts -/

/-- A number of at most 64 bits in decimal digits, with or without a plus sign. -/
def number? (s : String) : Option UInt64 :=
  let ds : List Char :=
    match s.toList with
    | '+' :: rest => rest
    | cs => cs
  let n := ds.foldl (fun n c => n * 10 + (c.toNat - '0'.toNat)) 0
  if ds.isEmpty ∨ ¬ds.all Char.isDigit ∨ UInt64.size ≤ n then none else some (UInt64.ofNat n)

/-- A level by its name, in any case, or by its number: one for errors, five for everything. -/
def level? (s : String) : Option LogLevel :=
  let byNumber :=
    match number? s with
    | some n => if n = 0 then none else LogLevel.all[n.toNat - 1]?
    | none => none
  byNumber <|> LogLevel.all.find? fun level => Text.sameUpToCase s level.name

/-! ## The environment -/

/-- Overrides a number, if a variable holds one. -/
def override (lookup : Option String) (default : UInt64) : UInt64 :=
  (lookup.bind number?).getD default

/-- The configuration that environment variables ask for.  A number that cannot be read counts for
nothing. -/
def ofEnvironment (lookup : String → Option String) : Config :=
  let s := Limits.standard
  { standard with
    server := { s with
      address := (lookup "BLAZE_SERVER_ADDRESS").getD s.address
      maxConnections := override (lookup "BLAZE_MAX_CONNECTIONS") s.maxConnections
      handlerWorkers := override (lookup "BLAZE_HANDLER_WORKERS") s.handlerWorkers
      maxPacketSize := override (lookup "BLAZE_MAX_PACKET_SIZE") s.maxPacketSize } }

end Config

end Lobby
