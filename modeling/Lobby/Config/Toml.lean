import Lobby.Config.Basic
import Lobby.Error
import Lobby.Toml.Document
import Lobby.Toml.Quoted

/-!
# Configuration files

A configuration is read from a TOML document with a table for each of its parts.  A part that is
missing has its defaults, but a part that is there must be complete.  Keys that mean nothing are
passed over.  A part may also be written as an array of its fields in order.

What is written is read back as the same configuration (the numbers of a document have 63 bits, so a
greater one cannot be written).
-/

namespace Lobby

open Toml (Item Entries)

namespace Config

/-! ## Reading -/

def asText? : Item → Option String
  | .string s => some s
  | _ => none

def asNumber? : Item → Option UInt64
  | .integer n => if 0 ≤ n.toInt then some (UInt64.ofNat n.toInt.toNat) else none
  | _ => none

def asFlag? : Item → Option Bool
  | .boolean b => some b
  | _ => none

/-- The fields of a part, by their names or, in an array, by their places. -/
def fields? (names : List String) : Item → Option (List Item)
  | .table _ entries => names.mapM fun name => Entries.get? entries name
  | .array items => if names.length ≤ items.length then some (items.take names.length) else none
  | _ => none

def limits? (item : Item) : Option Limits := do
  let names :=
    ["address", "max_connections", "handler_workers", "max_packet_size", "shutdown_timeout"]
  match ← fields? names item with
  | [address, connections, workers, size, timeout] =>
    return {
      address := ← asText? address
      maxConnections := ← asNumber? connections
      handlerWorkers := ← asNumber? workers
      maxPacketSize := ← asNumber? size
      shutdownTimeout := ← asNumber? timeout }
  | _ => none

def logging? (item : Item) : Option Logging := do
  match ← fields? ["app_name", "log_level", "log_to_console", "json_format"] item with
  | [name, level, console, json] =>
    return {
      appName := ← asText? name
      level := ← (asText? level).bind level?
      toConsole := ← asFlag? console
      json := ← asFlag? json }
  | _ => none

/-- Reads a part of a document, or takes its defaults. -/
def part? {α : Type} (read : Item → Option α) (default : α) : Option Item → Option α
  | some item => read item
  | none => some default

def ofEntries? (entries : Entries) : Option Config := do
  return {
    server := ← part? limits? .standard (entries.get? "server")
    logging := ← part? logging? .standard (entries.get? "logging") }

/-- The configuration that a document holds. -/
def ofToml (text : String) : Except Error Config :=
  match (Toml.parse? text).bind ofEntries? with
  | some config => .ok config
  | none => .error (.config "Failed to parse TOML")

/-- The configuration in a file with this content, if there is a file. -/
def ofFile : Option Bytes → Except Error Config
  | none => .error (.config "Failed to open config file: No such file or directory (os error 2)")
  | some bytes =>
    match Bytes.toString? bytes with
    | some text => ofToml text
    | none => .error (.config "Failed to read config file: stream did not contain valid UTF-8")

/-! ## Writing -/

/-- A line of a document. -/
def line (name value : String) : String := name ++ " = " ++ value ++ "\n"

def flagText (b : Bool) : String := if b then "true" else "false"

/-- A number, if a document can hold it. -/
def numberText? (n : UInt64) : Option String :=
  if n.toNat < 0x8000000000000000 then some (toString n.toNat) else none

def toToml? (c : Config) : Option String := do
  return "[server]\n" ++
    line "address" (Toml.quote c.server.address) ++
    line "max_connections" (← numberText? c.server.maxConnections) ++
    line "handler_workers" (← numberText? c.server.handlerWorkers) ++
    line "max_packet_size" (← numberText? c.server.maxPacketSize) ++
    line "shutdown_timeout" (← numberText? c.server.shutdownTimeout) ++
    "\n[logging]\n" ++
    line "app_name" (Toml.quote c.logging.appName) ++
    line "log_level" (Toml.quote c.logging.level.name) ++
    line "log_to_console" (flagText c.logging.toConsole) ++
    line "json_format" (flagText c.logging.json)

/-- The document of a configuration. -/
def toToml (c : Config) : Except Error String :=
  match c.toToml? with
  | some text => .ok text
  | none => .error (.config "Failed to serialize config")

/-- A document with the defaults. -/
def example? : Option String := standard.toToml?

end Config

end Lobby
