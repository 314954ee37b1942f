import Lobby.Connection
import Lobby.HostName

/-!
# Listening

A listener accepts clients up to a limit and runs their connections against one server.  Whatever
happens on one connection, the others then write what was queued for their clients.  A connection
stays in the list when it has ended, with what its client got.
-/

namespace Lobby

/-- A client of a listener. -/
structure Client where
  connection : Connection
  isOpen : Bool

structure Listener where
  router : Router
  maxConnections : Nat
  /-- The greatest content of a frame. -/
  maxPacketSize : Nat
  server : Server
  /-- The accepted clients, the latest last. -/
  clients : List Client

namespace Listener

def openCount (l : Listener) : Nat := (l.clients.filter (·.isOpen)).length

/-- Accepts a client, or turns it away when too many are connected. -/
def accept (l : Listener) (peer : Option Address) : Listener :=
  if l.maxConnections ≤ l.openCount then
    { l with server := l.server.count Metrics.connectionRejected }
  else
    let (session, server) := l.server.connect peer
    { l with
      server := server.count Metrics.connectionEstablished
      clients := l.clients ++ [⟨.opened session, true⟩] }

/-- Ends a connection. -/
def finish (c : Connection) (cause : Option Error) (server : Server) : Client × Server :=
  (⟨c, false⟩, Connection.ended c.session cause server)

/-- What has become of a client after some work. -/
def settle : Except Error Unit × Connection.Work → Client × Server
  | (.ok (), w) => (⟨w.connection, true⟩, w.server)
  | (.error e, w) => finish w.connection (some e) w.server

/-- Lets every open connection write what is queued for its client. -/
def deliverAll (limit : Nat) : List Client → Server → List Client × Server
  | [], server => ([], server)
  | client :: rest, server =>
    let (client, server) :=
      if client.isOpen then settle (Connection.Work.deliver limit ⟨client.connection, server⟩)
      else (client, server)
    let (rest, server) := deliverAll limit rest server
    (client :: rest, server)

/-- Works on the client with an index, and then lets all connections write. -/
def onClient (l : Listener) (index : Nat) (work : Connection → Server → Client × Server) :
    Listener :=
  match l.clients[index]? with
  | none => l
  | some client =>
    if client.isOpen then
      let (client, server) := work client.connection l.server
      let (clients, server) := deliverAll l.maxPacketSize (l.clients.set index client) server
      { l with clients, server }
    else l

/-- Takes bytes that have arrived from a client. -/
def receive (l : Listener) (index : Nat) (chunk : Bytes) : Listener :=
  l.onClient index fun connection server =>
    settle (Connection.Work.receive l.router l.maxPacketSize chunk ⟨connection, server⟩)

/-- Takes the end of the input of a client. -/
def endOfInput (l : Listener) (index : Nat) : Listener :=
  l.onClient index fun connection server => finish connection none server

/-! ## The address to listen on

The host has no network.  Its one interface is down and has no address, so that any IPv4 address can
be listened on, but only those IPv6 addresses that stand for none or for an IPv4 address.
-/

/-- Why a server cannot listen on an address. -/
inductive BindFault where
  | notAnAddress
  | notAPort
  | unresolved (cause : HostName.Fault)
  /-- The address is that of a group of hosts, or lacks its interface. -/
  | unsuitable
  | noInterface
  /-- The address belongs to another host. -/
  | notLocal
  deriving DecidableEq, Repr

def BindFault.text : BindFault → String
  | notAnAddress => "invalid socket address"
  | notAPort => "invalid port value"
  | unresolved .zeroCharacter => "file name contained an unexpected NUL byte"
  | unresolved .malformed => "failed to lookup address information: Name or service not known"
  | unresolved .unanswered =>
    "failed to lookup address information: Temporary failure in name resolution"
  | unsuitable => "Invalid argument (os error 22)"
  | noInterface => "No such device (os error 19)"
  | notLocal => "Cannot assign requested address (os error 99)"

def BindFault.error (fault : BindFault) : Error := .io fault.text

/-- What stands in front of the last colon and after it, if there is one. -/
def splitAtLastColon (cs : List Char) : Option (List Char × List Char) :=
  let after := (cs.reverse.takeWhile (· ≠ ':')).reverse
  match cs.reverse.dropWhile (· ≠ ':') with
  | _ :: before => some (before.reverse, after)
  | [] => none

/-- A port in decimal digits, with or without a plus sign. -/
def isPort (cs : List Char) : Bool :=
  let ds :=
    match cs with
    | '+' :: rest => rest
    | _ => cs
  !ds.isEmpty && ds.all Char.isDigit && decide (Address.numeral 10 ds < UInt16.size)

/-- The host of an address, which may be given by name. -/
def hostOf (address : String) : Except BindFault Host :=
  match Address.ofString? address with
  | some a => .ok a.host
  | none =>
    match splitAtLastColon address.toList with
    | none => .error .notAnAddress
    | some (name, port) =>
      if isPort port then (HostName.resolve name).mapError .unresolved else .error .notAPort

/-- Can a server listen on a host? -/
def listenOn : Host → Except BindFault Unit
  | .v4 .. => .ok ()
  | .v6 [0, 0, 0, 0, 0, 0, 0, 0] _ => .ok ()
  | .v6 [0, 0, 0, 0, 0, 0xffff, _, _] _ => .ok ()
  | .v6 groups interface =>
    if 0xff00 ≤ groups.headD 0 then .error .unsuitable
    else if HostName.isOfOneLink groups then
      if interface = 0 then .error .unsuitable
      else if interface = 1 then .error .notLocal
      else .error .noInterface
    else .error .notLocal

/-- Can a server listen on an address? -/
def bind (address : String) : Except BindFault Unit := do listenOn (← hostOf address)

end Listener

end Lobby
