import Lobby.Packet.Frame
import Lobby.Request.Router

/-!
# Connections

A connection takes frames off the bytes that its client sends and answers them one by one: first
what was queued for the client meanwhile is written, then the replies.  Between requests it writes
what others queue for the client.

A frame above the limit, received or to be written, ends the connection.  What was written before
it and not yet handed to the network is then lost; the network takes over at the end of every
round, and in the middle of one once `flushSize` bytes have gathered.
-/

namespace Lobby

/-- The number of gathered bytes that are handed to the network before more is written. -/
def flushSize : Nat := 8 * 1024

/-- What has been written on a connection, in order. -/
structure Output where
  /-- What the network has taken over. -/
  flushed : List Packet
  /-- What has gathered since. -/
  gathered : List Packet

namespace Output

def empty : Output := ⟨[], []⟩

/-- Hands everything to the network. -/
def flush (o : Output) : Output := ⟨o.flushed ++ o.gathered, []⟩

def gatheredSize (o : Output) : Nat := o.gathered.foldr (fun p n => p.frameSize + n) 0

/-- Makes room if too much has gathered. -/
def makeRoom (o : Output) : Output := if flushSize ≤ o.gatheredSize then o.flush else o

end Output

/-- An open connection. -/
structure Connection where
  session : SessionId
  /-- The bytes received that are not yet a whole frame. -/
  buffer : Bytes
  output : Output

namespace Connection

def opened (session : SessionId) : Connection := ⟨session, [], .empty⟩

/-- A connection with its server, in the middle of its work. -/
structure Work where
  connection : Connection
  server : Server

namespace Work

/-- Writes one packet and counts it. -/
def send (limit : Nat) (w : Work) (p : Packet) : Except Error Unit × Work :=
  let room := { w.connection with output := w.connection.output.makeRoom }
  match Frame.encode limit p [] with
  | .error e => (.error e, { w with connection := room })
  | .ok _ =>
    (.ok (),
      { connection :=
          { room with output := { room.output with gathered := room.output.gathered ++ [p] } }
        server := w.server.count fun m => m.packetSent (UInt64.ofNat p.frameSize) })

/-- Writes packets up to the first that cannot be written. -/
def sendAll (limit : Nat) : List Packet → Work → Except Error Unit × Work
  | [], w => (.ok (), w)
  | p :: ps, w =>
    match w.send limit p with
    | (.error e, w) => (.error e, w)
    | (.ok (), w) => sendAll limit ps w

/-- Takes everything out of the outbox of the client. -/
def takeQueued (w : Work) : List Packet × Work :=
  let (queued, server) := w.server.drain w.connection.session
  (queued.flatMap Outbound.packets, { w with server })

def flush (w : Work) : Work :=
  { w with connection := { w.connection with output := w.connection.output.flush } }

/-- Writes packets and hands them to the network, unless one of them cannot be written. -/
def sendRound (limit : Nat) (ps : List Packet) (w : Work) : Except Error Unit × Work :=
  match sendAll limit ps w with
  | (.error e, w) => (.error e, w)
  | (.ok (), w) => (.ok (), w.flush)

/-- Writes what is queued for the client. -/
def deliver (limit : Nat) (w : Work) : Except Error Unit × Work :=
  let (queued, w) := w.takeQueued
  sendRound limit queued w

/-- Answers one request. -/
def answer (router : Router) (limit : Nat) (w : Work) (request : Packet) :
    Except Error Unit × Work :=
  let counted := w.server.count fun m => m.packetReceived (UInt64.ofNat request.frameSize)
  let (replies, server) := router.dispatch counted w.connection.session request
  let (queued, w) := takeQueued { w with server }
  sendRound limit (queued ++ replies) w

/-- Answers requests up to the first whose answer cannot be written. -/
def answerAll (router : Router) (limit : Nat) : List Packet → Work → Except Error Unit × Work
  | [], w => (.ok (), w)
  | request :: rest, w =>
    match w.answer router limit request with
    | (.error e, w) => (.error e, w)
    | (.ok (), w) => answerAll router limit rest w

/-- Takes bytes that have arrived and answers every frame that is now complete. -/
def receive (router : Router) (limit : Nat) (chunk : Bytes) (w : Work) : Except Error Unit × Work :=
  let fed := Stream.feed limit w.connection.buffer chunk
  let w := { w with connection := { w.connection with buffer := fed.rest } }
  match answerAll router limit fed.packets w, fed.error with
  | (.ok (), w), some e => (.error e, w)
  | result, _ => result

end Work

/-- Was the client at fault when its connection ended?  A connection that was merely lost does not
count. -/
def isProtocolError : Error → Bool
  | .io _ => false
  | .connectionClosed => false
  | _ => true

/-- Cleans up after a connection that has ended, for a cause if it was not the end of its input. -/
def ended (session : SessionId) (cause : Option Error) (server : Server) : Server :=
  let server :=
    match cause with
    | some e => if isProtocolError e then server.count Metrics.protocolError else server
    | none => server
  ((server.disconnect session).count Metrics.connectionClosed).close session

end Connection

end Lobby
