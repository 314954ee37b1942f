import Lobby.Listener
import Lobby.Proofs.Connection.Conversation
import Lobby.Proofs.Packet.Stream
import Lobby.Proofs.Server.Run
import Lobby.Proofs.SortedMap

/-!
# Visits

A visit is all that a client does: it connects, sends some chunks of bytes and closes.  While no
other connection is open, the client gets exactly the conversation with the frames of its stream, up
to the first frame above the limit (`Listener.visit_eq_converse`).  How the stream is cut into
chunks makes no difference.

The proof follows the listener from chunk to chunk.  Between chunks it is `hosting` the connection
with nothing left to write; once the connection has ended it ignores what comes.
-/

namespace Lobby

namespace Server

/-! ### The session of a conversation -/

variable {s : Server} {id : SessionId}

@[simp] theorem seating_meter (s : Server) (m : Metrics) : (s.meter m).seating = s.seating := rfl

@[simp] theorem seating_drain (s : Server) (id : SessionId) :
    (s.drain id).2.seating = s.seating :=
  s.seating_updateSession id (fun _ => rfl) fun _ => rfl

/-- There is nothing to take out of an empty outbox. -/
theorem drain_of_empty (empty : (s.session id).outbox = []) : s.drain id = ([], s) := by
  have same : s.sessions.modify id (fun x => { x with outbox := [] }) = s.sessions := by
    refine SortedMap.modify_eq_self fun x found => ?_
    rw [session, found] at empty
    rw [← show x.outbox = [] from empty]
  rw [drain, empty, updateSession, same]

theorem outbox_connect (s : Server) (peer : Option Address) :
    ((s.connect peer).2.session s.nextSession).outbox = [] := by
  rw [connect, session, SortedMap.get?_insert, if_pos rfl]
  rfl

/-- A conversation of a session that is there changes the seating by moves. -/
theorem moves_converse (h : s.seating.Coherent) (present : s.seating.present id = true)
    {requests : List Packet} (room : ∀ n < requests.length,
      (s.converse id (requests.take n)).2.created.toNat + 1 < UInt32.size) :
    Seating.Moves s.seating (s.converse id requests).2.seating := by
  induction requests generalizing s with
  | nil => exact .refl
  | cons request rest ih =>
    have first : Seating.Moves s.seating (s.serve id request).2.seating := by
      rw [serve, seating_drain]
      exact Router.moves_dispatch h present (room 0 (Nat.succ_pos _)) request
    refine first.trans (ih (h.moves first) ?_ fun n hn => room (n + 1) (Nat.succ_lt_succ hn))
    rw [first.present]
    exact present

/-- Nothing is left of a session but the record of what it was. -/
structure Gone (s : Server) (id : SessionId) : Prop where
  unregistered : s.findSession? id = none
  unseated : (s.session id).seat = none
  unlisted : ∀ i g, s.games.get? i = some g → id ∉ g.sessions
  unqueued : s.isQueued id = false

/-- **A session is gone once its connection is.** -/
theorem gone_disconnect (h : s.seating.Coherent) (id : SessionId) (m : Metrics) :
    (((s.disconnect id).close id).meter m).Gone id := by
  have coherent := coherent_disconnect h id
  obtain ⟨seat, queue⟩ := idle_leaveActivities h id disconnectedReason
  have seating : (((s.disconnect id).close id).meter m).seating =
      (s.leaveActivities id disconnectedReason).seating.depart id := by
    rw [seating_meter, seating_close, disconnect, seating_deregister]
  generalize ((s.disconnect id).close id).meter m = t at seating
  have free : t.seating.seat id = none := by
    rw [seating]
    exact seat
  constructor
  · have absent : t.seating.present id = false := by
      rw [seating]
      exact if_pos rfl
    exact Option.isNone_iff_eq_none.1 (Option.isSome_eq_false_iff.1 absent)
  · exact free
  · intro i g found listed
    obtain ⟨o, ho, session⟩ := List.mem_map.1 listed
    rw [disconnect, seating_deregister, ← seating] at coherent
    exact coherent.not_member free (t.lineup_seating found) o ho session
  · rw [← Bool.not_eq_true, isQueued_iff, seating]
    exact queue

end Server

namespace Listener

open Connection (Work)
open Connection.Work (resting verdict)

/-- A client connects, sends some chunks and closes. -/
def visit (l : Listener) (peer : Option Address) (chunks : List Bytes) : Listener :=
  let index := l.clients.length
  (chunks.foldl (fun l chunk => l.receive index chunk) (l.accept peer)).endOfInput index

/-- The listener with one more client, in the state of some work. -/
def hosting (l : Listener) (isOpen : Bool) (w : Work) : Listener :=
  { l with server := w.server, clients := l.clients ++ [⟨w.connection, isOpen⟩] }

/-- The listener after the connection of one more client has ended. -/
def parted (l : Listener) (cause : Option Error) (w : Work) : Listener :=
  l.hosting false ⟨w.connection, Connection.ended w.connection.session cause w.server⟩

/-- The listener after a round of one more client, which may have ended its connection. -/
def settled (l : Listener) (cause : Option Error) (w : Work) : Listener :=
  match cause with
  | none => l.hosting true w
  | some e => l.parted (some e) w

section

variable {l : Listener} (alone : ∀ c ∈ l.clients, c.isOpen = false)

include alone

theorem openCount_of_closed : l.openCount = 0 := by
  rw [openCount, List.length_eq_zero_iff, List.filter_eq_nil_iff]
  intro c hc
  simp [alone c hc]

/-- Closed connections write nothing. -/
theorem deliverAll_append (limit : Nat) (rest : List Client) (server : Server) :
    deliverAll limit (l.clients ++ rest) server =
      (l.clients ++ (deliverAll limit rest server).1, (deliverAll limit rest server).2) := by
  revert alone
  generalize l.clients = clients
  intro alone
  induction clients with
  | nil => rfl
  | cons c clients ih =>
    have closed := alone c List.mem_cons_self
    simp [deliverAll, closed, ih fun d hd => alone d (List.mem_cons_of_mem c hd)]

/-- Only the last client is worked on. -/
theorem onClient_hosting {w : Work} {work : Connection → Server → Client × Server}
    {client : Client} {server : Server} (worked : work w.connection w.server = (client, server)) :
    (l.hosting true w).onClient l.clients.length work =
      { l with
        server := (deliverAll l.maxPacketSize [client] server).2
        clients := l.clients ++ (deliverAll l.maxPacketSize [client] server).1 } := by
  simp only [onClient, hosting, List.getElem?_concat_length, if_true,
    List.set_append_right _ _ (Nat.le_refl _), Nat.sub_self, List.set_cons_zero, worked]
  rw [deliverAll_append alone]

/-- A round that leaves nothing to write settles the client. -/
theorem onClient_of_settle {w after : Work} {work : Connection → Server → Client × Server}
    {cause : Option Error}
    (worked : work w.connection w.server = settle (verdict cause, after))
    (idle : cause = none → Work.deliver l.maxPacketSize after = (.ok (), after)) :
    (l.hosting true w).onClient l.clients.length work = l.settled cause after := by
  cases cause with
  | some e => exact onClient_hosting alone worked
  | none =>
    rw [onClient_hosting alone worked]
    simp only [deliverAll, if_true, show Work.deliver _ ⟨_, _⟩ = _ from idle rfl]
    rfl

end

/-- A connection that has ended ignores what comes. -/
theorem onClient_parted (l : Listener) (cause : Option Error) (w : Work)
    (work : Connection → Server → Client × Server) :
    (l.parted cause w).onClient l.clients.length work = l.parted cause w := by
  simp [onClient, parted, hosting]

theorem foldl_receive_parted (l : Listener) (cause : Option Error) (w : Work)
    (chunks : List Bytes) :
    chunks.foldl (fun l' chunk => l'.receive l.clients.length chunk) (l.parted cause w) =
      l.parted cause w := by
  induction chunks with
  | nil => rfl
  | cons chunk chunks ih =>
    rw [List.foldl_cons, receive, onClient_parted, ih]

/-- A connection between rounds has nothing to write while nothing is queued. -/
theorem deliver_resting {s : Server} {id : SessionId} (empty : (s.session id).outbox = [])
    (limit : Nat) (buffer : Bytes) (written : List Packet) :
    Work.deliver limit (resting id buffer written s) = (.ok (), resting id buffer written s) := by
  have nothing : (resting id buffer written s).takeQueued = ([], resting id buffer written s) := by
    rw [Work.takeQueued, resting, Server.drain_of_empty empty]
    rfl
  rw [Work.deliver, nothing]
  simp [Work.sendRound, Work.sendAll, Work.flush, Output.flush, resting]

section

variable {l : Listener} (alone : ∀ c ∈ l.clients, c.isOpen = false)
  (standard : l.router = .standard) {id : SessionId} {buffer : Bytes} {s : Server}
  (empty : (s.session id).outbox = []) (written : List Packet) (m : Metrics)

include alone standard empty

/-- **A chunk is answered as a conversation**, after which the connection rests or has ended. -/
theorem receive_hosting {chunk : Bytes} {fed : Feed}
    (feed : Stream.feed l.maxPacketSize buffer chunk = fed)
    (fits : ∀ p ∈ (s.converse id fed.packets).1, p.Fits l.maxPacketSize) :
    ∃ n,
      (l.hosting true (resting id buffer written (s.meter m))).receive l.clients.length chunk =
          l.settled fed.error (resting id fed.rest (written ++ (s.converse id fed.packets).1)
            ((s.converse id fed.packets).2.meter n)) ∧
        n.traffic = m.traffic.plus fed.packets.length (s.converse id fed.packets).1.length 0 := by
  obtain ⟨n, received, traffic⟩ := Work.receive_of_fits written m feed fits
  refine ⟨n, onClient_of_settle alone ?_ fun _ => ?_, traffic⟩
  · show settle (Work.receive l.router l.maxPacketSize chunk _) = _
    rw [standard]
    exact congrArg settle received
  · exact deliver_resting (s := (s.converse id fed.packets).2.meter n)
      (s.outbox_converse id empty fed.packets) l.maxPacketSize _ _

/-- **The chunks are answered as a conversation with the frames of their stream.** -/
theorem foldl_receive_hosting {chunks : List Bytes} {fed : Feed}
    (waits : Frame.decode l.maxPacketSize buffer = .ok none)
    (feed : Stream.feed l.maxPacketSize buffer chunks.flatten = fed)
    (fits : ∀ p ∈ (s.converse id fed.packets).1, p.Fits l.maxPacketSize) :
    ∃ n rest,
      (chunks.foldl (fun l' chunk => l'.receive l.clients.length chunk)
          (l.hosting true (resting id buffer written (s.meter m)))).endOfInput l.clients.length =
        l.parted fed.error (resting id rest (written ++ (s.converse id fed.packets).1)
          ((s.converse id fed.packets).2.meter n)) ∧
      n.traffic = m.traffic.plus fed.packets.length (s.converse id fed.packets).1.length 0 := by
  induction chunks generalizing buffer written s m fed with
  | nil =>
    rw [List.flatten_nil, Stream.feed, List.append_nil, Stream.drain_none waits] at feed
    subst feed
    refine ⟨m, buffer, ?_, (Traffic.plus_zero _).symm⟩
    rw [List.foldl_nil, endOfInput, onClient_hosting alone rfl]
    simp [Server.converse, deliverAll, parted, hosting]
  | cons chunk chunks ih =>
    rw [List.flatten_cons, Stream.feed, ← List.append_assoc] at feed
    generalize first : Stream.drain l.maxPacketSize (buffer ++ chunk) = f
    cases error : f.error with
    | some e =>
      -- the rest of the stream comes too late
      have stop := Stream.drain_append_of_error (first ▸ error) chunks.flatten
      rw [first, feed] at stop
      subst stop
      obtain ⟨n, received, traffic⟩ := receive_hosting alone standard empty written m first fits
      refine ⟨n, f.rest, ?_, traffic⟩
      rw [List.foldl_cons, received, error, settled, foldl_receive_parted, endOfInput,
        onClient_parted]
    | none =>
      have next := (Stream.drain_rest l.maxPacketSize (buffer ++ chunk)).2.1 (first ▸ error)
      have more := Stream.drain_append (first ▸ error) chunks.flatten
      rw [first] at next more
      rw [feed] at more
      subst more
      simp only [Feed.after, Server.converse_append] at fits ⊢
      obtain ⟨n, received, traffic⟩ := receive_hosting alone standard empty written m first
        fun p hp => fits p (List.mem_append_left _ hp)
      obtain ⟨n', rest, others, traffic'⟩ := ih (s.outbox_converse id empty f.packets)
        (written ++ (s.converse id f.packets).1) n next rfl
        fun p hp => fits p (List.mem_append_right _ hp)
      rw [Stream.feed] at others traffic'
      refine ⟨n', rest, ?_, ?_⟩
      · rw [List.foldl_cons, received, error, settled, ← List.append_assoc]
        exact others
      · rw [traffic', traffic, Traffic.plus_plus, List.length_append, List.length_append]

end

/-! ### Visits -/

/-- A client is accepted as long as there is room. -/
theorem accept_of_closed {l : Listener} (alone : ∀ c ∈ l.clients, c.isOpen = false)
    (room : 0 < l.maxConnections) (peer : Option Address) :
    l.accept peer =
      l.hosting true (resting l.server.nextSession [] []
        ((l.server.connect peer).2.meter l.server.metrics.connectionEstablished)) := by
  rw [accept, openCount_of_closed alone, if_neg (Nat.not_le.2 room)]
  rfl

/-- What a connection does when it ends, but for the counters. -/
theorem ended_eq (s : Server) (m : Metrics) (id : SessionId) {cause : Option Error}
    (fault : ∀ e, cause = some e → Connection.isProtocolError e = true) :
    ∃ n, Connection.ended id cause (s.meter m) = ((s.disconnect id).close id).meter n ∧
      n.traffic = m.traffic.plus 0 0 cause.isSome.toNat := by
  obtain ⟨g, quiet, same⟩ := s.counts_disconnect id
  have closing (k : Metrics) :
      (((s.meter k).disconnect id).count Metrics.connectionClosed).close id =
        ((s.disconnect id).close id).meter (g k).connectionClosed :=
    congrArg (fun t => Server.close (t.count Metrics.connectionClosed) id) (same k)
  cases cause with
  | none =>
    refine ⟨(g m).connectionClosed, closing m, ?_⟩
    exact (quiet.traffic m).trans (Traffic.plus_zero _).symm
  | some e =>
    refine ⟨(g m.protocolError).connectionClosed, ?_, ?_⟩
    · simp only [Connection.ended, fault e rfl, if_true]
      exact closing m.protocolError
    · refine (quiet.traffic m.protocolError).trans ?_
      simp [Metrics.traffic, Metrics.protocolError, Traffic.plus]

/-- What a visit has come to, in which frames were received and a conversation was held. -/
structure Visited (l after : Listener) (id : SessionId) (fed : Feed) (talk : List Packet × Server) :
    Prop where
  /-- The client got the conversation, and its connection has ended. -/
  clients : ∃ rest, after.clients = l.clients ++ [⟨⟨id, rest, ⟨talk.1, []⟩⟩, false⟩]
  traffic : after.server.metrics.traffic =
    l.server.metrics.traffic.plus fed.packets.length talk.1.length fed.error.isSome.toNat
  /-- The only fault is a frame above the limit. -/
  fault : ∀ e, fed.error = some e → ∃ length, e = .oversized length ∧ l.maxPacketSize < length
  /-- But for its counters, the server is what the conversation and the end of it make of it. -/
  server : after.server = ((talk.2.disconnect id).close id).meter after.server.metrics

/-- **A visit is a conversation.**  While no other connection is open, and as long as nothing it is
to be sent is above the limit, a client gets its conversation with the frames of its stream, up to
the first one above the limit.  In this conversation nothing is queued for it when a request is
dispatched, so that what is written before the replies is what the handler pushed.

If links, rosters, queue and registers are those after some run, and the ids of sessions and games
do not run out, nothing is left of the session. -/
theorem visit_eq_converse (l : Listener) (peer : Option Address) (chunks : List Bytes)
    (standard : l.router = .standard) (alone : ∀ c ∈ l.clients, c.isOpen = false)
    (room : 0 < l.maxConnections) :
    let id := l.server.nextSession
    let entered := (l.server.connect peer).2
    let fed := Stream.feed l.maxPacketSize [] chunks.flatten
    let talk := entered.converse id fed.packets
    let after := l.visit peer chunks
    (∀ p ∈ talk.1, p.Fits l.maxPacketSize) →
      l.Visited after id fed talk ∧
      (∀ n, ((entered.converse id (fed.packets.take n)).2.session id).outbox = []) ∧
      ∀ store events, (Server.start store).Feasible events →
        l.server.seating = ((Server.start store).run events).seating →
        id.toNat + 1 < UInt32.size →
        (∀ n < fed.packets.length,
          (entered.converse id (fed.packets.take n)).2.created.toNat + 1 < UInt32.size) →
        after.server.Gone id := by
  intro id entered fed talk after fits
  have quiet : (entered.session id).outbox = [] := l.server.outbox_connect peer
  obtain ⟨-, -, cause⟩ := Stream.drain_rest l.maxPacketSize chunks.flatten
  have waits : Frame.decode l.maxPacketSize [] = .ok none := rfl
  have feed : Stream.feed l.maxPacketSize [] chunks.flatten = fed := rfl
  have fault (e : Error) (he : fed.error = some e) : Connection.isProtocolError e = true := by
    obtain ⟨length, rfl, -⟩ := cause e he
    rfl
  obtain ⟨m, rest, folded, traffic⟩ := foldl_receive_hosting alone standard quiet []
    l.server.metrics.connectionEstablished waits feed fits
  obtain ⟨n, gone, faults⟩ := ended_eq talk.2 m id fault
  have visited : after = l.hosting false
      ⟨⟨id, rest, ⟨talk.1, []⟩⟩, ((talk.2.disconnect id).close id).meter n⟩ := by
    show l.visit peer chunks = _
    rw [visit, accept_of_closed alone room]
    refine folded.trans ?_
    rw [parted, ← gone]
    rfl
  refine ⟨⟨⟨rest, ?_⟩, ?_, cause, ?_⟩, fun k => entered.outbox_converse id quiet _, ?_⟩
  · rw [visited]
    rfl
  · rw [visited]
    show n.traffic = _
    rw [faults, traffic, Traffic.plus_plus, Nat.zero_add]
    rfl
  · rw [visited]
    rfl
  · intro store events feasible same ids games
    have before : l.server.seating.Coherent := by
      rw [same]
      exact Server.coherent_run (Server.coherent_start store) feasible
    have seated : entered.seating = l.server.seating.connect :=
      l.server.seating_connect peer (Server.fresh_nextSession before)
    have coherent : entered.seating.Coherent := by
      rw [seated]
      exact before.connect ids
    have present : entered.seating.present id = true := by
      rw [seated]
      exact if_pos rfl
    have held := Server.moves_converse coherent present games
    rw [visited]
    exact Server.gone_disconnect (coherent.moves held) id n

/-- A player logs in and creates a game, in two chunks that are cut inside a frame.  The setup of
the game goes before the reply, and a third frame is above the limit. -/
theorem visit_eq_converse_host :
    let store : Store := ⟨.ofList [(1, ⟨⟨1, "a@b"⟩, "a@b", "word", "token"⟩)], ∅, ∅, 2, true⟩
    let l : Listener := ⟨.standard, 1, 4096, (Server.start store).run [.connect none], []⟩
    let login : Packet :=
      .request Route.login 1 [.string Field.mail "a@b", .string Field.pass "word"]
    let create : Packet := .request Route.createGame 2 []
    let bytes := login.frame ++ create.frame ++ Frame.headerBytes create.header 5000
    let chunks := [bytes.take 20, bytes.drop 20]
    let entered := (l.server.connect none).2
    let fed := Stream.feed 4096 [] chunks.flatten
    let talk := entered.converse 2 fed.packets
    let after := l.visit none chunks
    l.Visited after 2 fed talk ∧ after.server.Gone 2 ∧
      talk.1.map (fun p => (p.header.route, p.header.kind)) =
        [(Route.login, .response), (Route.userAdded, .unique), (Route.userUpdated, .unique),
          (Route.gameSetup, .unique), (Route.createGame, .response)] ∧
      fed.error.isSome = true := by
  intro store l login create bytes chunks entered fed talk after
  have feasible : (Server.start store).Feasible [.connect none] :=
    ⟨by decide +kernel, by decide +kernel, by decide +kernel⟩
  obtain ⟨visited, -, gone⟩ := visit_eq_converse l none chunks rfl nofun (by decide)
    (by decide +kernel)
  refine ⟨visited, gone store _ feasible rfl (by decide +kernel) (by decide +kernel), ?_, ?_⟩
  · decide +kernel
  · decide +kernel

end Listener

end Lobby
