import Lobby.Connection
import Lobby.Proofs.Packet.RoundTrip
import Lobby.Proofs.Request.Counters
import Lobby.Proofs.Server.Frame

/-!
# Conversations

A conversation is the fold of dispatch over the requests of one session.  What the client gets of a
request is what its handler pushed to the session, in order, and then the replies.

A connection whose client is sent nothing above the limit holds this conversation with the frames of
its stream (`Connection.Work.receive_of_fits`).  The server it works with has counters of its own,
which what is said does not depend on.
-/

namespace Lobby

namespace Server

/-- Answers a request: what was queued for the session, and then the replies. -/
def serve (s : Server) (id : SessionId) (request : Packet) : List Packet × Server :=
  let (replies, s) := Router.standard.dispatch s id request
  let (queued, s) := s.drain id
  (queued.flatMap Outbound.packets ++ replies, s)

def converse (s : Server) (id : SessionId) : List Packet → List Packet × Server
  | [] => ([], s)
  | request :: rest =>
    let (first, s) := s.serve id request
    let (more, s) := s.converse id rest
    (first ++ more, s)

variable (s : Server) (id : SessionId)

theorem converse_append (requests more : List Packet) :
    s.converse id (requests ++ more) =
      ((s.converse id requests).1 ++ ((s.converse id requests).2.converse id more).1,
        ((s.converse id requests).2.converse id more).2) := by
  induction requests generalizing s with
  | nil => rfl
  | cons request rest ih =>
    rw [List.cons_append]
    simp only [converse, ih, List.append_assoc]

theorem blind_serve (request : Packet) : Blind (fun s => s.serve id request) s := by
  obtain ⟨g, quiet, same⟩ := Router.blind_dispatch s id request
  refine ⟨g, quiet, fun m => ?_⟩
  simp only [serve, same, metered, drain_meter]

/-- Nothing is left in the outbox of a session that has been answered. -/
theorem outbox_drain : ((s.drain id).2.session id).outbox = [] := by
  rw [drain, session, get?_updateSession, if_pos rfl]
  cases s.sessions.get? id <;> rfl

theorem outbox_serve (request : Packet) : ((s.serve id request).2.session id).outbox = [] :=
  outbox_drain (Router.standard.dispatch s id request).2 id

theorem outbox_converse (quiet : (s.session id).outbox = []) (requests : List Packet) :
    ((s.converse id requests).2.session id).outbox = [] := by
  induction requests generalizing s with
  | nil => exact quiet
  | cons request rest ih => exact ih _ (s.outbox_serve id request)

end Server

/-! ### Writing -/

namespace Output

def all (o : Output) : List Packet := o.flushed ++ o.gathered

theorem all_makeRoom (o : Output) : o.makeRoom.all = o.all := by
  rw [makeRoom]
  split
  · exact List.append_nil _
  · rfl

end Output

namespace Connection.Work

variable {limit : Nat}

theorem send_of_fits {p : Packet} (fits : p.Fits limit) (w : Work) :
    ∃ o n, w.send limit p = (.ok (), ⟨{ w.connection with output := o }, w.server.meter n⟩) ∧
      o.all = w.connection.output.all ++ [p] ∧
      n.traffic = w.server.metrics.traffic.plus 0 1 0 := by
  let room := w.connection.output.makeRoom
  refine ⟨{ room with gathered := room.gathered ++ [p] },
    w.server.metrics.packetSent (UInt64.ofNat p.frameSize), ?_, ?_, ?_⟩
  · rw [send, Frame.encode_of_fits fits]
    rfl
  · rw [← w.connection.output.all_makeRoom]
    exact (List.append_assoc _ _ _).symm
  · simp [Metrics.traffic, Metrics.packetSent, Traffic.plus]

/-- Packets below the limit are written and counted. -/
theorem sendAll_of_fits {ps : List Packet} (fits : ∀ p ∈ ps, p.Fits limit) (w : Work) :
    ∃ o n, sendAll limit ps w = (.ok (), ⟨{ w.connection with output := o }, w.server.meter n⟩) ∧
      o.all = w.connection.output.all ++ ps ∧
      n.traffic = w.server.metrics.traffic.plus 0 ps.length 0 := by
  induction ps generalizing w with
  | nil =>
    exact ⟨w.connection.output, w.server.metrics, rfl, (List.append_nil _).symm,
      (Traffic.plus_zero _).symm⟩
  | cons p ps ih =>
    obtain ⟨o, n, sent, all, traffic⟩ := send_of_fits (fits p List.mem_cons_self) w
    obtain ⟨o', n', rest, all', traffic'⟩ := ih (fun q hq => fits q (List.mem_cons_of_mem p hq))
      ⟨{ w.connection with output := o }, w.server.meter n⟩
    refine ⟨o', n', ?_, ?_, ?_⟩
    · rw [sendAll, sent]
      exact rest
    · rw [all', all, List.append_assoc]
      rfl
    · rw [traffic', Server.metrics_meter, traffic, Traffic.plus_plus, List.length_cons,
        Nat.add_comm ps.length]

/-- A connection between rounds: the network has taken over all that was written. -/
def resting (id : SessionId) (buffer : Bytes) (written : List Packet) (server : Server) : Work :=
  ⟨⟨id, buffer, ⟨written, []⟩⟩, server⟩

theorem sendRound_of_fits {ps : List Packet} (fits : ∀ p ∈ ps, p.Fits limit) (id : SessionId)
    (buffer : Bytes) (written : List Packet) (s : Server) :
    ∃ n, sendRound limit ps (resting id buffer written s) =
        (.ok (), resting id buffer (written ++ ps) (s.meter n)) ∧
      n.traffic = s.metrics.traffic.plus 0 ps.length 0 := by
  obtain ⟨o, n, sent, all, traffic⟩ := sendAll_of_fits fits (resting id buffer written s)
  refine ⟨n, ?_, traffic⟩
  have flushed : o.flush = ⟨written ++ ps, []⟩ := by
    rw [Output.flush, show o.flushed ++ o.gathered = _ from all]
    simp [Output.all, resting]
  rw [sendRound, sent]
  simp only [flush, flushed]
  rfl

/-! ### Answering -/

section

variable {id : SessionId} {s : Server} (written : List Packet) (m : Metrics)

theorem answer_of_fits (buffer : Bytes) {request : Packet}
    (fits : ∀ p ∈ (s.serve id request).1, p.Fits limit) :
    ∃ n, answer .standard limit (resting id buffer written (s.meter m)) request =
        (.ok (), resting id buffer (written ++ (s.serve id request).1)
          ((s.serve id request).2.meter n)) ∧
      n.traffic = m.traffic.plus 1 (s.serve id request).1.length 0 := by
  obtain ⟨g, quiet, same⟩ := s.blind_serve id request
  let counted := m.packetReceived (UInt64.ofNat request.frameSize)
  obtain ⟨n, sent, traffic⟩ := sendRound_of_fits fits id buffer written
    ((s.serve id request).2.meter (g counted))
  refine ⟨n, ?_, ?_⟩
  · have served : answer .standard limit (resting id buffer written (s.meter m)) request =
        sendRound limit ((s.meter counted).serve id request).1
          (resting id buffer written ((s.meter counted).serve id request).2) := rfl
    rw [served, show (s.meter counted).serve id request = _ from same counted]
    exact sent
  · have received : counted.traffic = m.traffic.plus 1 0 0 := by
      simp [counted, Metrics.traffic, Metrics.packetReceived, Traffic.plus]
    rw [traffic, Server.metrics_meter, quiet.traffic, received, Traffic.plus_plus, Nat.zero_add]

/-- Requests are answered as in a conversation. -/
theorem answerAll_of_fits (buffer : Bytes) {requests : List Packet}
    (fits : ∀ p ∈ (s.converse id requests).1, p.Fits limit) :
    ∃ n, answerAll .standard limit requests (resting id buffer written (s.meter m)) =
        (.ok (), resting id buffer (written ++ (s.converse id requests).1)
          ((s.converse id requests).2.meter n)) ∧
      n.traffic = m.traffic.plus requests.length (s.converse id requests).1.length 0 := by
  induction requests generalizing s m written with
  | nil =>
    refine ⟨m, ?_, (Traffic.plus_zero _).symm⟩
    simp only [Server.converse, List.append_nil]
    rfl
  | cons request rest ih =>
    simp only [Server.converse] at fits ⊢
    obtain ⟨n, answered, traffic⟩ := answer_of_fits written m buffer fun p hp =>
      fits p (List.mem_append_left _ hp)
    obtain ⟨n', others, traffic'⟩ := ih (written ++ (s.serve id request).1) n fun p hp =>
      fits p (List.mem_append_right _ hp)
    refine ⟨n', ?_, ?_⟩
    · rw [answerAll, answered, ← List.append_assoc]
      exact others
    · rw [traffic', traffic, Traffic.plus_plus, List.length_cons, List.length_append,
        Nat.add_comm 1]

def verdict : Option Error → Except Error Unit
  | none => .ok ()
  | some e => .error e

/-- **A chunk is answered as a conversation with the frames that it completes.** -/
theorem receive_of_fits {buffer chunk : Bytes} {fed : Feed}
    (feed : Stream.feed limit buffer chunk = fed)
    (fits : ∀ p ∈ (s.converse id fed.packets).1, p.Fits limit) :
    ∃ n, receive .standard limit chunk (resting id buffer written (s.meter m)) =
        (verdict fed.error, resting id fed.rest (written ++ (s.converse id fed.packets).1)
          ((s.converse id fed.packets).2.meter n)) ∧
      n.traffic = m.traffic.plus fed.packets.length (s.converse id fed.packets).1.length 0 := by
  obtain ⟨n, answered, traffic⟩ := answerAll_of_fits written m fed.rest fits
  refine ⟨n, ?_, traffic⟩
  rw [resting] at answered
  simp only [receive, resting, feed, answered]
  cases fed.error <;> rfl

end

end Connection.Work

end Lobby
