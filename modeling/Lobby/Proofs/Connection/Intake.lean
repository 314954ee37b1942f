import Lobby.Listener
import Lobby.Proofs.Packet.Cuts
import Lobby.Proofs.Request.Counters
import Mathlib.Algebra.BigOperators.Group.List.Basic
import Mathlib.Algebra.GroupWithZero.Nat
import Mathlib.Algebra.Order.Group.Nat

/-!
# What connections take in

Of a chunk a connection takes the frames that are now complete, and answers them up to the first
whose answer cannot be written.  These requests are cut off the buffer with the chunk; unless the
connection ends, it keeps the rest (`Connection.Work.exists_takes_receive`).  The counters grow by
the requests and by the sizes of their frames (`Connection.Work.intake_receive`).  Nothing else that
a connection does is counted as taken in.
-/

namespace Lobby

theorem Router.intake_dispatch (s : Server) (session : SessionId) (request : Packet) :
    (standard.dispatch s session request).2.metrics.intake = s.metrics.intake := by
  obtain ⟨g, quiet, same⟩ := blind_dispatch s session request
  have counted := congrArg (fun r => r.2.metrics.intake) (same s.metrics)
  exact counted.trans (quiet.intake s.metrics)

namespace Connection

theorem intake_ended (session : SessionId) (cause : Option Error) (s : Server) :
    (ended session cause s).metrics.intake = s.metrics.intake := by
  have closing (t : Server) : (((t.disconnect session).count Metrics.connectionClosed).close
      session).metrics.intake = t.metrics.intake := by
    obtain ⟨g, quiet, same⟩ := t.counts_disconnect session
    have counted := congrArg (fun u => u.metrics.intake) (same t.metrics)
    exact counted.trans (quiet.intake t.metrics)
  rw [ended.eq_def]
  cases cause with
  | none => exact closing s
  | some e =>
    refine (closing _).trans ?_
    dsimp only
    split <;> rfl

namespace Work

variable {limit : Nat}

/-! ### Writing -/

/-- Work that takes nothing in. -/
structure Keeps (w after : Work) : Prop where
  buffer : after.connection.buffer = w.connection.buffer
  intake : after.server.metrics.intake = w.server.metrics.intake

theorem Keeps.trans {w after last : Work} (h : w.Keeps after) (h' : after.Keeps last) :
    w.Keeps last :=
  ⟨h'.buffer.trans h.buffer, h'.intake.trans h.intake⟩

theorem keeps_send (limit : Nat) (w : Work) (p : Packet) : w.Keeps (w.send limit p).2 := by
  rw [send]
  split
  · exact ⟨rfl, rfl⟩
  · exact ⟨rfl, rfl⟩

theorem keeps_sendAll (limit : Nat) (ps : List Packet) (w : Work) :
    w.Keeps (sendAll limit ps w).2 := by
  induction ps generalizing w with
  | nil => exact ⟨rfl, rfl⟩
  | cons p ps ih =>
    have first := keeps_send limit w p
    rw [sendAll]
    generalize w.send limit p = r at first ⊢
    obtain ⟨_ | _, after⟩ := r
    · exact first
    · exact first.trans (ih after)

theorem keeps_sendRound (limit : Nat) (ps : List Packet) (w : Work) :
    w.Keeps (sendRound limit ps w).2 := by
  have all := keeps_sendAll limit ps w
  rw [sendRound]
  generalize sendAll limit ps w = r at all ⊢
  obtain ⟨_ | _, after⟩ := r
  · exact all
  · exact all.trans ⟨rfl, rfl⟩

theorem keeps_deliver (limit : Nat) (w : Work) : w.Keeps (w.deliver limit).2 :=
  have emptied : w.Keeps w.takeQueued.2 := ⟨rfl, rfl⟩
  emptied.trans (keeps_sendRound limit _ _)

/-! ### Answering -/

theorem buffer_answer (router : Router) (limit : Nat) (w : Work) (request : Packet) :
    (w.answer router limit request).2.connection.buffer = w.connection.buffer :=
  (keeps_sendRound limit _ _).buffer

theorem intake_answer (limit : Nat) (w : Work) (request : Packet) :
    (w.answer .standard limit request).2.server.metrics.intake =
      w.server.metrics.intake.plus 1 request.frameSize := by
  refine (keeps_sendRound limit _ _).intake.trans ?_
  exact Router.intake_dispatch (w.server.count _) w.connection.session request

/-- The requests of some that are answered: those up to the first whose answer cannot be written. -/
def answered (router : Router) (limit : Nat) : List Packet → Work → List Packet
  | [], _ => []
  | request :: rest, w =>
    request ::
      match w.answer router limit request with
      | (.error _, _) => []
      | (.ok (), w) => answered router limit rest w

theorem answered_prefix (router : Router) (limit : Nat) (requests : List Packet) (w : Work) :
    answered router limit requests w <+: requests := by
  induction requests generalizing w with
  | nil => exact List.prefix_refl _
  | cons request rest ih =>
    rw [answered]
    refine (List.prefix_cons_inj request).2 ?_
    split
    · exact List.nil_prefix
    · exact ih _

theorem answered_of_ok {router : Router} {requests : List Packet} {w : Work}
    (ok : (answerAll router limit requests w).1 = .ok ()) :
    answered router limit requests w = requests := by
  induction requests generalizing w with
  | nil => rfl
  | cons request rest ih =>
    rw [answerAll] at ok
    rw [answered]
    refine congrArg (request :: ·) ?_
    generalize w.answer router limit request = r at ok ⊢
    obtain ⟨_ | _, after⟩ := r
    · cases ok
    · exact ih ok

theorem buffer_answerAll (router : Router) (requests : List Packet) (w : Work) :
    (answerAll router limit requests w).2.connection.buffer = w.connection.buffer := by
  induction requests generalizing w with
  | nil => rfl
  | cons request rest ih =>
    have first := buffer_answer router limit w request
    rw [answerAll]
    generalize w.answer router limit request = r at first ⊢
    obtain ⟨_ | _, after⟩ := r
    · exact first
    · exact (ih after).trans first

theorem intake_answerAll (requests : List Packet) (w : Work) :
    (answerAll .standard limit requests w).2.server.metrics.intake =
      w.server.metrics.intake.plus (answered .standard limit requests w).length
        ((answered .standard limit requests w).map Packet.frameSize).sum := by
  induction requests generalizing w with
  | nil => exact (Intake.plus_zero _).symm
  | cons request rest ih =>
    have first := intake_answer limit w request
    rw [answerAll, answered, List.length_cons, List.map_cons, List.sum_cons,
      Nat.add_comm _ 1, ← Intake.plus_plus, ← first]
    generalize w.answer .standard limit request = r
    obtain ⟨_ | _, after⟩ := r
    · exact (Intake.plus_zero _).symm
    · exact ih after

/-! ### Taking bytes -/

def keeping (w : Work) (rest : Bytes) : Work :=
  { w with connection := { w.connection with buffer := rest } }

/-- The requests that a chunk brings to be answered. -/
def requests (router : Router) (limit : Nat) (chunk : Bytes) (w : Work) : List Packet :=
  let fed := Stream.feed limit w.connection.buffer chunk
  answered router limit fed.packets (w.keeping fed.rest)

theorem receive_eq (router : Router) (limit : Nat) (chunk : Bytes) (w : Work) :
    receive router limit chunk w =
      let fed := Stream.feed limit w.connection.buffer chunk
      match answerAll router limit fed.packets (w.keeping fed.rest), fed.error with
      | (.ok (), w), some e => (.error e, w)
      | result, _ => result :=
  rfl

theorem receive_snd (router : Router) (limit : Nat) (chunk : Bytes) (w : Work) :
    let fed := Stream.feed limit w.connection.buffer chunk
    (receive router limit chunk w).2 =
      (answerAll router limit fed.packets (w.keeping fed.rest)).2 := by
  simp only [receive_eq]
  generalize Stream.feed limit w.connection.buffer chunk = fed
  generalize answerAll router limit fed.packets (w.keeping fed.rest) = all
  obtain ⟨_ | _, after⟩ := all
  · rfl
  · cases fed.error <;> rfl

theorem ok_of_receive {router : Router} {chunk : Bytes} {w : Work}
    (ok : (receive router limit chunk w).1 = .ok ()) :
    let fed := Stream.feed limit w.connection.buffer chunk
    (answerAll router limit fed.packets (w.keeping fed.rest)).1 = .ok () ∧ fed.error = none := by
  simp only [receive_eq] at ok ⊢
  generalize Stream.feed limit w.connection.buffer chunk = fed at ok ⊢
  generalize answerAll router limit fed.packets (w.keeping fed.rest) = all at ok ⊢
  obtain ⟨_ | _, after⟩ := all
  · cases ok
  · cases clean : fed.error with
    | none => exact ⟨rfl, rfl⟩
    | some e =>
      rw [clean] at ok
      cases ok

theorem intake_receive (chunk : Bytes) (w : Work) :
    (receive .standard limit chunk w).2.server.metrics.intake =
      w.server.metrics.intake.plus (w.requests .standard limit chunk).length
        ((w.requests .standard limit chunk).map Packet.frameSize).sum := by
  rw [receive_snd]
  exact intake_answerAll _ _

/-- **The requests that a chunk brings are cut off the buffer with the chunk**, and the connection
keeps the rest unless it ends. -/
theorem exists_takes_receive (router : Router) (limit : Nat) (chunk : Bytes) (w : Work) :
    ∃ (cuts : List Cut) (rest : Bytes),
      cuts.map (·.packet) = w.requests router limit chunk ∧
      Stream.Takes limit (w.connection.buffer ++ chunk) cuts rest ∧
      ((receive router limit chunk w).1 = .ok () →
        (receive router limit chunk w).2.connection.buffer = rest ∧
          Frame.decode limit rest = .ok none) := by
  let fed := Stream.feed limit w.connection.buffer chunk
  obtain ⟨cuts, packets, taken⟩ :=
    Stream.exists_takes_drain limit (w.connection.buffer ++ chunk)
  by_cases ok : (receive router limit chunk w).1 = .ok ()
  · obtain ⟨all, clean⟩ := ok_of_receive ok
    have waits := (Stream.drain_rest limit (w.connection.buffer ++ chunk)).2.1 clean
    refine ⟨cuts, fed.rest, ?_, taken, fun _ => ⟨?_, waits⟩⟩
    · exact packets.trans (answered_of_ok all).symm
    · rw [receive_snd]
      exact buffer_answerAll router _ _
  · -- the connection ends, and what comes after the last request is lost
    obtain ⟨lost, split⟩ := answered_prefix router limit fed.packets (w.keeping fed.rest)
    obtain ⟨front, back, rfl, first, -⟩ := List.map_eq_append_iff.1 (packets.trans split.symm)
    obtain ⟨middle, taken, -⟩ := taken.split
    exact ⟨front, middle, first, taken, fun ended => absurd ended ok⟩

end Work

end Connection

/-! ### Clients -/

namespace Listener

open Connection (Work)

theorem intake_settle (r : Except Error Unit × Work) :
    (settle r).2.metrics.intake = r.2.server.metrics.intake := by
  obtain ⟨outcome, w⟩ := r
  cases outcome with
  | ok _ => rfl
  | error e => exact Connection.intake_ended w.connection.session (some e) w.server

theorem buffer_settle (r : Except Error Unit × Work) :
    (settle r).1.connection.buffer = r.2.connection.buffer := by
  obtain ⟨outcome, w⟩ := r
  cases outcome <;> rfl

theorem ok_of_settle {r : Except Error Unit × Work} (goesOn : (settle r).1.isOpen = true) :
    r.1 = .ok () := by
  obtain ⟨outcome, w⟩ := r
  cases outcome with
  | ok _ => rfl
  | error e => cases goesOn

/-- A client that may write what is queued for it. -/
def delivered (limit : Nat) (client : Client) (s : Server) : Client × Server :=
  if client.isOpen then settle (Work.deliver limit ⟨client.connection, s⟩) else (client, s)

theorem intake_delivered (limit : Nat) (client : Client) (s : Server) :
    (delivered limit client s).2.metrics.intake = s.metrics.intake := by
  rw [delivered]
  split
  · exact (intake_settle _).trans (Work.keeps_deliver limit _).intake
  · rfl

theorem buffer_delivered (limit : Nat) (client : Client) (s : Server) :
    (delivered limit client s).1.connection.buffer = client.connection.buffer := by
  rw [delivered]
  split
  · exact (buffer_settle _).trans (Work.keeps_deliver limit _).buffer
  · rfl

theorem isOpen_of_delivered {limit : Nat} {client : Client} {s : Server}
    (goesOn : (delivered limit client s).1.isOpen = true) : client.isOpen = true := by
  cases closed : client.isOpen with
  | true => rfl
  | false => simp [delivered, closed] at goesOn

theorem deliverAll_cons (limit : Nat) (client : Client) (rest : List Client) (s : Server) :
    deliverAll limit (client :: rest) s =
      ((delivered limit client s).1 :: (deliverAll limit rest (delivered limit client s).2).1,
        (deliverAll limit rest (delivered limit client s).2).2) :=
  rfl

theorem intake_deliverAll (limit : Nat) (clients : List Client) (s : Server) :
    (deliverAll limit clients s).2.metrics.intake = s.metrics.intake := by
  induction clients generalizing s with
  | nil => rfl
  | cons client rest ih =>
    rw [deliverAll_cons]
    exact (ih _).trans (intake_delivered limit client s)

theorem length_deliverAll (limit : Nat) (clients : List Client) (s : Server) :
    (deliverAll limit clients s).1.length = clients.length := by
  induction clients generalizing s with
  | nil => rfl
  | cons client rest ih =>
    rw [deliverAll_cons]
    exact congrArg (· + 1) (ih _)

/-- Writing opens no connection, and leaves the bytes that wait to be taken. -/
theorem getElem?_deliverAll {limit : Nat} {clients : List Client} {s : Server} {i : Nat}
    {after : Client} (found : (deliverAll limit clients s).1[i]? = some after)
    (goesOn : after.isOpen = true) :
    ∃ before, clients[i]? = some before ∧ before.isOpen = true ∧
      after.connection.buffer = before.connection.buffer := by
  induction clients generalizing s i with
  | nil => cases found
  | cons client rest ih =>
    rw [deliverAll_cons] at found
    cases i with
    | succ i => exact ih found
    | zero =>
      obtain rfl := Option.some.inj found
      exact ⟨client, rfl, isOpen_of_delivered goesOn, buffer_delivered limit client s⟩

end Listener

end Lobby
