import Lobby.Proofs.Connection.Intake

/-!
# What becomes of the bytes that clients send

In a run of a listener clients connect, send chunks and close in any order.  Every request that is
answered has been cut off the stream of its client, one after another, and what is left of the
stream waits in the buffer as long as the connection is open (`Listener.Accounted`).  The counters
grow by the requests and by the sizes of their frames (`Listener.intake_run`), so the bytes counted
are those that were cut off but for the surplus of the frames (`Listener.received_run`).
-/

namespace Lobby

namespace Listener

open Connection (Work)

inductive Event where
  | accept (peer : Option Address)
  | receive (index : Nat) (chunk : Bytes)
  | endOfInput (index : Nat)

def fresh (maxConnections maxPacketSize : Nat) (server : Server) : Listener :=
  ⟨.standard, maxConnections, maxPacketSize, server, []⟩

def after (l : Listener) : Event → Listener
  | .accept peer => l.accept peer
  | .receive index chunk => l.receive index chunk
  | .endOfInput index => l.endOfInput index

def run (l : Listener) (events : List Event) : Listener := events.foldl after l

/-- The client with an index, as long as its connection is open. -/
def client? (l : Listener) (i : Nat) : Option Client := l.clients[i]?.filter (·.isOpen)

/-- The bytes that an event brings to the open connection of a client. -/
def heard (l : Listener) (i : Nat) : Event → Bytes
  | .receive index chunk => if index = i ∧ (l.client? i).isSome then chunk else []
  | _ => []

/-- The requests that an event brings to be answered, each with the client that makes it. -/
def asked (l : Listener) : Event → List (Nat × Packet)
  | .receive index chunk =>
    match l.client? index with
    | some c =>
      (Work.requests l.router l.maxPacketSize chunk ⟨c.connection, l.server⟩).map (index, ·)
    | none => []
  | _ => []

/-- The stream of a client: the bytes that came from it while its connection was open. -/
def stream (l : Listener) (i : Nat) : List Event → Bytes
  | [] => []
  | e :: events => l.heard i e ++ (l.after e).stream i events

/-- The requests that are answered in a run, each with the client that makes it. -/
def requests (l : Listener) : List Event → List (Nat × Packet)
  | [] => []
  | e :: events => l.asked e ++ (l.after e).requests events

/-! ### Work on one client -/

section

variable {l : Listener} {i j : Nat} {c : Client} {work : Connection → Server → Client × Server}

theorem client?_eq_some : l.client? i = some c ↔ l.clients[i]? = some c ∧ c.isOpen = true :=
  Option.filter_eq_some_iff

theorem client?_eq_none (absent : l.clients.length ≤ i) : l.client? i = none := by
  rw [client?, List.getElem?_eq_none absent]
  rfl

theorem heard_self (present : l.client? i = some c) (chunk : Bytes) :
    l.heard i (.receive i chunk) = chunk :=
  if_pos ⟨rfl, by rw [present]; rfl⟩

/-- Only the client that a chunk comes from is heard, and only as long as its connection is open. -/
theorem heard_eq_nil (silent : i ≠ j ∨ l.client? j = none) (chunk : Bytes) :
    l.heard j (.receive i chunk) = [] := by
  refine if_neg fun ⟨same, opened⟩ => ?_
  rcases silent with other | absent
  · exact other same
  · rw [absent] at opened
    cases opened

theorem onClient_of_none (absent : l.client? i = none) : l.onClient i work = l := by
  rw [onClient]
  split
  · rfl
  · next c found =>
    refine if_neg fun opened => ?_
    rw [client?_eq_some.2 ⟨found, opened⟩] at absent
    cases absent

theorem onClient_of_some (present : l.client? i = some c) :
    l.onClient i work =
      let worked := work c.connection l.server
      let told := deliverAll l.maxPacketSize (l.clients.set i worked.1) worked.2
      { l with clients := told.1, server := told.2 } := by
  obtain ⟨found, opened⟩ := client?_eq_some.1 present
  simp only [onClient, found, opened, if_true]

theorem maxPacketSize_onClient : (l.onClient i work).maxPacketSize = l.maxPacketSize := by
  cases present : l.client? i with
  | none => rw [onClient_of_none present]
  | some c => rw [onClient_of_some present]

theorem router_onClient : (l.onClient i work).router = l.router := by
  cases present : l.client? i with
  | none => rw [onClient_of_none present]
  | some c => rw [onClient_of_some present]

theorem length_onClient : (l.onClient i work).clients.length = l.clients.length := by
  cases present : l.client? i with
  | none => rw [onClient_of_none present]
  | some c =>
    rw [onClient_of_some present]
    exact (length_deliverAll _ _ _).trans (List.length_set ..)

theorem intake_onClient (present : l.client? i = some c) :
    (l.onClient i work).server.metrics.intake =
      (work c.connection l.server).2.metrics.intake := by
  rw [onClient_of_some present]
  exact intake_deliverAll _ _ _

/-- The client that is worked on goes on with what the work leaves it. -/
theorem client?_onClient_self {later : Client} (present : l.client? i = some c)
    (goesOn : (l.onClient i work).client? i = some later) :
    (work c.connection l.server).1.isOpen = true ∧
      later.connection.buffer = (work c.connection l.server).1.connection.buffer := by
  rw [onClient_of_some present, client?_eq_some] at goesOn
  obtain ⟨before, found, opened, buffer⟩ := getElem?_deliverAll goesOn.1 goesOn.2
  obtain ⟨there, -⟩ := List.getElem?_eq_some_iff.1 (client?_eq_some.1 present).1
  rw [List.getElem?_set_self there] at found
  obtain rfl := Option.some.inj found
  exact ⟨opened, buffer⟩

/-- Every other client keeps its buffer. -/
theorem client?_onClient_ne {later : Client} (other : i ≠ j)
    (goesOn : (l.onClient i work).client? j = some later) :
    ∃ before, l.client? j = some before ∧ later.connection.buffer = before.connection.buffer := by
  cases present : l.client? i with
  | none =>
    rw [onClient_of_none present] at goesOn
    exact ⟨later, goesOn, rfl⟩
  | some c =>
    rw [onClient_of_some present, client?_eq_some] at goesOn
    obtain ⟨before, found, opened, buffer⟩ := getElem?_deliverAll goesOn.1 goesOn.2
    rw [List.getElem?_set_ne other] at found
    exact ⟨before, client?_eq_some.2 ⟨found, opened⟩, buffer⟩

end

/-- A client that has just connected has sent nothing. -/
theorem client?_accept {l : Listener} {peer : Option Address} {i : Nat} {c : Client}
    (present : (l.accept peer).client? i = some c) :
    l.client? i = some c ∨ i = l.clients.length ∧ c.connection.buffer = [] := by
  rw [accept] at present
  split at present
  · exact .inl present
  · obtain ⟨found, opened⟩ := client?_eq_some.1 present
    rw [List.getElem?_append] at found
    split at found
    · exact .inl (client?_eq_some.2 ⟨found, opened⟩)
    · next old =>
      rw [List.getElem?_singleton] at found
      split at found
      · cases found
        exact .inr ⟨by omega, rfl⟩
      · cases found

theorem length_accept (l : Listener) (peer : Option Address) :
    l.clients.length ≤ (l.accept peer).clients.length := by
  rw [accept]
  split
  · exact Nat.le_refl _
  · simp

theorem maxPacketSize_after (l : Listener) (e : Event) :
    (l.after e).maxPacketSize = l.maxPacketSize := by
  cases e with
  | accept peer =>
    rw [after, accept]
    split <;> rfl
  | receive index chunk => exact maxPacketSize_onClient
  | endOfInput index => exact maxPacketSize_onClient

theorem router_after (l : Listener) (e : Event) : (l.after e).router = l.router := by
  cases e with
  | accept peer =>
    rw [after, accept]
    split <;> rfl
  | receive index chunk => exact router_onClient
  | endOfInput index => exact router_onClient

/-! ### Counting -/

/-- An event counts the requests that it brings, by the sizes of their frames. -/
theorem intake_after {l : Listener} (standard : l.router = .standard) (e : Event) :
    (l.after e).server.metrics.intake =
      l.server.metrics.intake.plus (l.asked e).length
        ((l.asked e).map fun r => r.2.frameSize).sum := by
  cases e with
  | accept peer =>
    refine Eq.trans ?_ (Intake.plus_zero _).symm
    rw [after, accept]
    split <;> rfl
  | receive index chunk =>
    rw [asked]
    cases present : l.client? index with
    | none =>
      rw [after, receive, onClient_of_none present]
      exact (Intake.plus_zero _).symm
    | some c =>
      rw [after, receive, intake_onClient present, intake_settle, standard, Work.intake_receive,
        List.length_map, List.map_map]
      rfl
  | endOfInput index =>
    refine Eq.trans ?_ (Intake.plus_zero _).symm
    cases present : l.client? index with
    | none => rw [after, endOfInput, onClient_of_none present]
    | some c =>
      rw [after, endOfInput, intake_onClient present]
      exact Connection.intake_ended c.connection.session none l.server

/-- **A run counts the requests that are answered, by the sizes of their frames.** -/
theorem intake_run {l : Listener} (standard : l.router = .standard) (events : List Event) :
    (l.run events).server.metrics.intake =
      l.server.metrics.intake.plus (l.requests events).length
        ((l.requests events).map fun r => r.2.frameSize).sum := by
  induction events generalizing l with
  | nil => exact (Intake.plus_zero _).symm
  | cons e events ih =>
    refine (ih ((l.router_after e).trans standard)).trans ?_
    rw [intake_after standard, Intake.plus_plus, requests, List.length_append, List.map_append,
      List.sum_append]

/-! ### Cutting -/

def cutsOf (i : Nat) (log : List (Nat × Cut)) : List Cut := (log.filter (·.1 = i)).map (·.2)

theorem cutsOf_append (i : Nat) (log more : List (Nat × Cut)) :
    cutsOf i (log ++ more) = cutsOf i log ++ cutsOf i more := by
  simp [cutsOf]

theorem cutsOf_map_self (i : Nat) (cuts : List Cut) : cutsOf i (cuts.map (i, ·)) = cuts := by
  simp [cutsOf, List.filter_map, Function.comp_def]

theorem cutsOf_map_ne {i j : Nat} (other : i ≠ j) (cuts : List Cut) :
    cutsOf j (cuts.map (i, ·)) = [] := by
  simp [cutsOf, List.filter_map, Function.comp_def, other]

theorem mem_cutsOf {e : Nat × Cut} {log : List (Nat × Cut)} (logged : e ∈ log) :
    e.2 ∈ cutsOf e.1 log :=
  List.mem_map_of_mem (List.mem_filter.2 ⟨logged, decide_eq_true rfl⟩)

/-- A log of frames accounts for the streams of all clients.  The frames of a client are taken off
its stream, and its open connection waits with the rest. -/
structure Accounted (l : Listener) (stream : Nat → Bytes) (log : List (Nat × Cut)) : Prop where
  taken : ∀ i, ∃ rest, Stream.Takes l.maxPacketSize (stream i) (cutsOf i log) rest ∧
    ∀ c, l.client? i = some c →
      c.connection.buffer = rest ∧ Frame.decode l.maxPacketSize rest = .ok none
  /-- Nothing has come from clients that have yet to connect. -/
  silent : ∀ i, l.clients.length ≤ i → stream i = []

namespace Accounted

variable {l next : Listener} {stream : Nat → Bytes} {log : List (Nat × Cut)}

theorem fresh (maxConnections limit : Nat) (server : Server) :
    (Listener.fresh maxConnections limit server).Accounted (fun _ => []) [] where
  taken _ := ⟨[], .none [], nofun⟩
  silent _ _ := rfl

/-- Nothing changes as long as no buffer does. -/
theorem of_same_buffers (h : l.Accounted stream log)
    (limit : next.maxPacketSize = l.maxPacketSize)
    (size : l.clients.length ≤ next.clients.length)
    (same : ∀ i c, next.client? i = some c →
      ∃ before, l.client? i = some before ∧ c.connection.buffer = before.connection.buffer) :
    next.Accounted stream log where
  taken i := by
    obtain ⟨rest, taken, waits⟩ := h.taken i
    rw [limit]
    refine ⟨rest, taken, fun c present => ?_⟩
    obtain ⟨before, present, buffer⟩ := same i c present
    rw [buffer]
    exact waits before present
  silent i absent := h.silent i (Nat.le_trans size absent)

/-- A new connection has an empty buffer, and nothing has come from its client yet. -/
theorem accept (h : l.Accounted stream log) (peer : Option Address) :
    (l.accept peer).Accounted stream log where
  taken i := by
    obtain ⟨rest, taken, waits⟩ := h.taken i
    rw [show (l.accept peer).maxPacketSize = _ from l.maxPacketSize_after (.accept peer)]
    refine ⟨rest, taken, fun c present => ?_⟩
    rcases client?_accept present with present | ⟨rfl, buffer⟩
    · exact waits c present
    · have nothing := taken.eq_append
      rw [h.silent _ (Nat.le_refl _)] at nothing
      obtain ⟨-, rfl⟩ := List.append_eq_nil_iff.1 nothing.symm
      exact ⟨buffer, rfl⟩
  silent i absent := h.silent i (Nat.le_trans (l.length_accept peer) absent)

/-- The requests of a chunk are cut off the stream of its client. -/
theorem receive (h : l.Accounted stream log) (index : Nat) (chunk : Bytes) :
    ∃ more : List (Nat × Cut),
      more.map (fun e => (e.1, e.2.packet)) = l.asked (.receive index chunk) ∧
      (l.receive index chunk).Accounted
        (fun i => stream i ++ l.heard i (.receive index chunk)) (log ++ more) := by
  cases present : l.client? index with
  | none =>
    have silence (i : Nat) : l.heard i (.receive index chunk) = [] := by
      by_cases same : index = i
      · exact heard_eq_nil (.inr (same ▸ present)) chunk
      · exact heard_eq_nil (.inl same) chunk
    refine ⟨[], by rw [asked, present]; rfl, ?_⟩
    simp only [silence, List.append_nil]
    rwa [Listener.receive, onClient_of_none present]
  | some c =>
    obtain ⟨cuts, left, packets, cut, goesOn⟩ :=
      Work.exists_takes_receive l.router l.maxPacketSize chunk ⟨c.connection, l.server⟩
    refine ⟨cuts.map (index, ·), ?_, ?_, ?_⟩
    · rw [asked, present]
      simp only [← packets, List.map_map]
      rfl
    · intro i
      obtain ⟨rest, taken, waits⟩ := h.taken i
      rw [show (l.receive index chunk).maxPacketSize = _ from maxPacketSize_onClient, cutsOf_append]
      by_cases same : index = i
      · -- the buffer was the rest of the stream, so the frames come right after those of the log
        subst same
        obtain ⟨rfl, -⟩ := waits c present
        simp only [heard_self present, cutsOf_map_self]
        refine ⟨left, (taken.append chunk).trans cut, fun later present' => ?_⟩
        obtain ⟨opened, buffer⟩ := client?_onClient_self present present'
        obtain ⟨kept, decoded⟩ := goesOn (ok_of_settle opened)
        exact ⟨buffer.trans ((buffer_settle _).trans kept), decoded⟩
      · simp only [heard_eq_nil (.inl same), cutsOf_map_ne same, List.append_nil]
        refine ⟨rest, taken, fun later present' => ?_⟩
        obtain ⟨before, present, buffer⟩ := client?_onClient_ne same present'
        rw [buffer]
        exact waits before present
    · intro i absent
      rw [show (l.receive index chunk).clients.length = _ from length_onClient] at absent
      simp only [heard_eq_nil (.inr (client?_eq_none absent)), h.silent i absent,
        List.append_nil]

/-- **An event takes frames off the streams.** -/
theorem after (h : l.Accounted stream log) (e : Event) :
    ∃ more : List (Nat × Cut), more.map (fun e => (e.1, e.2.packet)) = l.asked e ∧
      (l.after e).Accounted (fun i => stream i ++ l.heard i e) (log ++ more) := by
  cases e with
  | accept peer =>
    refine ⟨[], rfl, ?_⟩
    simp only [heard, List.append_nil]
    exact h.accept peer
  | receive index chunk => exact h.receive index chunk
  | endOfInput index =>
    refine ⟨[], rfl, ?_⟩
    simp only [heard, List.append_nil]
    refine h.of_same_buffers maxPacketSize_onClient (Nat.le_of_eq length_onClient.symm) ?_
    intro i later present
    by_cases same : index = i
    · subst same
      cases found : l.client? index with
      | none =>
        rw [Listener.after, endOfInput, onClient_of_none found, found] at present
        cases present
      | some c =>
        obtain ⟨closed, -⟩ := client?_onClient_self found present
        cases closed
    · exact client?_onClient_ne same present

/-- **A run takes the requests that are answered off the streams.** -/
theorem run (h : l.Accounted stream log) (events : List Event) :
    ∃ more : List (Nat × Cut), more.map (fun e => (e.1, e.2.packet)) = l.requests events ∧
      (l.run events).Accounted (fun i => stream i ++ l.stream i events) (log ++ more) := by
  induction events generalizing l stream log with
  | nil =>
    refine ⟨[], rfl, ?_⟩
    simp only [Listener.stream, List.append_nil]
    exact h
  | cons e events ih =>
    obtain ⟨first, asked, h'⟩ := h.after e
    obtain ⟨others, later, h''⟩ := ih h'
    refine ⟨first ++ others, ?_, ?_⟩
    · rw [List.map_append, asked, later, requests]
    · simp only [Listener.stream, ← List.append_assoc]
      exact h''

end Accounted

/-! ### Bytes -/

/-- A log says what a run has taken in. -/
structure Logged (l : Listener) (events : List Event) (log : List (Nat × Cut)) : Prop where
  /-- It has the requests that were answered, in order. -/
  requests : log.map (fun e => (e.1, e.2.packet)) = l.requests events
  /-- Its frames are what was taken off the streams. -/
  accounted : (l.run events).Accounted (fun i => l.stream i events) log
  lengths : ∀ e ∈ log, e.2.frame.length = e.2.packet.frameSize + e.2.surplus
  /-- Every frame is counted. -/
  frames : (l.run events).server.metrics.packetsReceived =
    l.server.metrics.packetsReceived + .ofNat log.length
  /-- Every byte is counted but for the surplus. -/
  bytes : (l.run events).server.metrics.bytesReceived +
      .ofNat (log.map fun e => e.2.surplus).sum =
    l.server.metrics.bytesReceived + .ofNat (log.map fun e => e.2.frame.length).sum

/-- Frames are as long as their packets say but for the surplus, all together. -/
theorem sum_length {log : List (Nat × Cut)}
    (lengths : ∀ e ∈ log, e.2.frame.length = e.2.packet.frameSize + e.2.surplus) :
    (log.map fun e => e.2.frame.length).sum =
      (log.map fun e => e.2.packet.frameSize).sum + (log.map fun e => e.2.surplus).sum := by
  rw [List.map_congr_left lengths, List.sum_map_add]

/-- **The bytes counted are those of the frames that were decoded, but for the surplus.**  A frame
that is decoded is cut off its buffer, and is as long as its packet says but for the surplus.  In
every run of clients on a listener, the frames that were decoded and answered have been cut off the
streams of their clients one after another, and the counter of bytes has grown by their length
without the surplus. -/
theorem received_run (maxConnections limit : Nat) (server : Server) (events : List Event) :
    (∀ buffer p rest, Frame.decode limit buffer = .ok (some (p, rest)) →
      ∃ frame, buffer = frame ++ rest ∧
        frame.length = p.frameSize + (Cut.mk frame p).surplus) ∧
    ∃ log, (fresh maxConnections limit server).Logged events log := by
  refine ⟨fun buffer p rest => Frame.exists_cut_of_decode, ?_⟩
  obtain ⟨log, requests, accounted⟩ := (Accounted.fresh maxConnections limit server).run events
  simp only [List.nil_append] at accounted
  have lengths : ∀ e ∈ log, e.2.frame.length = e.2.packet.frameSize + e.2.surplus := by
    intro e logged
    obtain ⟨rest, taken, -⟩ := accounted.taken e.1
    exact taken.length_of_mem e.2 (mem_cutsOf logged)
  have intake := intake_run (l := fresh maxConnections limit server) rfl events
  rw [← requests, List.length_map, List.map_map] at intake
  have bytes := congrArg Intake.bytes intake
  refine ⟨log, requests, accounted, lengths, congrArg Intake.frames intake, ?_⟩
  rw [sum_length lengths, UInt64.ofNat_add, ← UInt64.add_assoc]
  exact congrArg (· + _) bytes

/-- Two clients ping.  The first frame of one is long for its empty content, and its second one
comes in two chunks.  Two bytes of 38 are not counted. -/
theorem received_run_two :
    let long : Bytes := [0, 0, 0, 9, 0, 2, 0, 0, 0, 0x10, 0, 7, 0, 0]
    let plain : Bytes := [0, 0, 0, 9, 0, 2, 0, 0, 0, 0, 0, 8]
    let p : Packet := .received ⟨9, 2, 0, .incoming, 7⟩ []
    let l := fresh 2 4096 (.start .empty)
    let events : List Event :=
      [.accept none, .accept none, .receive 0 (long ++ plain.take 5), .receive 1 plain,
        .receive 0 (plain.drop 5), .endOfInput 1]
    Frame.decode 4096 (long ++ plain) = .ok (some (p, plain)) ∧
      (∃ frame, long ++ plain = frame ++ plain ∧
        frame.length = p.frameSize + (Cut.mk frame p).surplus) ∧
      (∃ log, l.Logged events log) ∧
      (l.requests events).map (fun r => (r.1, r.2.header.id)) = [(0, 7), (1, 8), (0, 8)] ∧
      (l.stream 0 events ++ l.stream 1 events).length = 38 ∧
      (l.run events).server.metrics.bytesReceived = 36 := by
  intro long plain p l events
  have decoded : Frame.decode 4096 (long ++ plain) = .ok (some (p, plain)) := by cbv
  obtain ⟨cut, counted⟩ := received_run 2 4096 (.start .empty) events
  refine ⟨decoded, cut _ p plain decoded, counted, ?_, ?_, ?_⟩
  · decide +kernel
  · decide +kernel
  · decide +kernel

/-- Of a frame that carries a high half of its length without need, fewer bytes are counted than are
taken off the stream. -/
theorem received_run_long :
    let long : Bytes := [0, 0, 0, 9, 0, 2, 0, 0, 0, 0x10, 0, 7, 0, 0]
    let p : Packet := .received ⟨9, 2, 0, .incoming, 7⟩ []
    let l := fresh 1 4096 (.start .empty)
    let events : List Event := [.accept none, .receive 0 long, .endOfInput 0]
    Frame.decode 4096 long = .ok (some (p, [])) ∧ long.length ≠ p.frameSize ∧
      l.stream 0 events = long ∧
      (l.requests events).map (fun r => (r.1, r.2.header.id)) = [(0, 7)] ∧
      (l.run events).server.metrics.bytesReceived ≠ .ofNat long.length := by
  intro long p l events
  refine ⟨by cbv, by decide, ?_, ?_, ?_⟩
  · decide +kernel
  · decide +kernel
  · decide +kernel

end Listener

end Lobby
