import Lobby.Server.Matchmaking

/-!
# Counters apart

What is done to a server does not depend on its counters.  Most of it leaves them alone, so it
commutes with `Server.meter`, which puts other counters in their place.  What counts something
counts the same on any counters (`Server.Counts`, `Server.Blind`), and leaves to the connections
what connections count.
-/

namespace Lobby

structure Traffic where
  received : UInt64
  sent : UInt64
  /-- Connections that ended by the fault of their clients. -/
  faults : UInt64

namespace Traffic

def plus (t : Traffic) (received sent faults : Nat) : Traffic :=
  ⟨t.received + .ofNat received, t.sent + .ofNat sent, t.faults + .ofNat faults⟩

theorem plus_zero (t : Traffic) : t.plus 0 0 0 = t := by
  simp [plus]

theorem plus_plus (t : Traffic) (a b c a' b' c' : Nat) :
    (t.plus a b c).plus a' b' c' = t.plus (a + a') (b + b') (c + c') := by
  simp [plus, UInt64.ofNat_add, UInt64.add_assoc]

end Traffic

structure Intake where
  frames : UInt64
  bytes : UInt64

namespace Intake

def plus (t : Intake) (frames bytes : Nat) : Intake :=
  ⟨t.frames + .ofNat frames, t.bytes + .ofNat bytes⟩

theorem plus_zero (t : Intake) : t.plus 0 0 = t := by
  simp [plus]

theorem plus_plus (t : Intake) (a b a' b' : Nat) :
    (t.plus a b).plus a' b' = t.plus (a + a') (b + b') := by
  simp [plus, UInt64.ofNat_add, UInt64.add_assoc]

end Intake

namespace Metrics

def traffic (m : Metrics) : Traffic := ⟨m.packetsReceived, m.packetsSent, m.protocolErrors⟩

def intake (m : Metrics) : Intake := ⟨m.packetsReceived, m.bytesReceived⟩

end Metrics

namespace Server

/-- The server with other counters. -/
def meter (s : Server) (m : Metrics) : Server := { s with metrics := m }

def metered {α : Type} (m : Metrics) (r : α × Server) : α × Server := (r.1, r.2.meter m)

section

variable (s : Server) (m : Metrics)

@[simp] theorem metrics_meter : (s.meter m).metrics = m := rfl

@[simp] theorem session_meter : (s.meter m).session = s.session := rfl
@[simp] theorem games_meter : (s.meter m).games = s.games := rfl
@[simp] theorem queue_meter : (s.meter m).queue = s.queue := rfl
@[simp] theorem findGame?_meter : (s.meter m).findGame? = s.findGame? := rfl
@[simp] theorem isQueued_meter : (s.meter m).isQueued = s.isQueued := rfl
@[simp] theorem setup?_meter (id : GameId) : (s.meter m).setup? id = s.setup? id := rfl

@[simp] theorem updateGame_meter (id : GameId) (f : Game → Game) :
    (s.meter m).updateGame id f = (s.updateGame id f).meter m := rfl

@[simp] theorem setQueue_meter (queue : List Seeker) :
    (s.meter m).setQueue queue = (s.setQueue queue).meter m := rfl

@[simp] theorem pushAll_meter (id : SessionId) (ps : List Packet) :
    (s.meter m).pushAll id ps = (s.pushAll id ps).meter m := rfl

@[simp] theorem push_meter (id : SessionId) (p : Packet) :
    (s.meter m).push id p = (s.push id p).meter m := rfl

@[simp] theorem unlink_meter (id : SessionId) (i : GameId) :
    (s.meter m).unlink id i = (s.unlink id i).meter m := rfl

@[simp] theorem setSeeking_meter (id : SessionId) (seeking : Bool) :
    (s.meter m).setSeeking id seeking = (s.setSeeking id seeking).meter m := rfl

@[simp] theorem drain_meter (id : SessionId) :
    (s.meter m).drain id = metered m (s.drain id) := rfl

@[simp] theorem evict_meter : (s.meter m).evict = s.evict.meter m := rfl

@[simp] theorem foldl_pushAll_meter (f : SessionId → List Packet) (ids : List SessionId) :
    ids.foldl (fun t other => t.pushAll other (f other)) (s.meter m) =
      (ids.foldl (fun t other => t.pushAll other (f other)) s).meter m := by
  induction ids generalizing s with
  | nil => rfl
  | cons id ids ih => rw [List.foldl_cons, pushAll_meter, ih, List.foldl_cons]

@[simp] theorem pushEach_meter (ids : List SessionId) (p : Packet) :
    (s.meter m).pushEach ids p = (s.pushEach ids p).meter m := by
  induction ids generalizing s with
  | nil => rfl
  | cons id ids ih => exact ih (s.push id p)

@[simp] theorem introduce_meter (id : GameId) (newcomer : Member) (context : JoinContext)
    (others : List SessionId) : (s.meter m).introduce id newcomer context others =
      (s.introduce id newcomer context others).meter m := by
  have arrival : (s.meter m).arrival = s.arrival := rfl
  have welcome : (s.meter m).welcome = s.welcome := rfl
  simp only [introduce, setup?_meter, arrival, welcome]
  split
  · rfl
  · simp only [foldl_pushAll_meter, pushAll_meter]

@[simp] theorem claim_meter (id : SessionId) (seat : Seat) :
    (s.meter m).claim id seat = (s.claim id seat).map (·.meter m) := by
  simp only [claim, session_meter]
  cases Session.claim (s.session id) seat <;> rfl

@[simp] theorem admission_meter (id : GameId) (session : SessionId) :
    (s.meter m).admission id session =
      (s.admission id session).map (Sum.map (fun slot => slot) (metered m)) := by
  simp only [admission, session_meter, games_meter, claim_meter]
  split
  · rfl
  · rfl
  · split
    · rfl
    · split
      · rfl
      · split
        · rfl
        · cases s.claim session _ <;> rfl

@[simp] theorem join_meter (id : GameId) (session : SessionId) (context : JoinContext) :
    (s.meter m).join id session context = metered m (s.join id session context) := by
  simp only [join, admission_meter, games_meter]
  cases s.admission id session with
  | error e => rfl
  | ok r =>
    cases r with
    | inl slot => rfl
    | inr r =>
      simp only [Except.map, Sum.map_inr, metered]
      rw [updateGame_meter, introduce_meter]

@[simp] theorem notifyCreated_meter (id : GameId) :
    (s.meter m).notifyCreated id = (s.notifyCreated id).meter m := by
  simp only [notifyCreated, setup?_meter]
  split <;> rfl

@[simp] theorem createGame_meter (host : SessionId) (attributes : Attributes) (setting : UInt16) :
    (s.meter m).createGame host attributes setting =
      metered m (s.createGame host attributes setting) := by
  have created (t : Server) : (t.meter m).created = t.created := rfl
  simp only [createGame, evict_meter, session_meter, claim_meter, created]
  cases (s.evict.session host).player with
  | none => rfl
  | some player =>
    dsimp only
    cases s.evict.claim host ⟨1 + s.evict.created, 0⟩ with
    | error other => rfl
    | ok t =>
      exact congrArg (Prod.mk _) (notifyCreated_meter { t with games := _, created := _ } m _)

@[simp] theorem dismiss_meter (id : GameId) (player : PlayerId) (reason : Int64) :
    (s.meter m).dismiss id player reason = metered m (s.dismiss id player reason) := by
  simp only [dismiss, games_meter]
  split
  · rfl
  · rw [updateGame_meter, unlink_meter, push_meter, foldl_pushAll_meter, metered]
    rfl

@[simp] theorem dismissSession_meter (id : GameId) (session : SessionId) (reason : Int64) :
    (s.meter m).dismissSession id session reason =
      metered m (s.dismissSession id session reason) := by
  simp only [dismissSession, games_meter]
  split
  · rfl
  · simp

@[simp] theorem releaseIfEmptied_meter (id : GameId) (r : Removal × Server) :
    releaseIfEmptied id (metered m r) = metered m (releaseIfEmptied id r) := by
  obtain ⟨removal, s⟩ := r
  cases removal <;> rfl

@[simp] theorem removePlayer_meter (id : GameId) (player : PlayerId) (reason : Int64) :
    (s.meter m).removePlayer id player reason = metered m (s.removePlayer id player reason) := by
  simp only [removePlayer, findGame?_meter, dismiss_meter, releaseIfEmptied_meter]
  split <;> rfl

@[simp] theorem removeSession_meter (session : SessionId) (reason : Int64) :
    (s.meter m).removeSession session reason = metered m (s.removeSession session reason) := by
  simp only [removeSession, session_meter, findGame?_meter, dismissSession_meter,
    releaseIfEmptied_meter]
  split
  · rfl
  · split <;> rfl

@[simp] theorem broadcast_meter (id : GameId) (p : Packet) (except : Option SessionId) :
    (s.meter m).broadcast id p except = (s.broadcast id p except).meter m := by
  simp only [broadcast, games_meter]
  split
  · rfl
  · simp

@[simp] theorem broadcastAttributes_meter (id : GameId) :
    (s.meter m).broadcastAttributes id = (s.broadcastAttributes id).meter m := by
  simp only [broadcastAttributes, games_meter]
  split
  · rfl
  · rw [updateGame_meter, broadcast_meter]

@[simp] theorem setState_meter (id : GameId) (state : UInt16) :
    (s.meter m).setState id state = (s.setState id state).meter m := by
  rw [setState, updateGame_meter, broadcast_meter, setState]

@[simp] theorem setSetting_meter (id : GameId) (setting : UInt16) :
    (s.meter m).setSetting id setting = (s.setSetting id setting).meter m := by
  rw [setSetting, updateGame_meter, broadcast_meter, setSetting]

@[simp] theorem settle_meter (session : SessionId) :
    (s.meter m).settle session = (s.settle session).meter m := by
  rw [settle, isQueued_meter, setSeeking_meter, settle]
  split <;> rfl

@[simp] theorem place_meter (id : GameId) (seekers : List Seeker) :
    (s.meter m).place id seekers = metered m (s.place id seekers) := by
  induction seekers generalizing s with
  | nil => rfl
  | cons seeker rest ih =>
    simp only [place, join_meter]
    obtain ⟨outcome, t⟩ := s.join id seeker.session .matchmaking
    simp only [metered, settle_meter, ih]
    split <;> rfl

@[simp] theorem putBack_meter (seeker : Seeker) :
    putBack seeker (s.meter m) = (putBack seeker s).meter m := by
  rw [putBack, session_meter, isQueued_meter, queue_meter, setQueue_meter, putBack]
  split <;> rfl

@[simp] theorem foldr_putBack_meter (seekers : List Seeker) :
    seekers.foldr putBack (s.meter m) = (seekers.foldr putBack s).meter m := by
  induction seekers with
  | nil => rfl
  | cons seeker rest ih => rw [List.foldr_cons, ih, putBack_meter, List.foldr_cons]

@[simp] theorem offer_meter (id : GameId) : (s.meter m).offer id = metered m (s.offer id) := by
  have suits : (s.meter m).suits = s.suits := rfl
  simp only [offer, games_meter, suits, queue_meter]
  split
  · rfl
  · rw [setQueue_meter, place_meter, metered, foldr_putBack_meter, metered]

@[simp] theorem withdraw_meter (session : SessionId) :
    (s.meter m).withdraw session = metered m (s.withdraw session) := rfl

@[simp] theorem matchOrEnqueue_meter (session : SessionId) (rules : RuleSet) :
    (s.meter m).matchOrEnqueue session rules = metered m (s.matchOrEnqueue session rules) := by
  have found : (s.meter m).findMatch? = s.findMatch? := rfl
  simp only [matchOrEnqueue, found]
  split <;> rfl

end

/-! ### Counting -/

/-- A counting that leaves the counters of connections alone. -/
def Quiet (g : Metrics → Metrics) : Prop :=
  ∀ m, ((g m).traffic, (g m).intake) = (m.traffic, m.intake)

theorem Quiet.traffic {g : Metrics → Metrics} (quiet : Quiet g) (m : Metrics) :
    (g m).traffic = m.traffic :=
  congrArg Prod.fst (quiet m)

theorem Quiet.intake {g : Metrics → Metrics} (quiet : Quiet g) (m : Metrics) :
    (g m).intake = m.intake :=
  congrArg Prod.snd (quiet m)

/-- A change counts the same on any counters, and nothing that connections count. -/
def Counts (f : Server → Server) (s : Server) : Prop :=
  ∃ g, Quiet g ∧ ∀ m, f (s.meter m) = (f s).meter (g m)

def Blind {α : Type} (op : Server → α × Server) (s : Server) : Prop :=
  ∃ g, Quiet g ∧ ∀ m, op (s.meter m) = metered (g m) (op s)

section

variable {α : Type} {s : Server} {f : Server → Server} {op : Server → α × Server}

theorem counts_of_meter (h : ∀ m, f (s.meter m) = (f s).meter m) : Counts f s :=
  ⟨id, fun _ => rfl, h⟩

theorem blind_of_metered (h : ∀ m, op (s.meter m) = metered m (op s)) : Blind op s :=
  ⟨id, fun _ => rfl, h⟩

theorem Counts.blind (h : Counts f s) (a : α) : Blind (fun s => (a, f s)) s := by
  obtain ⟨g, quiet, same⟩ := h
  exact ⟨g, quiet, fun m => congrArg (Prod.mk a) (same m)⟩

theorem counts_leaveActivities (s : Server) (session : SessionId) (reason : Int64) :
    Counts (fun s => s.leaveActivities session reason) s := by
  simp only [Counts, leaveActivities, withdraw_meter, metered, removeSession_meter]
  generalize (s.withdraw session).2.removeSession session reason = r
  obtain ⟨removal, t⟩ := r
  cases removal with
  | emptied => exact ⟨Metrics.gameReleased, fun _ => rfl, fun _ => rfl⟩
  | _ => exact ⟨id, fun _ => rfl, fun _ => rfl⟩

theorem counts_disconnect (s : Server) (session : SessionId) :
    Counts (fun s => s.disconnect session) s := by
  obtain ⟨g, quiet, left⟩ := counts_leaveActivities s session disconnectedReason
  exact ⟨g, quiet, fun m => congrArg (·.deregister session) (left m)⟩

end

end Server

end Lobby
