import Lobby.Proofs.Request.Moves

/-!
# Runs of a server

A run is what becomes of a server as sessions connect, make requests, stop listening and disconnect,
one event after another.  Requests and disconnects are those of registered sessions, and the ids of
sessions and games do not run out.

In every state of such a run links and rosters agree (`Server.consistent_run`).
-/

namespace Lobby

inductive Event where
  | connect (peer : Option Address)
  | request (session : SessionId) (packet : Packet)
  /-- A connection lets go of the outbox of its session. -/
  | close (session : SessionId)
  | disconnect (session : SessionId)
  /-- Time passes. -/
  | wait (clock : UInt64)
  /-- The store changes without a request. -/
  | restock (store : Store)

namespace Server

def after (s : Server) : Event → Server
  | .connect peer => (s.connect peer).2
  | .request session packet => (Router.standard.dispatch s session packet).2
  | .close session => s.close session
  | .disconnect session => s.disconnect session
  | .wait clock => { s with clock }
  | .restock store => { s with store }

def run (s : Server) (events : List Event) : Server := events.foldl after s

/-- Requests and disconnects are those of registered sessions. -/
def admits (s : Server) : Event → Bool
  | .request session _ | .disconnect session => (s.findSession? session).isSome
  | _ => true

def admitsAll (s : Server) : List Event → Bool
  | [] => true
  | e :: events => s.admits e && (s.after e).admitsAll events

def sessionsCreated (events : List Event) : Nat :=
  (events.filter fun | .connect _ => true | _ => false).length

/-- The number of games that events create, as the counter that numbers them grows. -/
def gamesCreated (s : Server) : List Event → Nat
  | [] => 0
  | e :: events => ((s.after e).created - s.created).toNat + (s.after e).gamesCreated events

/-- Every event is admitted when it happens, and there are ids for all sessions and games. -/
structure Feasible (s : Server) (events : List Event) : Prop where
  admitted : s.admitsAll events = true
  sessions : s.nextSession.toNat + sessionsCreated events < UInt32.size
  games : s.created.toNat + s.gamesCreated events + 1 < UInt32.size

/-! ### One event -/

variable {s : Server}

/-- The next session to come is in no game. -/
theorem fresh_nextSession (h : s.seating.Coherent) : s.seating.seat s.nextSession = none := by
  by_contra seat
  have present := h.seated _ seat
  rw [h.nextSession s.nextSession (UInt32.le_refl _)] at present
  cases present

/-- **An event keeps the seating coherent**, and only a connection takes an id of a session. -/
theorem coherent_after (h : s.seating.Coherent) {e : Event} (admitted : s.admits e = true)
    (ids : s.nextSession.toNat + sessionsCreated [e] < UInt32.size)
    (room : s.created.toNat + 1 < UInt32.size) :
    (s.after e).seating.Coherent ∧
      (s.after e).nextSession.toNat = s.nextSession.toNat + sessionsCreated [e] := by
  cases e with
  | connect peer =>
    constructor
    · rw [after, seating_connect s peer (fresh_nextSession h)]
      exact h.connect ids
    · show (s.nextSession + 1).toNat = s.nextSession.toNat + 1
      rw [UInt32.toNat_add, UInt32.toNat_one]
      exact Nat.mod_eq_of_lt ids
  | request session packet =>
    have moves := Router.moves_dispatch h admitted room packet
    exact ⟨h.moves moves, congrArg UInt32.toNat moves.nextSession⟩
  | close session =>
    rw [after, seating_close]
    exact ⟨h, rfl⟩
  | disconnect session =>
    have moves := moves_leaveActivities h session disconnectedReason
    exact ⟨coherent_disconnect h session, congrArg UInt32.toNat moves.nextSession⟩
  | wait clock => exact ⟨h, rfl⟩
  | restock store => exact ⟨h, rfl⟩

theorem toNat_eq_add_sub {a b : UInt32} (h : b.toNat + (a - b).toNat < UInt32.size) :
    a.toNat = b.toNat + (a - b).toNat := by
  have sum : b + (a - b) = a := by
    rw [UInt32.add_comm, UInt32.sub_add_cancel]
  have := congrArg UInt32.toNat sum
  rw [UInt32.toNat_add, Nat.mod_eq_of_lt h] at this
  exact this.symm

/-- What is feasible goes on to be feasible. -/
theorem Feasible.after (h : s.seating.Coherent) {e : Event} {events : List Event}
    (feasible : s.Feasible (e :: events)) :
    (s.after e).seating.Coherent ∧ (s.after e).Feasible events := by
  obtain ⟨admitted, sessions, games⟩ := feasible
  obtain ⟨first, rest⟩ := Bool.and_eq_true_iff.1 admitted
  have split : sessionsCreated (e :: events) = sessionsCreated [e] + sessionsCreated events := by
    show (List.filter _ ([e] ++ events)).length = _
    rw [List.filter_append, List.length_append]
    rfl
  rw [split] at sessions
  rw [gamesCreated] at games
  obtain ⟨coherent, next⟩ := coherent_after h first (by omega) (by omega)
  have created := toNat_eq_add_sub (a := (s.after e).created) (b := s.created) (by omega)
  exact ⟨coherent, rest, by omega, by omega⟩

/-! ### Whole runs -/

theorem coherent_start (store : Store) : (start store).seating.Coherent where
  seat := by
    intro i l found
    cases found
  member := by
    intro id seat held
    cases held
  lineup := by
    intro i l found
    cases found
  seated := by
    intro id held
    exact absurd rfl held
  queued := by
    intro id hid
    cases hid
  distinct := List.nodup_nil
  nextSession := by
    intro id _
    rfl
  created := by
    intro i _
    rfl

theorem coherent_run {events : List Event} (h : s.seating.Coherent) (feasible : s.Feasible events) :
    (s.run events).seating.Coherent := by
  induction events generalizing s with
  | nil => exact h
  | cons e events ih =>
    obtain ⟨coherent, rest⟩ := feasible.after h
    exact ih coherent rest

theorem run_append (s : Server) (past more : List Event) :
    s.run (past ++ more) = (s.run past).run more :=
  List.foldl_append

/-- What is feasible is feasible as far as it goes, and goes on to be. -/
theorem Feasible.run {past more : List Event} (h : s.seating.Coherent)
    (feasible : s.Feasible (past ++ more)) :
    (s.run past).seating.Coherent ∧ (s.run past).Feasible more := by
  induction past generalizing s with
  | nil => exact ⟨h, feasible⟩
  | cons e past ih =>
    obtain ⟨coherent, rest⟩ := feasible.after h
    exact ih coherent rest

/-- What every event of a feasible run keeps, the run keeps. -/
theorem Feasible.keep {P : Server → Prop} {events : List Event}
    (step : ∀ {s : Server} {e : Event}, s.seating.Coherent → s.admits e = true →
      s.created.toNat + 1 < UInt32.size → P s → P (s.after e))
    (h : s.seating.Coherent) (feasible : s.Feasible events) (start : P s) : P (s.run events) := by
  induction events generalizing s with
  | nil => exact start
  | cons e events ih =>
    obtain ⟨coherent, rest⟩ := feasible.after h
    obtain ⟨admitted, -, games⟩ := feasible
    rw [gamesCreated] at games
    exact ih coherent rest (step h (Bool.and_eq_true_iff.1 admitted).1 (by omega) start)

/-- The links of sessions, the rosters of games, the queue and the registers agree. -/
structure Consistent (s : Server) : Prop where
  /-- A session is linked to a seat exactly if a registered game has it there. -/
  link : ∀ id seat, (s.session id).seat = some seat ↔
    ∃ g, s.findGame? seat.game = some g ∧ ∃ m ∈ g.roster, m.session = id ∧ m.slot = seat.slot
  /-- No session is in two entries of rosters. -/
  once : (s.registeredGames.flatMap fun e => e.2.sessions).Nodup
  members : ∀ i g, s.findGame? i = some g → ∀ m ∈ g.roster, (s.findSession? m.session).isSome
  seekers : ∀ k ∈ s.queue, (s.findSession? k.session).isSome
  idle : ∀ k ∈ s.queue, (s.session k.session).seat = none
  games : ∀ i g, s.findGame? i = some g → g.active = true ∧ g.roster ≠ [] ∧ g.id = i

/-- The members of registered games are in rosters of the seating. -/
theorem lineup_of_findGame? {i : GameId} {g : Game} (found : s.findGame? i = some g) :
    s.seating.lineup i = some g.lineup ∧ g.registered = true := by
  obtain ⟨found, registered⟩ := Option.filter_eq_some_iff.1 found
  exact ⟨s.lineup_seating found, registered⟩

/-- Two registered games share no session, since a session has one seat. -/
theorem nodup_sessions (h : s.seating.Coherent) :
    (s.registeredGames.flatMap fun e => e.2.sessions).Nodup := by
  have found (e : GameId × Game) (he : e ∈ s.registeredGames) :
      s.seating.lineup e.1 = some e.2.lineup :=
    s.lineup_seating (s.games.get?_of_mem (List.mem_filter.1 he).1)
  refine List.nodup_flatMap.2 ⟨fun e he => (h.lineup (found e he)).sessions, ?_⟩
  refine (s.games.sorted.filter _).imp_of_mem ?_
  intro a b ha hb lt id hid hid'
  obtain ⟨m, hm, session⟩ := List.mem_map.1 hid
  obtain ⟨o, ho, session'⟩ := List.mem_map.1 hid'
  have first := h.seat (found a ha) m hm
  have second := h.seat (found b hb) o ho
  rw [session] at first
  rw [session', first] at second
  have same : a.1 = b.1 := congrArg Seat.game (Option.some.inj second)
  rw [same] at lt
  exact UInt32.lt_irrefl _ lt

theorem consistent_of_coherent (h : s.seating.Coherent) : s.Consistent where
  link := by
    intro id seat
    constructor
    · intro held
      obtain ⟨l, lineup, m, member, session, slot⟩ := h.member id seat held
      obtain ⟨g, found, rfl⟩ := Option.map_eq_some_iff.1 lineup
      refine ⟨g, ?_, m, member, session, slot⟩
      rw [findGame?, found, Option.filter_some, if_pos]
      exact (h.lineup lineup).registered_of_mem member
    · rintro ⟨g, found, m, member, rfl, slot⟩
      obtain ⟨lineup, -⟩ := lineup_of_findGame? found
      have held := h.seat lineup m member
      rw [slot] at held
      exact held
  once := nodup_sessions h
  members := by
    intro i g found m member
    obtain ⟨lineup, -⟩ := lineup_of_findGame? found
    refine h.seated m.session ?_
    rw [h.seat lineup m member]
    simp
  seekers := by
    intro k hk
    exact (h.queued k.session (List.mem_map_of_mem hk)).1
  idle := by
    intro k hk
    exact (h.queued k.session (List.mem_map_of_mem hk)).2
  games := by
    intro i g found
    obtain ⟨lineup, registered⟩ := lineup_of_findGame? found
    have sound := h.lineup lineup
    have active : g.active = true := sound.registered.symm.trans registered
    exact ⟨active, sound.active.1 active, sound.id⟩

/-- **Links and rosters agree in every state of every run.** -/
theorem consistent_run (store : Store) (events : List Event)
    (feasible : (start store).Feasible events) : ((start store).run events).Consistent :=
  consistent_of_coherent (coherent_run (coherent_start store) feasible)

/-- A player creates a game, a second one finds it, and the first one disconnects. -/
theorem consistent_run_hostless :
    let account (id : PlayerId) (email : String) : Account := ⟨⟨id, email⟩, email, "word", "token"⟩
    let store : Store := ⟨.ofList [(1, account 1 "a@b"), (2, account 2 "c@d")], ∅, ∅, 3, true⟩
    let login (email : String) : Packet :=
      .request Route.login 0 [.string Field.mail email, .string Field.pass "word"]
    let events : List Event :=
      [.connect none, .connect none, .request 1 (login "a@b"), .request 2 (login "c@d"),
        .request 1 (.request Route.createGame 0 []),
        .request 2 (.request Route.startMatchmaking 0 []), .close 1, .disconnect 1]
    (start store).Feasible events ∧ ((start store).run events).Consistent ∧
      ((start store).run events).registeredGames.map (fun e => (e.1, e.2.sessions)) =
        [(1, [2])] := by
  intro account store login events
  have feasible : (start store).Feasible events :=
    ⟨by decide +kernel, by decide +kernel, by decide +kernel⟩
  exact ⟨feasible, consistent_run store events feasible, by decide +kernel⟩

end Server

end Lobby
