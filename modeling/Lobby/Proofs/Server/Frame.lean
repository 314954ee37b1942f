import Lobby.Proofs.Server.Seating
import Lobby.Server.Matchmaking

/-!
# The seating of a server

What a server does to its seating.  Most of it does nothing: packets, players, reports, attributes
and counters leave the seating alone.  What is left are the basic changes: to the queue, to the link
of a session, to a game, and to the registers.
-/

namespace Lobby

/-! ### Packets do not touch a session -/

namespace Session

@[simp] theorem registered_deliver (x : Session) (entry : Outbound) :
    (x.deliver entry).registered = x.registered := by
  rw [deliver]
  split <;> rfl

@[simp] theorem seat_deliver (x : Session) (entry : Outbound) :
    (x.deliver entry).seat = x.seat := by
  rw [deliver]
  split <;> rfl

@[simp] theorem registered_pushAll (x : Session) (ps : List Packet) :
    (x.pushAll ps).registered = x.registered := by
  rw [pushAll]
  split
  · rfl
  · exact x.registered_deliver _

@[simp] theorem seat_pushAll (x : Session) (ps : List Packet) : (x.pushAll ps).seat = x.seat := by
  rw [pushAll]
  split
  · rfl
  · exact x.seat_deliver _

@[simp] theorem registered_leave (x : Session) (i : GameId) :
    (x.leave i).registered = x.registered := by
  rw [leave]
  split <;> rfl

end Session

def Game.lineup (g : Game) : Lineup := ⟨g.id, g.registered, g.active, g.roster⟩

namespace Server

def seating (s : Server) : Seating where
  present id := (s.findSession? id).isSome
  seat id := (s.session id).seat
  lineup i := (s.games.get? i).map Game.lineup
  queue := s.queue.map (·.session)
  nextSession := s.nextSession
  created := s.created

theorem isQueued_iff (s : Server) (id : SessionId) : s.isQueued id ↔ id ∈ s.seating.queue := by
  simp [isQueued, seating]

theorem lineup_seating (s : Server) {i : GameId} {g : Game} (found : s.games.get? i = some g) :
    s.seating.lineup i = some g.lineup := by
  simp [seating, found]

/-! ### Changes of a session -/

theorem get?_updateSession (s : Server) (id other : SessionId) (f : Session → Session) :
    (s.updateSession id f).sessions.get? other =
      if other = id then (s.sessions.get? other).map f else s.sessions.get? other :=
  s.sessions.get?_modify id other f

theorem present_updateSession (s : Server) (id : SessionId) {f : Session → Session}
    (registered : ∀ x, s.sessions.get? id = some x → (f x).registered = x.registered) :
    (s.updateSession id f).seating.present = s.seating.present := by
  funext other
  show ((s.updateSession id f).findSession? other).isSome = (s.findSession? other).isSome
  rw [findSession?, findSession?, get?_updateSession]
  split
  · next e =>
    subst e
    cases found : s.sessions.get? other with
    | none => rfl
    | some x =>
      rw [Option.map_some, Option.filter_some, Option.filter_some, registered x found]
      split <;> rfl
  · rfl

/-- A change of a session that keeps its registration and gives it a seat. -/
theorem seating_updateSession_setSeat (s : Server) (id : SessionId) {seat : Option Seat}
    {f : Session → Session}
    (registered : ∀ x, s.sessions.get? id = some x → (f x).registered = x.registered)
    (result : ∀ x, s.sessions.get? id = some x → (f x).seat = seat)
    (missing : s.sessions.get? id = none → seat = none) :
    (s.updateSession id f).seating = s.seating.setSeat id seat := by
  have present := s.present_updateSession id registered
  have link : (s.updateSession id f).seating.seat = (s.seating.setSeat id seat).seat := by
    funext other
    show ((s.updateSession id f).session other).seat =
      if other = id then seat else (s.session other).seat
    rw [session, session, get?_updateSession]
    split
    · next e =>
      subst e
      cases found : s.sessions.get? other with
      | none => rw [missing found]; rfl
      | some x => exact result x found
    · rfl
  exact Seating.ext present link rfl rfl rfl rfl

/-- A change of a session that keeps its link and its registration leaves the seating alone. -/
theorem seating_updateSession (s : Server) (id : SessionId) {f : Session → Session}
    (registered : ∀ x, (f x).registered = x.registered) (seat : ∀ x, (f x).seat = x.seat) :
    (s.updateSession id f).seating = s.seating := by
  have link : (s.updateSession id f).seating.seat = s.seating.seat := by
    funext other
    show ((s.updateSession id f).session other).seat = (s.session other).seat
    rw [session, session, get?_updateSession]
    split
    · cases s.sessions.get? other with
      | none => rfl
      | some x => exact seat x
    · rfl
  have present := s.present_updateSession id fun x _ => registered x
  exact Seating.ext present link rfl rfl rfl rfl

@[simp] theorem seating_push (s : Server) (id : SessionId) (p : Packet) :
    (s.push id p).seating = s.seating :=
  s.seating_updateSession id (fun x => x.registered_deliver _) (fun x => x.seat_deliver _)

@[simp] theorem seating_pushAll (s : Server) (id : SessionId) (ps : List Packet) :
    (s.pushAll id ps).seating = s.seating :=
  s.seating_updateSession id (fun x => x.registered_pushAll ps) (fun x => x.seat_pushAll ps)

/-- Doing something for several sessions leaves the seating alone if doing it for one does. -/
theorem seating_foldl {f : Server → SessionId → Server} (one : ∀ s id, (f s id).seating = s.seating)
    (s : Server) (ids : List SessionId) : (ids.foldl f s).seating = s.seating := by
  induction ids generalizing s with
  | nil => rfl
  | cons id ids ih =>
    rw [List.foldl_cons, ih, one]

@[simp] theorem seating_pushEach (s : Server) (ids : List SessionId) (p : Packet) :
    (s.pushEach ids p).seating = s.seating :=
  seating_foldl (fun s id => s.seating_push id p) s ids

@[simp] theorem seating_close (s : Server) (id : SessionId) : (s.close id).seating = s.seating :=
  s.seating_updateSession id (fun _ => rfl) (fun _ => rfl)

@[simp] theorem seating_setPlayer (s : Server) (id : SessionId) (player : Option Player) :
    (s.setPlayer id player).seating = s.seating :=
  s.seating_updateSession id (fun _ => rfl) (fun _ => rfl)

@[simp] theorem seating_setSeeking (s : Server) (id : SessionId) (seeking : Bool) :
    (s.setSeeking id seeking).seating = s.seating :=
  s.seating_updateSession id (fun _ => rfl) (fun _ => rfl)

@[simp] theorem seating_setNetwork (s : Server) (id : SessionId) (network : Network) :
    (s.setNetwork id network).seating = s.seating :=
  s.seating_updateSession id (fun _ => rfl) (fun _ => rfl)

@[simp] theorem seating_setHardware (s : Server) (id : SessionId) (hardware : UInt16) :
    (s.setHardware id hardware).seating = s.seating :=
  s.seating_updateSession id (fun _ => rfl) (fun _ => rfl)

@[simp] theorem seating_recordPing (s : Server) (id : SessionId) :
    (s.recordPing id).seating = s.seating :=
  s.seating_updateSession id (fun _ => rfl) (fun _ => rfl)

@[simp] theorem seating_settle (s : Server) (id : SessionId) :
    (s.settle id).seating = s.seating := by
  rw [settle]
  split
  · rfl
  · exact s.seating_setSeeking id false

@[simp] theorem seating_count (s : Server) (f : Metrics → Metrics) :
    (s.count f).seating = s.seating := rfl

theorem seating_setQueue (s : Server) (queue : List Seeker) :
    (s.setQueue queue).seating = s.seating.setQueue (queue.map (·.session)) := rfl

/-- What a link that is granted changes. -/
theorem eq_of_claim {s t : Server} {id : SessionId} {seat : Seat} (h : s.claim id seat = .ok t) :
    t = s.updateSession id fun _ => { s.session id with seat := some seat } := by
  rw [claim, Session.claim] at h
  split at h
  · split at h
    · exact (Except.ok.inj h).symm
    · cases h
  · exact (Except.ok.inj h).symm

theorem games_claim {s t : Server} {id : SessionId} {seat : Seat} (h : s.claim id seat = .ok t) :
    t.games = s.games := by
  rw [eq_of_claim h]
  rfl

/-- Linking a session to a seat. -/
theorem seating_claim {s t : Server} {id : SessionId} {seat : Seat}
    (present : s.seating.present id = true) (h : s.claim id seat = .ok t) :
    t.seating = s.seating.setSeat id (some seat) := by
  rw [eq_of_claim h]
  refine s.seating_updateSession_setSeat id ?_ (fun _ _ => rfl) ?_
  · intro x found
    rw [session, found]
    rfl
  · intro missing
    simp [seating, findSession?, missing] at present

/-- Unlinking a session from the game it is linked to. -/
theorem seating_unlink (s : Server) (id : SessionId) {seat : Seat}
    (held : s.seating.seat id = some seat) :
    (s.unlink id seat.game).seating = s.seating.setSeat id none := by
  refine s.seating_updateSession_setSeat id (fun x _ => x.registered_leave _) ?_ (fun _ => rfl)
  intro x found
  have held : x.seat = some seat := by simpa [seating, session, found] using held
  simp [Session.leave, held]

theorem seating_deregister (s : Server) (id : SessionId) :
    (s.deregister id).seating = s.seating.depart id := by
  have link : (s.deregister id).seating.seat = s.seating.seat := by
    funext other
    show ((s.deregister id).session other).seat = (s.session other).seat
    rw [session, session, deregister, get?_updateSession]
    split
    · cases s.sessions.get? other <;> rfl
    · rfl
  have present : (s.deregister id).seating.present = (s.seating.depart id).present := by
    funext other
    show ((s.deregister id).findSession? other).isSome =
      if other = id then false else (s.findSession? other).isSome
    rw [findSession?, findSession?, deregister, get?_updateSession]
    split
    · cases s.sessions.get? other <;> rfl
    · rfl
  exact Seating.ext present link rfl rfl rfl rfl

/-- A new session has no seat, like one that is missing. -/
theorem seating_connect (s : Server) (peer : Option Address)
    (fresh : s.seating.seat s.nextSession = none) :
    (s.connect peer).2.seating = s.seating.connect := by
  have link : (s.connect peer).2.seating.seat = s.seating.seat := by
    funext other
    show ((s.connect peer).2.session other).seat = (s.session other).seat
    rw [session, connect, SortedMap.get?_insert]
    split
    · next e =>
      subst e
      exact fresh.symm
    · rfl
  have present : (s.connect peer).2.seating.present = s.seating.connect.present := by
    funext other
    show ((s.connect peer).2.findSession? other).isSome =
      if other = s.nextSession then true else (s.findSession? other).isSome
    rw [findSession?, findSession?, connect, SortedMap.get?_insert]
    by_cases e : s.nextSession = other
    · rw [if_pos e, if_pos e.symm]
      rfl
    · rw [if_neg e, if_neg fun e' => e e'.symm]
  exact Seating.ext present link rfl rfl rfl rfl

/-! ### Changes of a game -/

/-- A change of a game that is not one of its lineup leaves the seating alone. -/
theorem seating_updateGame (s : Server) (i : GameId) {f : Game → Game}
    (lineup : ∀ g, (f g).lineup = g.lineup) : (s.updateGame i f).seating = s.seating := by
  have games : (s.updateGame i f).seating.lineup = s.seating.lineup := by
    funext j
    show ((s.games.modify i f).get? j).map Game.lineup = (s.games.get? j).map Game.lineup
    rw [SortedMap.get?_modify]
    split
    · rw [Option.map_map]
      exact congrArg (Option.map · _) (funext lineup)
    · rfl
  exact Seating.ext rfl rfl games rfl rfl rfl

theorem seating_updateGame_setLineup (s : Server) {i : GameId} {g : Game} (f : Game → Game)
    (found : s.games.get? i = some g) :
    (s.updateGame i f).seating = s.seating.setLineup i (f g).lineup := by
  have games : (s.updateGame i f).seating.lineup = (s.seating.setLineup i (f g).lineup).lineup := by
    funext j
    show ((s.games.modify i f).get? j).map Game.lineup =
      if j = i then some (f g).lineup else (s.games.get? j).map Game.lineup
    rw [SortedMap.get?_modify]
    split
    · next e =>
      rw [e, found]
      rfl
    · rfl
  exact Seating.ext rfl rfl games rfl rfl rfl

theorem seating_insertGame (s : Server) (i : GameId) (g : Game) (created : UInt32) :
    Server.seating { s with games := s.games.insert i g, created } =
      Seating.setLineup { s.seating with created } i g.lineup := by
  have games : (fun j => ((s.games.insert i g).get? j).map Game.lineup) =
      (Seating.setLineup { s.seating with created } i g.lineup).lineup := by
    funext j
    show ((s.games.insert i g).get? j).map Game.lineup =
      if j = i then some g.lineup else (s.games.get? j).map Game.lineup
    rw [SortedMap.get?_insert]
    by_cases e : i = j
    · rw [if_pos e, if_pos e.symm]
      rfl
    · rw [if_neg e, if_neg fun e' => e e'.symm]
  exact Seating.ext rfl rfl games rfl rfl rfl

/-! ### Changes the members are told of -/

@[simp] theorem seating_notifyCreated (s : Server) (i : GameId) :
    (s.notifyCreated i).seating = s.seating := by
  rw [notifyCreated]
  split
  · rfl
  · exact s.seating_push _ _

@[simp] theorem seating_introduce (s : Server) (i : GameId) (newcomer : Member)
    (context : JoinContext) (others : List SessionId) :
    (s.introduce i newcomer context others).seating = s.seating := by
  rw [introduce]
  split
  · rfl
  · rw [seating_pushAll]
    exact seating_foldl (fun s other => s.seating_pushAll other _) s others

@[simp] theorem seating_broadcast (s : Server) (i : GameId) (p : Packet)
    (except : Option SessionId) : (s.broadcast i p except).seating = s.seating := by
  rw [broadcast]
  split
  · rfl
  · exact s.seating_pushEach _ p

@[simp] theorem seating_addAttributes (s : Server) (i : GameId) (attributes : Attributes) :
    (s.addAttributes i attributes).seating = s.seating :=
  s.seating_updateGame i fun _ => rfl

@[simp] theorem seating_broadcastAttributes (s : Server) (i : GameId) :
    (s.broadcastAttributes i).seating = s.seating := by
  rw [broadcastAttributes]
  split
  · rfl
  · rw [seating_broadcast]
    exact s.seating_updateGame i fun _ => rfl

@[simp] theorem seating_setState (s : Server) (i : GameId) (state : UInt16) :
    (s.setState i state).seating = s.seating := by
  rw [setState, seating_broadcast]
  exact s.seating_updateGame i fun _ => rfl

@[simp] theorem seating_setSetting (s : Server) (i : GameId) (setting : UInt16) :
    (s.setSetting i setting).seating = s.seating := by
  rw [setSetting, seating_broadcast]
  exact s.seating_updateGame i fun _ => rfl

end Server

end Lobby
