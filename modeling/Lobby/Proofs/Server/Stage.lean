import Lobby.Proofs.Server.Matchmaking

/-!
# The stage of a server

Beside who sits where (`Server.seating`) there is what can be seen and heard: whom a session is
logged in as, what it has been told, the games as a whole, and the store.  `Server.stage` is a
server as far as that goes.  The queue, the counters, links and reports are not on stage, so what
changes only them leaves the stage alone.

A session that listens hears everything it is told, in order, whether packets come one by one or
together.  A session that is missing does not listen.
-/

namespace Lobby

/-- The packets queued for a client, in order. -/
def Session.heard (x : Session) : List Packet := x.outbox.flatMap Outbound.packets

@[ext] structure Stage where
  player : SessionId → Option Player
  listening : SessionId → Bool
  heard : SessionId → List Packet
  game : GameId → Option Game
  store : Store

namespace Stage

def setPlayer (g : Stage) (id : SessionId) (player : Option Player) : Stage :=
  { g with player := fun other => if other = id then player else g.player other }

def setGame (g : Stage) (i : GameId) (x : Game) : Stage :=
  { g with game := fun j => if j = i then some x else g.game j }

/-- Every session that listens is told something. -/
def tell (g : Stage) (told : SessionId → List Packet) : Stage :=
  { g with heard := fun id => if g.listening id then g.heard id ++ told id else g.heard id }

/-- A new session listens and has heard nothing. -/
def enter (g : Stage) (id : SessionId) : Stage where
  player other := if other = id then none else g.player other
  listening other := if other = id then true else g.listening other
  heard other := if other = id then [] else g.heard other
  game := g.game
  store := g.store

/-- A session no longer listens, and what it has heard is forgotten. -/
def close (g : Stage) (id : SessionId) : Stage :=
  { g with
    listening := fun other => if other = id then false else g.listening other
    heard := fun other => if other = id then [] else g.heard other }

@[simp] theorem tell_nil (g : Stage) : g.tell (fun _ => []) = g := by
  refine Stage.ext rfl rfl ?_ rfl rfl
  funext id
  simp [tell]

@[simp] theorem tell_tell (g : Stage) (told after : SessionId → List Packet) :
    (g.tell told).tell after = g.tell fun id => told id ++ after id := by
  refine Stage.ext rfl rfl ?_ rfl rfl
  funext id
  simp only [tell]
  split
  · rw [List.append_assoc]
  · rfl

theorem heard_tell {g : Stage} {id : SessionId} (listening : g.listening id = true)
    (told : SessionId → List Packet) : (g.tell told).heard id = g.heard id ++ told id :=
  if_pos listening

theorem mem_heard_tell {g : Stage} {told : SessionId → List Packet} {id : SessionId} {p : Packet}
    (h : p ∈ (g.tell told).heard id) : p ∈ g.heard id ∨ p ∈ told id := by
  simp only [tell] at h
  split at h
  · exact List.mem_append.1 h
  · exact .inl h

theorem setGame_setGame (g : Stage) (i : GameId) (x y : Game) :
    (g.setGame i x).setGame i y = g.setGame i y := by
  refine Stage.ext rfl rfl rfl ?_ rfl
  funext j
  by_cases e : j = i <;> simp [setGame, e]

end Stage

/-! ### Sessions -/

namespace Session

/-- What a session looks like on stage does not change. -/
structure SameOnStage (x y : Session) : Prop where
  player : y.player = x.player
  listening : y.listening = x.listening
  outbox : y.outbox = x.outbox

theorem player_deliver (x : Session) (entry : Outbound) : (x.deliver entry).player = x.player := by
  rw [deliver]
  split <;> rfl

theorem listening_deliver (x : Session) (entry : Outbound) :
    (x.deliver entry).listening = x.listening := by
  rw [deliver]
  split <;> rfl

theorem heard_deliver (x : Session) (entry : Outbound) :
    (x.deliver entry).heard = if x.listening then x.heard ++ entry.packets else x.heard := by
  rw [deliver]
  split <;> simp [heard]

end Session

namespace Server

def stage (s : Server) : Stage where
  player id := (s.session id).player
  listening id := (s.sessions.get? id).any (·.listening)
  heard id := (s.session id).heard
  game i := s.games.get? i
  store := s.store

theorem game_stage (s : Server) (i : GameId) : s.stage.game i = s.games.get? i := rfl

theorem listening_stage {s : Server} {id : SessionId} (present : s.seating.present id = true) :
    s.stage.listening id = (s.session id).listening := by
  show (s.sessions.get? id).any (·.listening) = ((s.sessions.get? id).getD default).listening
  cases found : s.sessions.get? id with
  | none => simp [seating, findSession?, found] at present
  | some x => rfl

/-! ### Changes of a session -/

/-- A change of a session that is not one on stage. -/
theorem stage_updateSession (s : Server) (id : SessionId) {f : Session → Session}
    (same : ∀ x, s.sessions.get? id = some x → x.SameOnStage (f x)) :
    (s.updateSession id f).stage = s.stage := by
  have session (other : SessionId) :
      (s.session other).SameOnStage ((s.updateSession id f).session other) := by
    rw [Server.session, Server.session, get?_updateSession]
    split
    · next e =>
      subst e
      cases found : s.sessions.get? other with
      | none => exact ⟨rfl, rfl, rfl⟩
      | some x => exact same x found
    · exact ⟨rfl, rfl, rfl⟩
  refine Stage.ext ?_ ?_ ?_ rfl rfl
  · funext other
    exact (session other).player
  · funext other
    show ((s.updateSession id f).sessions.get? other).any (·.listening) =
      (s.sessions.get? other).any (·.listening)
    rw [get?_updateSession]
    split
    · next e =>
      subst e
      cases found : s.sessions.get? other with
      | none => rfl
      | some x => exact (same x found).listening
    · rfl
  · funext other
    exact congrArg (List.flatMap Outbound.packets) (session other).outbox

@[simp] theorem stage_setSeeking (s : Server) (id : SessionId) (seeking : Bool) :
    (s.setSeeking id seeking).stage = s.stage :=
  s.stage_updateSession id fun _ _ => ⟨rfl, rfl, rfl⟩

@[simp] theorem stage_setNetwork (s : Server) (id : SessionId) (network : Network) :
    (s.setNetwork id network).stage = s.stage :=
  s.stage_updateSession id fun _ _ => ⟨rfl, rfl, rfl⟩

@[simp] theorem stage_setHardware (s : Server) (id : SessionId) (hardware : UInt16) :
    (s.setHardware id hardware).stage = s.stage :=
  s.stage_updateSession id fun _ _ => ⟨rfl, rfl, rfl⟩

@[simp] theorem stage_recordPing (s : Server) (id : SessionId) :
    (s.recordPing id).stage = s.stage :=
  s.stage_updateSession id fun _ _ => ⟨rfl, rfl, rfl⟩

@[simp] theorem stage_deregister (s : Server) (id : SessionId) :
    (s.deregister id).stage = s.stage :=
  s.stage_updateSession id fun _ _ => ⟨rfl, rfl, rfl⟩

@[simp] theorem stage_unlink (s : Server) (id : SessionId) (i : GameId) :
    (s.unlink id i).stage = s.stage := by
  refine s.stage_updateSession id fun x _ => ?_
  rw [Session.leave]
  split <;> exact ⟨rfl, rfl, rfl⟩

theorem stage_claim {s t : Server} {id : SessionId} {seat : Seat} (h : s.claim id seat = .ok t) :
    t.stage = s.stage := by
  rw [eq_of_claim h]
  refine s.stage_updateSession id fun x found => ?_
  rw [session, found]
  exact ⟨rfl, rfl, rfl⟩

@[simp] theorem stage_settle (s : Server) (id : SessionId) : (s.settle id).stage = s.stage := by
  rw [settle]
  split
  · rfl
  · exact s.stage_setSeeking id false

@[simp] theorem stage_count (s : Server) (f : Metrics → Metrics) :
    (s.count f).stage = s.stage := rfl

@[simp] theorem stage_setQueue (s : Server) (queue : List Seeker) :
    (s.setQueue queue).stage = s.stage := rfl

theorem stage_setPlayer {s : Server} {id : SessionId} (present : s.seating.present id = true)
    (player : Option Player) : (s.setPlayer id player).stage = s.stage.setPlayer id player := by
  obtain ⟨x, found⟩ : ∃ x, s.sessions.get? id = some x := by
    cases found : s.sessions.get? id with
    | none => simp [seating, findSession?, found] at present
    | some x => exact ⟨x, rfl⟩
  have get (other : SessionId) : (s.setPlayer id player).sessions.get? other =
      if other = id then some { x with player } else s.sessions.get? other := by
    rw [setPlayer, get?_updateSession]
    split
    · next e =>
      subst e
      rw [found]
      rfl
    · rfl
  refine Stage.ext ?_ ?_ ?_ rfl rfl <;> funext other
  · show ((s.setPlayer id player).session other).player = if other = id then player else _
    rw [session, get]
    split <;> rfl
  · show ((s.setPlayer id player).sessions.get? other).any (·.listening) =
      (s.sessions.get? other).any (·.listening)
    rw [get]
    split
    · next e =>
      subst e
      rw [found]
      rfl
    · rfl
  · show ((s.setPlayer id player).session other).heard = (s.session other).heard
    rw [session, session, get]
    split
    · next e =>
      subst e
      rw [found]
      rfl
    · rfl

theorem stage_close (s : Server) (id : SessionId) : (s.close id).stage = s.stage.close id := by
  refine Stage.ext ?_ ?_ ?_ rfl rfl <;> funext other
  · show ((s.close id).session other).player = (s.session other).player
    rw [session, session, close, get?_updateSession]
    split
    · cases s.sessions.get? other <;> rfl
    · rfl
  · show ((s.close id).sessions.get? other).any (·.listening) = if other = id then false else _
    rw [close, get?_updateSession]
    split
    · cases s.sessions.get? other <;> rfl
    · rfl
  · show ((s.close id).session other).heard = if other = id then [] else (s.session other).heard
    rw [session, session, close, get?_updateSession]
    split
    · cases s.sessions.get? other <;> rfl
    · rfl

theorem stage_connect (s : Server) (peer : Option Address) :
    (s.connect peer).2.stage = s.stage.enter s.nextSession := by
  have get (other : SessionId) : (s.connect peer).2.sessions.get? other =
      if other = s.nextSession then some (.connected peer) else s.sessions.get? other := by
    rw [connect, SortedMap.get?_insert]
    by_cases e : s.nextSession = other
    · rw [if_pos e, if_pos e.symm]
    · rw [if_neg e, if_neg fun e' => e e'.symm]
  refine Stage.ext ?_ ?_ ?_ rfl rfl <;> funext other
  · show ((s.connect peer).2.session other).player = if other = s.nextSession then none else _
    rw [session, get]
    split <;> rfl
  · show ((s.connect peer).2.sessions.get? other).any (·.listening) =
      if other = s.nextSession then true else _
    rw [get]
    split <;> rfl
  · show ((s.connect peer).2.session other).heard = if other = s.nextSession then [] else _
    rw [session, get]
    split <;> rfl

/-! ### Packets for sessions -/

/-- A change of a session that queues packets for it. -/
theorem stage_updateSession_tell (s : Server) (id : SessionId) {f : Session → Session}
    (ps : List Packet) (player : ∀ x, (f x).player = x.player)
    (listening : ∀ x, (f x).listening = x.listening)
    (heard : ∀ x : Session, (f x).heard = if x.listening then x.heard ++ ps else x.heard) :
    (s.updateSession id f).stage = s.stage.tell fun other => if other = id then ps else [] := by
  refine Stage.ext ?_ ?_ ?_ rfl rfl <;> funext other
  · show ((s.updateSession id f).session other).player = (s.session other).player
    rw [session, session, get?_updateSession]
    split
    · cases s.sessions.get? other with
      | none => rfl
      | some x => exact player x
    · rfl
  · show ((s.updateSession id f).sessions.get? other).any (·.listening) =
      (s.sessions.get? other).any (·.listening)
    rw [get?_updateSession]
    split
    · cases s.sessions.get? other with
      | none => rfl
      | some x => exact listening x
    · rfl
  · show ((s.updateSession id f).session other).heard =
      if (s.sessions.get? other).any (·.listening) then
        (s.session other).heard ++ (if other = id then ps else [])
      else (s.session other).heard
    rw [session, session, get?_updateSession]
    split
    · cases s.sessions.get? other with
      | none => rfl
      | some x => exact heard x
    · rw [List.append_nil, ite_self]

@[simp] theorem stage_push (s : Server) (id : SessionId) (p : Packet) :
    (s.push id p).stage = s.stage.tell fun other => if other = id then [p] else [] :=
  s.stage_updateSession_tell id [p] (fun x => x.player_deliver _) (fun x => x.listening_deliver _)
    fun x => x.heard_deliver _

@[simp] theorem stage_pushAll (s : Server) (id : SessionId) (ps : List Packet) :
    (s.pushAll id ps).stage = s.stage.tell fun other => if other = id then ps else [] := by
  cases ps with
  | nil =>
    have same : (s.pushAll id []).stage = s.stage :=
      s.stage_updateSession id fun _ _ => ⟨rfl, rfl, rfl⟩
    simp [same]
  | cons p ps =>
    exact s.stage_updateSession_tell id (p :: ps) (fun x => x.player_deliver _)
      (fun x => x.listening_deliver _) fun x => x.heard_deliver _

/-- Several sessions are told something each. -/
theorem stage_foldl_pushAll (f : SessionId → List Packet) {ids : List SessionId}
    (distinct : ids.Nodup) (s : Server) :
    (ids.foldl (fun t other => t.pushAll other (f other)) s).stage =
      s.stage.tell fun id => if id ∈ ids then f id else [] := by
  induction ids generalizing s with
  | nil => simp
  | cons first rest ih =>
    obtain ⟨new, distinct⟩ := List.nodup_cons.1 distinct
    rw [List.foldl_cons, ih distinct, stage_pushAll, Stage.tell_tell]
    congr 1
    funext id
    by_cases e : id = first
    · subst e
      simp [new]
    · simp [e]

theorem stage_pushEach (s : Server) {ids : List SessionId} (distinct : ids.Nodup) (p : Packet) :
    (s.pushEach ids p).stage = s.stage.tell fun id => if id ∈ ids then [p] else [] := by
  induction ids generalizing s with
  | nil => simp [pushEach]
  | cons first rest ih =>
    obtain ⟨new, distinct⟩ := List.nodup_cons.1 distinct
    rw [pushEach, List.foldl_cons, ← pushEach, ih _ distinct, stage_push, Stage.tell_tell]
    congr 1
    funext id
    by_cases e : id = first
    · subst e
      simp [new]
    · simp [e]

/-! ### Changes of a game -/

theorem stage_updateGame {s : Server} {i : GameId} {x : Game} (found : s.games.get? i = some x)
    (f : Game → Game) : (s.updateGame i f).stage = s.stage.setGame i (f x) := by
  refine Stage.ext rfl rfl rfl ?_ rfl
  funext j
  show (s.games.modify i f).get? j = if j = i then some (f x) else s.games.get? j
  rw [SortedMap.get?_modify]
  split
  · next e =>
    rw [e, found]
    rfl
  · rfl

theorem stage_insertGame (s : Server) (i : GameId) (x : Game) (created : UInt32) :
    Server.stage { s with games := s.games.insert i x, created } = s.stage.setGame i x := by
  refine Stage.ext rfl rfl rfl ?_ rfl
  funext j
  show (s.games.insert i x).get? j = if j = i then some x else s.games.get? j
  rw [SortedMap.get?_insert]
  by_cases e : i = j
  · rw [if_pos e, if_pos e.symm]
  · rw [if_neg e, if_neg fun e' => e e'.symm]

/-- Every game that is inactive is out of the register already. -/
theorem stage_evict {s : Server} (h : s.seating.Coherent) : s.evict.stage = s.stage := by
  refine Stage.ext rfl rfl rfl ?_ rfl
  funext i
  show s.evict.games.get? i = s.games.get? i
  rw [evict, SortedMap.get?_mapValues]
  cases found : s.games.get? i with
  | none => rfl
  | some x =>
    have registered : x.registered = x.active := (h.lineup (s.lineup_seating found)).registered
    have kept : (x.registered && x.active) = x.registered := by rw [← registered, Bool.and_self]
    rw [Option.map_some, kept]

/-- Everybody in a game is told something. -/
theorem stage_broadcast {s : Server} {i : GameId} {x : Game} (found : s.games.get? i = some x)
    (distinct : x.sessions.Nodup) (p : Packet) :
    (s.broadcast i p none).stage =
      s.stage.tell fun id => if id ∈ x.sessions then [p] else [] := by
  have everybody : (x.sessions.filter fun m => some m ≠ none) = x.sessions := by simp
  rw [broadcast, found]
  simp only [everybody]
  exact stage_pushEach s distinct p

theorem stage_broadcast_none {s : Server} {i : GameId} (missing : s.games.get? i = none)
    (p : Packet) : s.broadcast i p none = s := by
  rw [broadcast, missing]

end Server

end Lobby
