import Lobby.Proofs.Server.Matchmaking

/-!
# The ledger of a server

Beside who sits where and who is told what, a server keeps a ledger: which games are registered, how
many there have been, what has been counted, and the store.  Sessions, rosters and the queue are not
in it, so in whatever state a server is, most of what is done to it leaves the ledger alone.

Two things are entered.  A game that is created comes into the register (`Ledger.enter`), and a game
that a removal has emptied goes out of it (`Ledger.strike`).  Leaving everything strikes a game out
exactly if it counts one as released (`Server.ledger_leaveActivities`).
-/

namespace Lobby

@[ext] structure Ledger where
  listed : GameId → Bool
  created : UInt32
  metrics : Metrics
  store : Store

namespace Ledger

def enter (l : Ledger) : Ledger :=
  { l with
    listed := fun j => if j = 1 + l.created then true else l.listed j
    created := l.created + 1 }

def strike (l : Ledger) (i : GameId) : Ledger :=
  { l with listed := fun j => if j = i then false else l.listed j }

def count (l : Ledger) (f : Metrics → Metrics) : Ledger := { l with metrics := f l.metrics }

end Ledger

/-- A removal leaves it to the register whether a game is in it. -/
theorem Game.registered_remove? {g rest : Game} {player : PlayerId} {m : Member}
    {removal : Removal} (removed : g.remove? player = some (m, removal, rest)) :
    rest.registered = g.registered := by
  rw [remove?] at removed
  split at removed
  · cases removed
  · split at removed
    · cases removed
      rfl
    · split at removed <;> cases removed <;> rfl

namespace Server

def ledger (s : Server) : Ledger where
  listed i := (s.findGame? i).isSome
  created := s.created
  metrics := s.metrics
  store := s.store

variable {s : Server}

/-! ### Changes of sessions and of the queue -/

@[simp] theorem ledger_updateSession (s : Server) (id : SessionId) (f : Session → Session) :
    (s.updateSession id f).ledger = s.ledger := rfl

@[simp] theorem ledger_setQueue (s : Server) (queue : List Seeker) :
    (s.setQueue queue).ledger = s.ledger := rfl

@[simp] theorem ledger_count (s : Server) (f : Metrics → Metrics) :
    (s.count f).ledger = s.ledger.count f := rfl

/-- Doing something for several sessions leaves the ledger alone if doing it for one does. -/
theorem ledger_foldl {f : Server → SessionId → Server} (one : ∀ s id, (f s id).ledger = s.ledger)
    (s : Server) (ids : List SessionId) : (ids.foldl f s).ledger = s.ledger := by
  induction ids generalizing s with
  | nil => rfl
  | cons id ids ih => rw [List.foldl_cons, ih, one]

@[simp] theorem ledger_push (s : Server) (id : SessionId) (p : Packet) :
    (s.push id p).ledger = s.ledger := rfl

@[simp] theorem ledger_pushAll (s : Server) (id : SessionId) (ps : List Packet) :
    (s.pushAll id ps).ledger = s.ledger := rfl

@[simp] theorem ledger_pushEach (s : Server) (ids : List SessionId) (p : Packet) :
    (s.pushEach ids p).ledger = s.ledger :=
  ledger_foldl (fun s id => s.ledger_push id p) s ids

theorem ledger_claim {t : Server} {id : SessionId} {seat : Seat} (h : s.claim id seat = .ok t) :
    t.ledger = s.ledger := by
  rw [eq_of_claim h, ledger_updateSession]

@[simp] theorem ledger_settle (s : Server) (id : SessionId) : (s.settle id).ledger = s.ledger := by
  rw [settle]
  split <;> rfl

@[simp] theorem ledger_withdraw (s : Server) (id : SessionId) :
    (s.withdraw id).2.ledger = s.ledger := rfl

@[simp] theorem ledger_matchOrEnqueue (s : Server) (id : SessionId) (rules : RuleSet) :
    (s.matchOrEnqueue id rules).2.ledger = s.ledger := by
  rw [matchOrEnqueue]
  split <;> rfl

/-! ### Changes of a game -/

theorem findGame?_updateGame (s : Server) (i j : GameId) (f : Game → Game) :
    (s.updateGame i f).findGame? j =
      if j = i then ((s.games.get? j).map f).filter (·.registered) else s.findGame? j := by
  show ((s.games.modify i f).get? j).filter (·.registered) = _
  rw [SortedMap.get?_modify]
  split <;> rfl

/-- A change of a game that the register does not see. -/
theorem ledger_updateGame (s : Server) {i : GameId} {f : Game → Game}
    (registered : ∀ g, s.games.get? i = some g → (f g).registered = g.registered) :
    (s.updateGame i f).ledger = s.ledger := by
  refine Ledger.ext ?_ rfl rfl rfl
  funext j
  show ((s.updateGame i f).findGame? j).isSome = (s.findGame? j).isSome
  rw [findGame?_updateGame]
  split
  · next here =>
    rw [findGame?, here]
    cases found : s.games.get? i with
    | none => rfl
    | some g =>
      rw [Option.map_some, Option.filter_some, Option.filter_some, registered g found]
      split <;> rfl
  · rfl

theorem ledger_release (s : Server) (i : GameId) : (s.release i).ledger = s.ledger.strike i := by
  refine Ledger.ext ?_ rfl rfl rfl
  funext j
  show ((s.release i).findGame? j).isSome = if j = i then false else (s.findGame? j).isSome
  rw [release, findGame?_updateGame]
  split
  · cases s.games.get? j <;> rfl
  · rfl

@[simp] theorem ledger_broadcast (s : Server) (i : GameId) (p : Packet)
    (except : Option SessionId) : (s.broadcast i p except).ledger = s.ledger := by
  rw [broadcast]
  split
  · rfl
  · exact s.ledger_pushEach _ p

@[simp] theorem ledger_addAttributes (s : Server) (i : GameId) (attributes : Attributes) :
    (s.addAttributes i attributes).ledger = s.ledger :=
  s.ledger_updateGame fun _ _ => rfl

@[simp] theorem ledger_broadcastAttributes (s : Server) (i : GameId) :
    (s.broadcastAttributes i).ledger = s.ledger := by
  rw [broadcastAttributes]
  split
  · rfl
  · rw [ledger_broadcast]
    exact s.ledger_updateGame fun _ _ => rfl

@[simp] theorem ledger_setState (s : Server) (i : GameId) (state : UInt16) :
    (s.setState i state).ledger = s.ledger := by
  rw [setState, ledger_broadcast]
  exact s.ledger_updateGame fun _ _ => rfl

@[simp] theorem ledger_setSetting (s : Server) (i : GameId) (setting : UInt16) :
    (s.setSetting i setting).ledger = s.ledger := by
  rw [setSetting, ledger_broadcast]
  exact s.ledger_updateGame fun _ _ => rfl

/-! ### Joining -/

@[simp] theorem ledger_introduce (s : Server) (i : GameId) (newcomer : Member)
    (context : JoinContext) (others : List SessionId) :
    (s.introduce i newcomer context others).ledger = s.ledger := by
  rw [introduce]
  split
  · rfl
  · rw [ledger_pushAll]
    exact ledger_foldl (fun s other => s.ledger_pushAll other _) s others

@[simp] theorem ledger_join (s : Server) (i : GameId) (session : SessionId)
    (context : JoinContext) : (s.join i session context).2.ledger = s.ledger := by
  rcases s.join_cases i session context with same | ⟨newcomer, linked, granted, result⟩
  · rw [same]
  · obtain ⟨player, g, -, -, -, -, -, -, claimed⟩ := admission_newcomer granted
    rw [result, ledger_introduce, ← ledger_claim claimed]
    exact linked.ledger_updateGame fun _ _ => rfl

@[simp] theorem ledger_place (s : Server) (i : GameId) (seekers : List Seeker) :
    (s.place i seekers).2.ledger = s.ledger := by
  induction seekers generalizing s with
  | nil => rfl
  | cons k rest ih =>
    have joined := s.ledger_join i k.session .matchmaking
    rw [place]
    split
    next outcome t result =>
      rw [result] at joined
      rw [← joined]
      split
      · exact (ih _).trans (t.ledger_settle k.session)
      · exact ih t
      · exact ih t
      · exact (ih _).trans (t.ledger_settle k.session)

theorem ledger_putBack (s : Server) (seekers : List Seeker) :
    (seekers.foldr putBack s).ledger = s.ledger := by
  induction seekers with
  | nil => rfl
  | cons k rest ih =>
    rw [List.foldr_cons, putBack]
    split <;> exact ih

@[simp] theorem ledger_offer (s : Server) (i : GameId) : (s.offer i).2.ledger = s.ledger := by
  rw [offer]
  split
  · rfl
  · next g _ =>
    dsimp only
    rw [ledger_putBack, ledger_place, ledger_setQueue]

/-! ### Creating -/

@[simp] theorem ledger_notifyCreated (s : Server) (i : GameId) :
    (s.notifyCreated i).ledger = s.ledger := by
  rw [notifyCreated]
  split <;> rfl

/-- The next game is entered, or there is an error. -/
theorem ledger_createGame (s : Server) (host : SessionId) (attributes : Attributes)
    (setting : UInt16) :
    (∃ e, s.createGame host attributes setting = (.error e, s.evict)) ∨
      (s.createGame host attributes setting).1 = .ok (1 + s.created) ∧
        (s.createGame host attributes setting).2.ledger = s.evict.ledger.enter := by
  rcases s.createGame_cases host attributes setting with
    failed | ⟨player, linked, -, claimed, result⟩
  · exact .inl failed
  · refine .inr ⟨congrArg Prod.fst result, ?_⟩
    have link : linked.ledger = s.evict.ledger := ledger_claim claimed
    rw [result, ledger_notifyCreated]
    refine Ledger.ext ?_ ?_ ?_ ?_
    · funext j
      show (((linked.games.insert (1 + s.created) _).get? j).filter (·.registered)).isSome =
        if j = 1 + s.created then true else (s.evict.findGame? j).isSome
      rw [SortedMap.get?_insert]
      by_cases new : 1 + s.created = j
      · rw [if_pos new, if_pos new.symm]
        rfl
      · rw [if_neg new, if_neg fun e => new e.symm]
        exact congrFun (congrArg Ledger.listed link) j
    · exact congrArg (fun l => l.created + 1) link
    · exact (congrArg Ledger.metrics link : linked.metrics = s.evict.metrics)
    · exact (congrArg Ledger.store link : linked.store = s.evict.store)

/-- If every game that is inactive is out of the register already, there is nothing to evict. -/
theorem ledger_evict (h : s.seating.Coherent) : s.evict.ledger = s.ledger := by
  have same := congrArg Seating.lineup (seating_evict h)
  refine Ledger.ext ?_ rfl rfl rfl
  funext i
  have lineup : (s.evict.games.get? i).map Game.lineup = (s.games.get? i).map Game.lineup :=
    congrFun same i
  show ((s.evict.games.get? i).filter (·.registered)).isSome =
    ((s.games.get? i).filter (·.registered)).isSome
  cases before : s.games.get? i <;> cases after : s.evict.games.get? i <;>
    rw [before, after] at lineup
  · cases lineup
  · cases lineup
  · next g k =>
    have registered : k.registered = g.registered :=
      congrArg Lineup.registered (Option.some.inj lineup)
    rw [Option.filter_some, Option.filter_some, registered]
    split <;> rfl

/-! ### Removing -/

@[simp] theorem ledger_dismiss (s : Server) (i : GameId) (player : PlayerId) (reason : Int64) :
    (s.dismiss i player reason).2.ledger = s.ledger := by
  rw [dismiss]
  split
  · rfl
  · next gone removal rest removed =>
    obtain ⟨g, found, removed⟩ := Option.bind_eq_some_iff.1 removed
    refine (ledger_foldl (fun s other => s.ledger_pushAll other _) _ _).trans ?_
    refine s.ledger_updateGame fun x stored => ?_
    rw [found] at stored
    cases stored
    exact Game.registered_remove? removed

@[simp] theorem ledger_dismissSession (s : Server) (i : GameId) (session : SessionId)
    (reason : Int64) : (s.dismissSession i session reason).2.ledger = s.ledger := by
  rw [dismissSession]
  split
  · rfl
  · exact s.ledger_dismiss i _ reason

/-- A game that was emptied is struck out of a ledger where it is listed, and no other game is. -/
def StruckOut (l : Ledger) (emptied : Prop) (after : Ledger) : Prop :=
  ¬emptied ∧ after = l ∨ emptied ∧ ∃ i, l.listed i = true ∧ after = l.strike i

theorem ledger_releaseIfEmptied (s : Server) {i : GameId} {g : Game}
    (registered : s.findGame? i = some g) {r : Removal × Server} (same : r.2.ledger = s.ledger) :
    StruckOut s.ledger ((releaseIfEmptied i r).1 = .emptied) (releaseIfEmptied i r).2.ledger := by
  have listed : s.ledger.listed i = true := by
    show (s.findGame? i).isSome = true
    rw [registered]
    rfl
  rw [releaseIfEmptied.eq_def]
  split
  · exact .inr ⟨rfl, i, listed, by rw [ledger_release, same]⟩
  · next other => exact .inl ⟨fun emptied => other r.2 (Prod.ext emptied rfl), same⟩

theorem ledger_removePlayer (s : Server) (i : GameId) (player : PlayerId) (reason : Int64) :
    StruckOut s.ledger ((s.removePlayer i player reason).1 = .ok .emptied)
      (s.removePlayer i player reason).2.ledger := by
  rw [removePlayer]
  split
  · exact .inl ⟨by simp, rfl⟩
  · next g registered =>
    have struck := s.ledger_releaseIfEmptied registered (s.ledger_dismiss i player reason)
    simpa only [Except.ok.injEq] using struck

theorem ledger_removeSession (s : Server) (session : SessionId) (reason : Int64) :
    StruckOut s.ledger ((s.removeSession session reason).1 = .emptied)
      (s.removeSession session reason).2.ledger := by
  rw [removeSession]
  split
  · exact .inl ⟨by simp, rfl⟩
  · split
    · exact .inl ⟨by simp, rfl⟩
    · next registered =>
      exact s.ledger_releaseIfEmptied registered (s.ledger_dismissSession _ session reason)

/-- **Leaving everything strikes a game out exactly if it counts one as released.** -/
theorem ledger_leaveActivities (s : Server) (session : SessionId) (reason : Int64) :
    (s.leaveActivities session reason).ledger = s.ledger ∨
      ∃ i, s.ledger.listed i = true ∧ (s.leaveActivities session reason).ledger =
        (s.ledger.strike i).count Metrics.gameReleased := by
  have struck := (s.withdraw session).2.ledger_removeSession session reason
  rw [ledger_withdraw] at struck
  rcases s.leaveActivities_cases session reason with ⟨other, result⟩ | ⟨emptied, result⟩ <;>
    rw [result]
  · rcases struck with ⟨-, same⟩ | ⟨emptied, -⟩
    · exact .inl same
    · exact absurd emptied other
  · rcases struck with ⟨other, -⟩ | ⟨-, i, listed, same⟩
    · exact absurd emptied other
    · exact .inr ⟨i, listed, congrArg (·.count Metrics.gameReleased) same⟩

end Server

end Lobby
