import Lobby.Proofs.Game.Bench
import Lobby.Proofs.Server.Run
import Lobby.Proofs.Server.Waiting
import Lobby.Proofs.SortedMap

/-!
# Searching for games

Sessions are queued, offered games and withdrawn, while games are created, joined and left, players
log in and out, and connections let go of their outboxes, all in any order
(`Matchmaking.Call`).  What games there are does not matter: they may have been opened, filled,
emptied or released by any other means (`Call.regame`).

**After every call a session is marked as seeking exactly if it is queued**
(`Matchmaking.tracked_run`).
-/

namespace Lobby

namespace Server

/-- A session whose mark was taken off is not marked. -/
theorem seeking_setSeeking (s : Server) (id : SessionId) :
    ((s.setSeeking id false).session id).seeking = false := by
  have marked : (s.setSeeking id false).waiting = s.waiting.mark id false :=
    waiting_setSeeking (by simp)
  exact (congrFun (congrArg Waiting.seeking marked) id).trans (if_pos rfl)

theorem setSeeking_eq_self {s : Server} {id : SessionId}
    (unmarked : (s.session id).seeking = false) : s.setSeeking id false = s := by
  have same : s.sessions.modify id (fun x => { x with seeking := false }) = s.sessions := by
    refine SortedMap.modify_eq_self fun x found => ?_
    rw [session, found] at unmarked
    rw [← show x.seeking = false from unmarked]
  rw [setSeeking, updateSession, same]

/-- A session that is neither queued nor marked cannot be withdrawn. -/
theorem withdraw_eq_self {s : Server} {id : SessionId} (off : ∀ k ∈ s.queue, k.session ≠ id)
    (unmarked : (s.session id).seeking = false) : s.withdraw id = (false, s) := by
  have queue : s.queue.filter (·.session ≠ id) = s.queue :=
    List.filter_eq_self.2 fun k hk => decide_eq_true (off k hk)
  have idle : s.isQueued id = false := by
    simpa [isQueued] using off
  rw [withdraw, queue, idle, unmarked]
  exact congrArg (Prod.mk false) (setSeeking_eq_self unmarked)

/-- **A session that was withdrawn once is not withdrawn again.** -/
theorem withdraw_withdraw (s : Server) (id : SessionId) :
    (s.withdraw id).2.withdraw id = (false, (s.withdraw id).2) := by
  refine withdraw_eq_self (fun k hk => ?_) (seeking_setSeeking _ id)
  simpa using (List.mem_filter.1 hk).2

theorem waiting_openGame {s t : Server} {id : GameId} {mid : UInt32} {host : SessionId}
    {attributes : Attributes} {setting : UInt16} {game : Game}
    (opened : s.openGame id mid host attributes setting = .ok (game, t)) :
    t.waiting = s.waiting := by
  obtain ⟨player, -, claimed, -⟩ := claim_of_openGame opened
  exact waiting_claim claimed

end Server

namespace Matchmaking

inductive Call where
  | enqueue (session : SessionId) (rules : RuleSet)
  | matchOrEnqueue (session : SessionId) (rules : RuleSet)
  | offer (game : GameId)
  | withdraw (session : SessionId)
  | createGame (host : SessionId) (attributes : Attributes) (setting : UInt16)
  /-- A game is opened under any id, in the place of one that has it. -/
  | openGame (id : GameId) (mid : UInt32) (host : SessionId) (attributes : Attributes)
      (setting : UInt16)
  | join (game : GameId) (session : SessionId) (context : JoinContext)
  | dismiss (game : GameId) (player : PlayerId) (reason : Int64)
  | dismissSession (game : GameId) (session : SessionId) (reason : Int64)
  | removePlayer (game : GameId) (player : PlayerId) (reason : Int64)
  | removeSession (session : SessionId) (reason : Int64)
  | leave (session : SessionId) (reason : Int64)
  /-- A login or, without a player, a logout. -/
  | setPlayer (session : SessionId) (player : Option Player)
  /-- A connection lets go of the outbox of its session. -/
  | close (session : SessionId)
  | disconnect (session : SessionId)
  /-- Other games take the place of those that there are, also of one that is then offered though it
  was released. -/
  | regame (games : SortedMap GameId Game)

namespace Call

def seeker? : Call → Option SessionId
  | enqueue session _ | matchOrEnqueue session _ => some session
  | _ => none

def apply (s : Server) : Call → Server
  | enqueue session rules => s.enqueue session rules
  | matchOrEnqueue session rules => (s.matchOrEnqueue session rules).2
  | offer game => (s.offer game).2
  | withdraw session => (s.withdraw session).2
  | createGame host attributes setting => (s.createGame host attributes setting).2
  | openGame id mid host attributes setting =>
    match s.openGame id mid host attributes setting with
    | .error _ => s
    | .ok (game, t) => { t with games := t.games.insert id game }
  | join game session context => (s.join game session context).2
  | dismiss game player reason => (s.dismiss game player reason).2
  | dismissSession game session reason => (s.dismissSession game session reason).2
  | removePlayer game player reason => (s.removePlayer game player reason).2
  | removeSession session reason => (s.removeSession session reason).2
  | leave session reason => s.leaveActivities session reason
  | setPlayer session player => s.setPlayer session player
  | close session => s.close session
  | disconnect session => s.disconnect session
  | regame games => { s with games }

end Call

def run (s : Server) (calls : List Call) : Server := calls.foldl Call.apply s

/-! ### Every call -/

open Server

/-- **A call keeps the queue and the marks together**, as long as it queues nobody who is not
there. -/
theorem tracked_apply {s : Server} (h : s.waiting.Tracked) {call : Call}
    (known : ∀ id, call.seeker? = some id → s.waiting.known id = true) :
    (call.apply s).waiting.Tracked ∧ (call.apply s).waiting.known = s.waiting.known := by
  have queued {id : SessionId} (there : s.waiting.known id = true) (rules : RuleSet) :
      (s.enqueue id rules).waiting.Tracked ∧
        (s.enqueue id rules).waiting.known = s.waiting.known := by
    rw [waiting_enqueue there rules]
    exact ⟨h.enqueue id rules, rfl⟩
  have kept {t : Server} (same : t.waiting = s.waiting) :
      t.waiting.Tracked ∧ t.waiting.known = s.waiting.known := by
    rw [same]
    exact ⟨h, rfl⟩
  have withdrawn {t : Server} {id : SessionId} (same : t.waiting = s.waiting.withdraw id) :
      t.waiting.Tracked ∧ t.waiting.known = s.waiting.known := by
    rw [same]
    exact ⟨h.withdraw id, rfl⟩
  cases call with
  | enqueue session rules => exact queued (known session rfl) rules
  | matchOrEnqueue session rules =>
    rw [Call.apply, Server.matchOrEnqueue]
    split
    · exact ⟨h, rfl⟩
    · exact queued (known session rfl) rules
  | offer game => exact tracked_offer h game
  | withdraw session => exact withdrawn (s.waiting_withdraw session)
  | createGame host attributes setting => exact kept (s.waiting_createGame host attributes setting)
  | openGame id mid host attributes setting =>
    rw [Call.apply]
    split
    · exact ⟨h, rfl⟩
    · next game t opened =>
      have same : t.waiting = s.waiting := waiting_openGame opened
      exact kept same
  | join game session context => exact kept (s.waiting_join game session context)
  | dismiss game player reason => exact kept (s.waiting_dismiss game player reason)
  | dismissSession game session reason => exact kept (s.waiting_dismissSession game session reason)
  | removePlayer game player reason => exact kept (s.waiting_removePlayer game player reason)
  | removeSession session reason => exact kept (s.waiting_removeSession session reason)
  | leave session reason => exact withdrawn (s.waiting_leaveActivities session reason)
  | setPlayer session player => exact kept (s.waiting_setPlayer session player)
  | close session =>
    obtain ⟨listening, same⟩ := s.waiting_close session
    rw [Call.apply, same]
    exact ⟨⟨h.distinct, h.flag⟩, rfl⟩
  | disconnect session =>
    exact withdrawn ((waiting_deregister _ session).trans (s.waiting_leaveActivities session _))
  | regame games => exact ⟨h, rfl⟩

/-- **Calls keep the queue and the marks together.** -/
theorem tracked_foldl {s : Server} (h : s.waiting.Tracked) {calls : List Call}
    (known : ∀ call ∈ calls, ∀ id, call.seeker? = some id → s.waiting.known id = true) :
    (run s calls).waiting.Tracked := by
  induction calls generalizing s with
  | nil => exact h
  | cons call calls ih =>
    rw [List.forall_mem_cons] at known
    obtain ⟨tracked, same⟩ := tracked_apply h known.1
    refine ih tracked ?_
    rw [same]
    exact known.2

/-- **The mark of a session tracks the queue.**  After any calls a session is in the queue at most
once, is marked exactly if it is queued, and is withdrawn exactly if it is queued, and only once. -/
theorem tracked_run (s : Server) (idle : ∀ id, (s.session id).seeking = false)
    (empty : s.queue = []) (calls : List Call)
    (known : ∀ call ∈ calls, ∀ id, call.seeker? = some id → (s.sessions.get? id).isSome = true) :
    let t := run s calls
    (t.queue.map (·.session)).Nodup ∧
      ∀ id, (t.session id).seeking = t.isQueued id ∧ (t.withdraw id).1 = t.isQueued id ∧
        (t.withdraw id).2.withdraw id = (false, (t.withdraw id).2) := by
  intro t
  have start : s.waiting.Tracked := by
    refine ⟨by rw [show s.waiting.queue = [] from empty]; exact List.nodup_nil, fun id => ?_⟩
    rw [show s.waiting.queue = [] from empty, show s.waiting.seeking id = false from idle id]
    simp
  have tracked : t.waiting.Tracked := tracked_foldl start known
  refine ⟨tracked.distinct, fun id => ?_⟩
  have flag : (t.session id).seeking = t.isQueued id :=
    Bool.eq_iff_iff.2 ((tracked.flag id).trans (t.isQueued_iff id).symm)
  refine ⟨flag, ?_, t.withdraw_withdraw id⟩
  show (t.isQueued id || (t.session id).seeking) = t.isQueued id
  rw [flag, Bool.or_self]

/-- An emptied game refuses the whole queue; of a game that is open one seeker gets a seat, because
the other no longer listens. -/
theorem tracked_run_refused :
    let s := (start .empty).run [.connect none, .connect none, .connect none]
    let refusing : List Call :=
      [.setPlayer 1 (some ⟨1, "a"⟩), .setPlayer 2 (some ⟨2, "b"⟩), .setPlayer 3 (some ⟨3, "c"⟩),
        .enqueue 1 .empty, .enqueue 2 .empty, .createGame 3 ∅ 0, .dismiss 1 3 leftReason, .offer 1]
    let calls := refusing ++ [.close 2, .createGame 3 ∅ 0, .offer 2]
    let t := run s calls
    (∀ id, (s.session id).seeking = false) ∧ s.queue = [] ∧
      (∀ call ∈ calls, ∀ id, call.seeker? = some id → (s.sessions.get? id).isSome = true) ∧
      (run s refusing).queue.map (·.session) = [1, 2] ∧ t.queue.map (·.session) = [2] ∧
      (t.session 1).seat = some ⟨2, 1⟩ ∧
      (t.queue.map (·.session)).Nodup ∧
      ∀ id, (t.session id).seeking = t.isQueued id ∧ (t.withdraw id).1 = t.isQueued id ∧
        (t.withdraw id).2.withdraw id = (false, (t.withdraw id).2) := by
  intro s refusing calls t
  have idle (id : SessionId) : (s.session id).seeking = false := by
    have all : ∀ x ∈ s.sessions.values, x.seeking = false := by decide +kernel
    rw [Server.session]
    cases found : s.sessions.get? id with
    | none => rfl
    | some x => exact all x (SortedMap.mem_values_of_get? found)
  have there : (calls.all fun call => call.seeker?.all fun id => (s.sessions.get? id).isSome) =
      true := by
    decide +kernel
  have known : ∀ call ∈ calls, ∀ id, call.seeker? = some id →
      (s.sessions.get? id).isSome = true := by
    intro call mem id seeks
    have one := List.all_eq_true.1 there call mem
    rw [seeks] at one
    exact one
  exact ⟨idle, rfl, known, by decide +kernel, by decide +kernel, by decide +kernel,
    tracked_run s idle rfl calls known⟩

end Matchmaking

end Lobby
