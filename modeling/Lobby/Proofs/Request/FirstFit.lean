import Lobby.Proofs.Request.Checks
import Lobby.Proofs.Server.Joining
import Lobby.Proofs.Server.Ledger
import Lobby.Proofs.Server.Profile
import Lobby.Proofs.Server.Run
import Lobby.Proofs.Server.Waiting
import Lobby.Proofs.SortedMap

/-!
# Where a search ends

A session that looks for a game first leaves everything.  Then it becomes a member of the oldest
game that fits its rules, or it waits at the end of the queue, and never both or neither
(`Router.dispatch_startMatchmaking`).

The join cannot fail: the session has just become free, the game has a free slot, and no member has
its player, because only its own entries did and those are gone (`Server.absent_leaveActivities`).
-/

namespace Lobby

namespace Server

variable {s t : Server} {session : SessionId} {rules : RuleSet} {i : GameId} {g : Game}

/-! ### Games that fit -/

/-- A registered game that is active, has a free slot and is accepted by some rules. -/
def Fits (s : Server) (rules : RuleSet) (i : GameId) : Prop :=
  ∃ g, s.findGame? i = some g ∧ g.active = true ∧ g.count < gameCapacity ∧
    rules.accepts g.attributes = true

/-- The game with the smallest id among those that fit. -/
def FirstFit (s : Server) (rules : RuleSet) (i : GameId) : Prop :=
  s.Fits rules i ∧ ∀ j, s.Fits rules j → i ≤ j

def picks (rules : RuleSet) (g : Game) : Bool :=
  g.active && (g.isJoinable && rules.accepts g.attributes)

theorem findMatch?_eq (s : Server) (rules : RuleSet) :
    s.findMatch? rules = (s.registeredGames.find? fun e => picks rules e.2).map (·.1) := rfl

theorem mem_registeredGames : (i, g) ∈ s.registeredGames ↔ s.findGame? i = some g := by
  rw [registeredGames, List.mem_filter, findGame?, Option.filter_eq_some_iff]
  exact and_congr_left fun _ => ⟨fun mem => s.games.get?_of_mem mem, SortedMap.mem_of_find?⟩

theorem fits_iff : s.Fits rules i ↔ ∃ g, (i, g) ∈ s.registeredGames ∧ picks rules g = true := by
  refine exists_congr fun g => ?_
  simp only [mem_registeredGames, picks, Game.isJoinable, Bool.and_eq_true, decide_eq_true_eq]
  tauto

/-- In ascending entries the first that passes a test has the smallest id of all that do. -/
theorem le_of_find? {test : GameId × Game → Bool} {games : List (GameId × Game)}
    (sorted : games.Pairwise fun a b => a.1 < b.1) {e d : GameId × Game}
    (found : games.find? test = some e) (mem : d ∈ games) (passes : test d = true) :
    e.1 ≤ d.1 := by
  induction games with
  | nil => cases mem
  | cons first rest ih =>
    obtain ⟨after, sorted⟩ := List.pairwise_cons.1 sorted
    cases picked : test first with
    | true =>
      rw [List.find?_cons_of_pos picked] at found
      cases found
      rcases List.mem_cons.1 mem with rfl | mem
      · exact UInt32.le_refl _
      · exact UInt32.le_of_lt (after d mem)
    | false =>
      rw [List.find?_cons_of_neg (by simp [picked])] at found
      rcases List.mem_cons.1 mem with rfl | mem
      · rw [picked] at passes
        cases passes
      · exact ih sorted found mem

/-- The game that is found is the oldest one that fits. -/
theorem findMatch?_eq_some (found : s.findMatch? rules = some i) : s.FirstFit rules i := by
  rw [findMatch?_eq] at found
  obtain ⟨e, first, rfl⟩ := Option.map_eq_some_iff.1 found
  refine ⟨fits_iff.2 ⟨e.2, List.mem_of_find?_eq_some first, ?_⟩, fun j fits => ?_⟩
  · simpa using List.find?_some first
  · obtain ⟨g, listed, picked⟩ := fits_iff.1 fits
    exact le_of_find? (s.games.sorted.filter _) first listed picked

theorem findMatch?_eq_none (missing : s.findMatch? rules = none) (i : GameId) :
    ¬s.Fits rules i := by
  rw [findMatch?_eq, Option.map_eq_none_iff, List.find?_eq_none] at missing
  intro fits
  obtain ⟨g, listed, picked⟩ := fits_iff.1 fits
  exact missing _ listed picked

/-! ### Leaving everything first -/

/-- Whoever is a member after a session has left everything was one before. -/
theorem roster_leaveActivities (h : s.seating.Coherent) (session : SessionId) (reason : Int64)
    {l : Lineup} (found : (s.leaveActivities session reason).seating.lineup i = some l) :
    ∃ k, s.seating.lineup i = some k ∧ ∀ m ∈ l.roster, m ∈ k.roster := by
  rw [seating_leaveActivities] at found
  have withdrawn : (s.withdraw session).2.seating.lineup = s.seating.lineup := by
    rw [seating_withdraw]
    rfl
  rcases seating_removeSession (h.moves (moves_withdraw h session)) session reason with
    ⟨-, same⟩ | ⟨j, k, m, known, -, -, result⟩
  · rw [same, withdrawn] at found
    exact ⟨l, found, fun _ member => member⟩
  · rw [withdrawn] at known
    rw [result] at found
    by_cases here : i = j
    · subst here
      obtain rfl : k.without m.player.id = l := Option.some.inj ((if_pos rfl).symm.trans found)
      refine ⟨k, known, fun o member => ?_⟩
      rw [Lineup.roster_without] at member
      exact List.mem_of_mem_eraseP member
    · have same : (s.withdraw session).2.seating.lineup i = some l := (if_neg here).symm.trans found
      rw [withdrawn] at same
      exact ⟨l, same, fun _ member => member⟩

/-- A session that has left everything leaves no member with its player, unless another session is
one. -/
theorem absent_leaveActivities (h : s.seating.Coherent) {player : PlayerId}
    (sole : ∀ i g, s.findGame? i = some g → ∀ m ∈ g.roster, m.player.id = player →
      m.session = session) (reason : Int64)
    (found : (s.leaveActivities session reason).games.get? i = some g) :
    g.memberOf? player = none := by
  refine List.find?_eq_none.2 fun m member same => ?_
  have same : m.player.id = player := by simpa using same
  have lineup := (s.leaveActivities session reason).lineup_seating found
  obtain ⟨k, before, subset⟩ := roster_leaveActivities h session reason lineup
  obtain ⟨x, stored, rfl⟩ := Option.map_eq_some_iff.1 before
  have registered : s.findGame? i = some x :=
    Option.filter_eq_some_iff.2 ⟨stored, (h.lineup before).registered_of_mem (subset m member)⟩
  have coherent := h.moves (moves_leaveActivities h session reason)
  exact coherent.not_member (idle_leaveActivities h session reason).1 lineup m member
    (sole i x registered m (subset m member) same)

/-- Leaving everything does not count as a search. -/
theorem searches_leaveActivities (s : Server) (session : SessionId) (reason : Int64) :
    (s.leaveActivities session reason).metrics.matchmakingQueued = s.metrics.matchmakingQueued ∧
      (s.leaveActivities session reason).metrics.matchmakingMatched =
        s.metrics.matchmakingMatched := by
  have metrics : (s.leaveActivities session reason).metrics = s.metrics ∨
      (s.leaveActivities session reason).metrics = s.metrics.gameReleased := by
    rcases s.ledger_leaveActivities session reason with same | ⟨i, -, same⟩
    · exact .inl (congrArg Ledger.metrics same)
    · exact .inr (congrArg Ledger.metrics same)
  rcases metrics with same | same <;> rw [same] <;> exact ⟨rfl, rfl⟩

/-! ### Joining and waiting -/

/-- A session has got into a game, and no longer looks for one. -/
structure Matched (s : Server) (session : SessionId) (player : Player) (i : GameId) (u : Server) :
    Prop where
  member : ∃ g slot, u.findGame? i = some g ∧ ⟨session, player, slot⟩ ∈ g.roster ∧
    (u.session session).seat = some ⟨i, slot⟩
  /-- The session is not queued, and the others are as before. -/
  queue : u.queue = s.queue.filter (·.session ≠ session)
  unmarked : (u.session session).seeking = false
  matched : u.metrics.matchmakingMatched = s.metrics.matchmakingMatched + 1
  queued : u.metrics.matchmakingQueued = s.metrics.matchmakingQueued

/-- A session waits for a game, and is in none. -/
structure Waits (s : Server) (session : SessionId) (rules : RuleSet) (u : Server) : Prop where
  /-- The session comes after the others, who are as before. -/
  queue : u.queue = s.queue.filter (·.session ≠ session) ++ [⟨session, rules⟩]
  marked : (u.session session).seeking = true
  unlinked : (u.session session).seat = none
  outside : ∀ i g, u.findGame? i = some g → session ∉ g.sessions
  matched : u.metrics.matchmakingMatched = s.metrics.matchmakingMatched
  queued : u.metrics.matchmakingQueued = s.metrics.matchmakingQueued + 1

/-- A session that is logged in as a player has left everything. -/
structure Cleared (s : Server) (session : SessionId) (player : Player) (t : Server) : Prop where
  coherent : t.seating.Coherent
  free : t.seating.Free session
  waiting : t.waiting = s.waiting.withdraw session
  login : (t.session session).player = some player
  absent : ∀ {i g}, t.games.get? i = some g → g.memberOf? player.id = none
  matched : t.metrics.matchmakingMatched = s.metrics.matchmakingMatched
  queued : t.metrics.matchmakingQueued = s.metrics.matchmakingQueued

theorem cleared_leaveActivities (h : s.seating.Coherent)
    (present : s.seating.present session = true) {player : Player}
    (login : (s.session session).player = some player)
    (sole : ∀ i g, s.findGame? i = some g → ∀ m ∈ g.roster, m.player.id = player.id →
      m.session = session) (reason : Int64) :
    s.Cleared session player (s.leaveActivities session reason) where
  coherent := h.moves (moves_leaveActivities h session reason)
  free := free_leaveActivities h present reason
  waiting := s.waiting_leaveActivities session reason
  login :=
    (congrArg Profile.player (congrFun (s.profile_leaveActivities session reason) session)).trans
      login
  absent := absent_leaveActivities h sole reason
  matched := (s.searches_leaveActivities session reason).2
  queued := (s.searches_leaveActivities session reason).1

/-- **Whoever joins a game that fits gets into it.** -/
theorem Cleared.join {player : Player} (h : s.Cleared session player t) (fits : t.Fits rules i) :
    ∃ slot, (t.join i session .matchmaking).1 = .ok slot ∧
      s.Matched session player i
        ((t.join i session .matchmaking).2.count fun m => m.seekersMatched 1) := by
  obtain ⟨g, listed, active, room, -⟩ := fits
  obtain ⟨found, registered⟩ := Option.filter_eq_some_iff.1 listed
  have absent := h.absent found
  have told := join_of_free h.login h.free.seat found active absent room .matchmaking
  obtain ⟨x, login, joined⟩ := join_eq_ok found told
  obtain rfl : player = x := Option.some.inj (h.login.symm.trans login)
  obtain ⟨m, there, -⟩ | ⟨-, now, links, -⟩ := joined
  · rw [absent] at there
    cases there
  have waiting := (t.waiting_join i session .matchmaking).trans h.waiting
  have metrics : (t.join i session .matchmaking).2.metrics = t.metrics :=
    congrArg Ledger.metrics (t.ledger_join i session .matchmaking)
  refine ⟨g.nextSlot, told, ⟨_, g.nextSlot, Option.filter_eq_some_iff.2 ⟨now, registered⟩, ?_, ?_⟩,
    ?_, ?_, ?_, ?_⟩
  · exact (Lineup.seatIn_perm _ g.roster).mem_iff.2 List.mem_cons_self
  · exact (congrFun links session).trans (if_pos rfl)
  · exact congrArg Waiting.queue waiting
  · exact (congrFun (congrArg Waiting.seeking waiting) session).trans (if_pos rfl)
  · show (t.join i session .matchmaking).2.metrics.matchmakingMatched + 1 = _
    rw [metrics, h.matched]
  · exact (congrArg Metrics.matchmakingQueued metrics).trans h.queued

theorem known_of_present (present : s.seating.present session = true) :
    s.waiting.known session = true := by
  have there : (s.findSession? session).isSome = true := present
  obtain ⟨x, registered⟩ := Option.isSome_iff_exists.1 there
  exact Option.isSome_of_eq_some (Option.filter_eq_some_iff.1 registered).1

/-- Whoever cannot join any game waits. -/
theorem Cleared.enqueue {player : Player} (h : s.Cleared session player t) (rules : RuleSet) :
    s.Waits session rules ((t.enqueue session rules).count Metrics.seekerQueued) where
  queue := by
    have queue : t.queue = s.queue.filter (·.session ≠ session) :=
      congrArg Waiting.queue h.waiting
    show t.queue.filter (·.session ≠ session) ++ [⟨session, rules⟩] = _
    rw [queue, List.filter_filter]
    simp
  marked := by
    have waiting := waiting_enqueue (known_of_present h.free.present) rules
    exact (congrFun (congrArg Waiting.seeking waiting) session).trans (if_pos rfl)
  unlinked := by
    have seat := congrFun (congrArg Seating.seat (t.seating_enqueue session rules)) session
    exact seat.trans h.free.seat
  outside := by
    intro i g found mem
    obtain ⟨m, member, here⟩ := List.mem_map.1 mem
    obtain ⟨lineup, -⟩ := lineup_of_findGame? (s := t) found
    exact h.coherent.not_member h.free.seat lineup m member here
  matched := h.matched
  queued := congrArg (· + 1) h.queued

end Server

open Server

/-! ### The request -/

namespace Games

variable {s : Server} {session : SessionId} {request : Packet} {rules : RuleSet}

theorem checkSearch_of_login {player : Player} (login : (s.session session).player = some player)
    {content : Content} (records : request.records = .ok content) :
    checkSearch s session request =
      .ok (((content.group? Field.crit).map RuleSet.ofCriteria).getD .empty) := by
  rw [checkSearch, Check.player, login, Check.content, records]
  rfl

theorem startMatchmaking_of_some (passed : checkSearch s session request = .ok rules) {i : GameId}
    (found : (s.leaveActivities session leftReason).findMatch? rules = some i) {slot : Nat}
    (told : ((s.leaveActivities session leftReason).join i session .matchmaking).1 = .ok slot) :
    startMatchmaking s session request =
      (.replied [request.response [.nat Field.msid session.toNat]],
        ((s.leaveActivities session leftReason).join i session .matchmaking).2.count
          fun m => m.seekersMatched 1) := by
  rw [startMatchmaking, Handler.checked, passed]
  dsimp only
  rw [matchOrEnqueue, found]
  dsimp only
  generalize (s.leaveActivities session leftReason).join i session .matchmaking = joined at told
  obtain ⟨outcome, u⟩ := joined
  obtain rfl : outcome = .ok slot := told
  rfl

theorem startMatchmaking_of_none (passed : checkSearch s session request = .ok rules)
    (missing : (s.leaveActivities session leftReason).findMatch? rules = none) :
    startMatchmaking s session request =
      (.replied [request.response [.nat Field.msid session.toNat]],
        ((s.leaveActivities session leftReason).enqueue session rules).count
          Metrics.seekerQueued) := by
  rw [startMatchmaking, Handler.checked, passed]
  dsimp only
  rw [matchOrEnqueue, missing]

end Games

namespace Router

open Games

/-- **A search ends in the oldest game that fits, or the session waits.**  It is logged in, and no
other session is a member with its player. -/
theorem dispatch_startMatchmaking (store : Store) (events : List Event)
    (feasible : (start store).Feasible events) :
    let s := (start store).run events
    ∀ session player request content, (s.findSession? session).isSome = true →
      (s.session session).player = some player →
      (∀ i g, s.findGame? i = some g → ∀ m ∈ g.roster, m.player.id = player.id →
        m.session = session) →
      request.header.route = Route.startMatchmaking → request.records = .ok content →
      let rules := ((content.group? Field.crit).map RuleSet.ofCriteria).getD .empty
      let t := s.leaveActivities session leftReason
      let r := standard.dispatch s session request
      r.1 = [request.response [.nat Field.msid session.toNat]] ∧
        ((∃ i, t.FirstFit rules i ∧ s.Matched session player i r.2) ∨
          (∀ i, ¬t.Fits rules i) ∧ s.Waits session rules r.2) := by
  intro s session player request content present login sole here records rules t r
  have coherent : s.seating.Coherent := coherent_run (coherent_start store) feasible
  have cleared : s.Cleared session player t :=
    cleared_leaveActivities coherent present login sole leftReason
  have passed : checkSearch s session request = .ok rules := checkSearch_of_login login records
  have served : standard.handler? request.header.route = some startMatchmaking := by
    rw [here]
    rfl
  have answered {replies : List Packet} {u : Server}
      (replied : startMatchmaking s session request = (.replied replies, u)) :
      r = (replies, u) := by
    rw [show r = standard.dispatch s session request from rfl, dispatch, served]
    dsimp only
    rw [replied]
  cases found : t.findMatch? rules with
  | some i =>
    have first := findMatch?_eq_some found
    obtain ⟨slot, told, matched⟩ := cleared.join first.1
    rw [answered (startMatchmaking_of_some passed found told)]
    exact ⟨rfl, .inl ⟨i, first, matched⟩⟩
  | none =>
    rw [answered (startMatchmaking_of_none passed found)]
    exact ⟨rfl, .inr ⟨findMatch?_eq_none found, cleared.enqueue rules⟩⟩

/-- Of three hosts the first one looks for a game: its own game goes, and it becomes a member of the
second one's.  If it asks for a map that nobody plays, it waits behind the fourth player. -/
theorem dispatch_startMatchmaking_hosts :
    let account (id : PlayerId) (email : String) : Account := ⟨⟨id, email⟩, email, "word", "token"⟩
    let store : Store :=
      ⟨.ofList [(1, account 1 "a@b"), (2, account 2 "c@d"), (3, account 3 "e@f"),
        (4, account 4 "g@h")], ∅, ∅, 5, true⟩
    let login (email : String) : Packet :=
      .request Route.login 0 [.string Field.mail email, .string Field.pass "word"]
    let create : Packet := .request Route.createGame 0 []
    let search : Packet := .request Route.startMatchmaking 0 []
    let wish : Packet := .request Route.startMatchmaking 0
      [.group Field.crit [.list Field.rlst (.groups [.mk false
        [.string Field.name "ME3_gameMapMatchRule", .list Field.valu (.strings ["map"])]])]]
    let events : List Event :=
      [.connect none, .connect none, .connect none, .connect none, .request 1 (login "a@b"),
        .request 2 (login "c@d"), .request 3 (login "e@f"), .request 4 (login "g@h"),
        .request 4 wish, .request 1 create, .request 2 create, .request 3 create]
    let s := (start store).run events
    let player : Player := ⟨1, "a@b"⟩
    let t := s.leaveActivities 1 leftReason
    (start store).Feasible events ∧ t.FirstFit .empty 2 ∧
      s.Matched 1 player 2 (standard.dispatch s 1 search).2 ∧
      (∀ i, ¬t.Fits ⟨some "map", none, none⟩ i) ∧
      s.Waits 1 ⟨some "map", none, none⟩ (standard.dispatch s 1 wish).2 ∧
      (standard.dispatch s 1 wish).2.queue.map (·.session) = [4, 1] := by
  intro account store login create search wish events s player t
  have feasible : (start store).Feasible events :=
    ⟨by decide +kernel, by decide +kernel, by decide +kernel⟩
  have present : (s.findSession? 1).isSome = true := by decide +kernel
  have login : (s.session 1).player = some player := by decide +kernel
  have members : ∀ e ∈ s.registeredGames, ∀ m ∈ e.2.roster, m.player.id = player.id →
      m.session = 1 := by
    decide +kernel
  have sole (i : GameId) (g : Game) (found : s.findGame? i = some g) :=
    members (i, g) (mem_registeredGames.2 found)
  have first : t.FirstFit .empty 2 := findMatch?_eq_some (by decide +kernel)
  have nowhere : ∀ i, ¬t.Fits ⟨some "map", none, none⟩ i := findMatch?_eq_none (by decide +kernel)
  refine ⟨feasible, first, ?_, nowhere, ?_, by decide +kernel⟩
  · obtain ⟨-, ⟨i, least, matched⟩ | ⟨none, -⟩⟩ := dispatch_startMatchmaking store events feasible 1
      player search [] present login sole rfl rfl
    · obtain rfl : i = 2 := UInt32.le_antisymm (least.2 2 first.1) (first.2 i least.1)
      exact matched
    · exact absurd first.1 (none 2)
  · obtain ⟨-, ⟨i, ⟨fits, -⟩, -⟩ | ⟨-, waits⟩⟩ := dispatch_startMatchmaking store events feasible 1
      player wish _ present login sole rfl rfl
    · exact absurd fits (nowhere i)
    · exact waits

end Router

end Lobby
