import Lobby.Proofs.Game.Roster
import Lobby.Proofs.Server.Joining
import Lobby.Proofs.Server.Ledger
import Lobby.Proofs.Server.Profile
import Lobby.Proofs.Server.Search

/-!
# Leaving everything

A session that leaves is found through its link, then by its id in the roster of that game, and is
then removed as the player it joined as.  **In a coherent seating all three are the same member**,
so the session takes its own entries with it and nothing else (`Server.left_leaveActivities`), and
there is nothing left for it to leave again (`Server.leaveActivities_eq_self`).
-/

namespace Lobby

/-- Where no two members share a session or a player, to erase a player is to drop a session. -/
theorem Lineup.eraseP_eq_filter {r : List Member} (sessions : (r.map (·.session)).Nodup)
    (players : (r.map (·.player.id)).Nodup) {m : Member} (member : m ∈ r) :
    r.eraseP (·.player.id = m.player.id) = r.filter (·.session ≠ m.session) := by
  induction r with
  | nil => cases member
  | cons a r ih =>
    obtain ⟨session, sessions⟩ := List.nodup_cons.1 sessions
    obtain ⟨player, players⟩ := List.nodup_cons.1 players
    rcases List.mem_cons.1 member with rfl | member
    · have others : ∀ o ∈ r, decide (o.session ≠ m.session) = true := by
        intro o mem
        refine decide_eq_true fun same => session ?_
        exact List.mem_map.2 ⟨o, mem, same⟩
      rw [List.eraseP_cons_of_pos (by simp), List.filter_cons_of_neg (by simp),
        List.filter_eq_self.2 others]
    · have apart : a.player.id ≠ m.player.id := by
        intro same
        exact player (List.mem_map.2 ⟨m, member, same.symm⟩)
      have elsewhere : a.session ≠ m.session := by
        intro same
        exact session (List.mem_map.2 ⟨m, member, same.symm⟩)
      rw [List.eraseP_cons_of_neg (by simpa using apart),
        List.filter_cons_of_pos (by simpa using elsewhere), ih sessions players member]

namespace Game

/-- A game has lost exactly the entry of a session, and goes out of the register with the last
one.  Only the host may have changed besides. -/
structure LeftBy (g : Game) (session : SessionId) (x : Game) : Prop where
  roster : x.roster = g.roster.filter (·.session ≠ session)
  same : x = { g with
    roster := x.roster, host := x.host, active := x.active, registered := x.registered }
  active : x.active = true ↔ g.sessions ≠ [session]
  registered : x.registered = true ↔ g.sessions ≠ [session]

/-- Nobody stays exactly if the one that goes is alone. -/
theorem filter_session_eq_nil {g : Game} {session : SessionId} (distinct : g.sessions.Nodup)
    (member : session ∈ g.sessions) :
    g.roster.filter (·.session ≠ session) = [] ↔ g.sessions = [session] := by
  have left : (g.roster.filter (·.session ≠ session)).map (·.session) =
      g.sessions.erase session := by
    rw [distinct.erase_eq_filter, sessions, List.filter_map]
    refine congrArg (List.map _) (List.filter_congr fun m _ => ?_)
    by_cases same : m.session = session <;> simp [same]
  rw [← List.map_eq_nil_iff (f := Member.session), left, List.erase_eq_nil_iff]
  have occupied : g.sessions ≠ [] := List.ne_nil_of_mem member
  simp [occupied]

end Game

namespace Server

variable {s t : Server} {session : SessionId} {i : GameId} {g : Game}

/-! ### The game of the session -/

/-- A removal changes the game that the member is in, and no other. -/
theorem games_dismiss {rest : Game} {m : Member} {player : PlayerId} {removal : Removal}
    (found : s.games.get? i = some g) (removed : g.remove? player = some (m, removal, rest))
    (reason : Int64) :
    (s.dismiss i player reason).1 = removal ∧
      (s.dismiss i player reason).2.games = s.games.modify i fun _ => rest := by
  rw [dismiss, found, Option.bind_some, removed]
  refine ⟨rfl, ?_⟩
  dsimp only
  rw [games_foldl fun s other => s.games_pushAll other _]
  rfl

/-- A member that is removed has emptied its game exactly if it was alone there, and all other games
are as before. -/
theorem leftBy_releaseIfEmptied (h : s.seating.Coherent) (found : s.games.get? i = some g)
    {m : Member} (member : m ∈ g.roster) {removal : Removal} {rest : Game}
    (removed : g.remove? m.player.id = some (m, removal, rest)) (reason : Int64) :
    ((releaseIfEmptied i (s.dismiss i m.player.id reason)).1 = .emptied ↔
        g.sessions = [m.session]) ∧
      ∃ x, g.LeftBy m.session x ∧
        ∀ j, (releaseIfEmptied i (s.dismiss i m.player.id reason)).2.games.get? j =
          if j = i then some x else s.games.get? j := by
  have sound := h.lineup (s.lineup_seating found)
  have registered : g.registered = true := sound.registered_of_mem member
  have active : g.active = true := sound.registered.symm.trans registered
  obtain ⟨outcome, games⟩ := games_dismiss found removed reason
  obtain ⟨-, roster, same, kept⟩ := Game.remove?_cases removed
  have stay : rest.roster = g.roster.filter (·.session ≠ m.session) :=
    roster.trans (Lineup.eraseP_eq_filter sound.sessions sound.players member)
  have alone := Game.filter_session_eq_nil sound.sessions (List.mem_map_of_mem member)
  rw [← stay] at alone
  have emptied := (Game.emptied_remove? removed).trans alone
  generalize s.dismiss i m.player.id reason = r at outcome games
  have after (j : GameId) : r.2.games.get? j = if j = i then some rest else s.games.get? j := by
    rw [games, SortedMap.get?_modify]
    by_cases here : j = i <;> simp [here, found]
  rcases kept with ⟨none, inactive, -⟩ | ⟨others, stays, -⟩
  · have last : g.sessions = [m.session] := alone.1 none
    have result : releaseIfEmptied i r = (.emptied, r.2.release i) := by
      obtain ⟨r, t⟩ := r
      cases outcome.trans (emptied.2 last)
      rfl
    rw [result]
    refine ⟨by simp [last], { rest with registered := false }, ⟨stay, ?_, ?_, ?_⟩, fun j => ?_⟩
    · rw [same]
    · simp [last, inactive]
    · simp [last]
    · show (r.2.games.modify i _).get? j = _
      rw [SortedMap.get?_modify, after]
      by_cases here : j = i <;> simp [here]
  · have more : g.sessions ≠ [m.session] := fun last => others (alone.2 last)
    have stayed : r.1 ≠ .emptied := fun last => more (emptied.1 (outcome.symm.trans last))
    rw [releaseIfEmptied_of_ne stayed]
    refine ⟨iff_of_false stayed more, rest, ⟨stay, ?_, ?_, ?_⟩, after⟩
    · rw [same]
    · simp [stays, active, more]
    · simp [Game.registered_remove? removed, registered, more]

/-! ### What stays -/

/-- What is left of a server when a session has left everything. -/
structure Left (s : Server) (session : SessionId) (t : Server) : Prop where
  /-- The session waits for no game and is in none. -/
  unqueued : ∀ k ∈ t.queue, k.session ≠ session
  unmarked : (t.session session).seeking = false
  unlinked : (t.session session).seat = none
  queue : t.queue = s.queue.filter (·.session ≠ session)
  /-- The session itself is as before apart from its link, its mark and its outbox. -/
  own : t.sessions.get? session = (s.sessions.get? session).map fun x =>
    { x with seat := none, seeking := false, outbox := (t.session session).outbox }
  /-- Every other session is as before apart from its outbox. -/
  others : ∀ id, id ≠ session → t.sessions.get? id =
    (s.sessions.get? id).map fun x => { x with outbox := (t.session id).outbox }
  elsewhere : ∀ i, (∀ g, s.games.get? i = some g → session ∉ g.sessions) →
    t.games.get? i = s.games.get? i
  here : ∀ i g, s.games.get? i = some g → session ∈ g.sessions →
    ∃ x, t.games.get? i = some x ∧ g.LeftBy session x
  /-- A release is counted exactly if the session was the last member of a game. -/
  released :
    (∃ i g, s.findGame? i = some g ∧ g.sessions = [session]) ∧
        t.metrics = { s.metrics with gamesReleased := s.metrics.gamesReleased + 1 } ∨
      (∀ i g, s.findGame? i = some g → g.sessions ≠ [session]) ∧ t.metrics = s.metrics

/-- A session that is there before and after, and says the same of itself, is the same apart from
its link, its mark and its outbox. -/
theorem get?_sessions {id : SessionId} (known : t.waiting.known id = s.waiting.known id)
    (listening : t.waiting.listening id = s.waiting.listening id)
    (present : t.seating.present id = s.seating.present id)
    (profile : t.profile id = s.profile id) :
    t.sessions.get? id = (s.sessions.get? id).map fun x =>
      { x with
        seat := (t.session id).seat
        seeking := (t.session id).seeking
        outbox := (t.session id).outbox } := by
  have known : (t.sessions.get? id).isSome = (s.sessions.get? id).isSome := known
  have listening : (t.session id).listening = (s.session id).listening := listening
  have present : ((t.sessions.get? id).filter (·.registered)).isSome =
    ((s.sessions.get? id).filter (·.registered)).isSome := present
  have profile : (t.session id).profile = (s.session id).profile := profile
  unfold session at *
  cases before : s.sessions.get? id with
  | none =>
    rw [before] at known
    exact Option.isSome_eq_false_iff.1 known |> Option.isNone_iff_eq_none.1
  | some x =>
    rw [before] at known
    obtain ⟨y, after⟩ := Option.isSome_iff_exists.1 known
    rw [before, after] at present
    simp only [before, after, Option.getD_some] at listening profile ⊢
    have registered : y.registered = x.registered := by
      cases first : x.registered <;> cases second : y.registered <;> simp_all
    cases x
    cases y
    cases profile
    cases listening
    cases registered
    rfl

/-- A session is in the roster of no game but the one it is linked to. -/
theorem seat_of_listed (h : s.seating.Coherent) (found : s.games.get? i = some g)
    (listed : session ∈ g.sessions) : ∃ slot, (s.session session).seat = some ⟨i, slot⟩ := by
  obtain ⟨m, member, rfl⟩ := List.mem_map.1 listed
  exact ⟨m.slot, h.seat (s.lineup_seating found) m member⟩

/-- A session is in the roster of one game only. -/
theorem eq_of_listed (h : s.seating.Coherent) {j : GameId} {x : Game}
    (found : s.games.get? i = some g) (listed : session ∈ g.sessions)
    (stored : s.games.get? j = some x) (member : session ∈ x.sessions) : i = j ∧ g = x := by
  obtain ⟨slot, linked⟩ := seat_of_listed h found listed
  obtain ⟨slot', linked'⟩ := seat_of_listed h stored member
  rw [linked] at linked'
  cases linked'
  rw [found] at stored
  cases stored
  exact ⟨rfl, rfl⟩

theorem metrics_removeSession (s : Server) (session : SessionId) (reason : Int64) :
    (s.removeSession session reason).2.metrics = s.metrics := by
  rcases s.ledger_removeSession session reason with ⟨-, same⟩ | ⟨-, i, -, same⟩
  · exact congrArg Ledger.metrics same
  · exact congrArg Ledger.metrics same

/-- A session that leaves is in no game, or it gets out of the one it is in. -/
theorem games_leaveActivities (h : s.seating.Coherent) (session : SessionId) (reason : Int64) :
    (s.session session).seat = none ∧ (s.leaveActivities session reason).games = s.games ∧
        (s.leaveActivities session reason).metrics = s.metrics ∨
      ∃ i g x, s.games.get? i = some g ∧ session ∈ g.sessions ∧ g.LeftBy session x ∧
        (∀ j, (s.leaveActivities session reason).games.get? j =
          if j = i then some x else s.games.get? j) ∧
        (g.sessions = [session] ∧
            (s.leaveActivities session reason).metrics = s.metrics.gameReleased ∨
          g.sessions ≠ [session] ∧ (s.leaveActivities session reason).metrics = s.metrics) := by
  have coherent := h.moves (moves_withdraw h session)
  have link : ((s.withdraw session).2.session session).seat = (s.session session).seat :=
    congrFun (congrArg Seating.seat (s.seating_withdraw session)) session
  have metrics := (s.withdraw session).2.metrics_removeSession session reason
  rcases removeSession_cases coherent session reason with
    ⟨free, same⟩ | ⟨i, g, m, removal, rest, found, member, rfl, removed, same⟩
  · have result : s.leaveActivities session reason = (s.withdraw session).2 := by
      rcases s.leaveActivities_cases session reason with ⟨-, result⟩ | ⟨emptied, -⟩
      · rw [result, same]
      · rw [same] at emptied
        cases emptied
    rw [result]
    exact .inl ⟨link.symm.trans free, rfl, rfl⟩
  · obtain ⟨emptied, x, left, games⟩ :=
      leftBy_releaseIfEmptied coherent found member removed reason
    rw [← same] at emptied games
    refine .inr ⟨i, g, x, found, List.mem_map_of_mem member, left, ?_⟩
    rcases s.leaveActivities_cases m.session reason with ⟨more, result⟩ | ⟨last, result⟩
    · rw [result]
      exact ⟨games, .inr ⟨fun alone => more (emptied.2 alone), metrics⟩⟩
    · rw [result]
      exact ⟨games, .inl ⟨emptied.1 last, congrArg Metrics.gameReleased metrics⟩⟩

/-- A release is counted exactly if the session was the last member of its game. -/
theorem released_leaveActivities (h : s.seating.Coherent) (session : SessionId) (reason : Int64) :
    (∃ i g, s.findGame? i = some g ∧ g.sessions = [session]) ∧
        (s.leaveActivities session reason).metrics = s.metrics.gameReleased ∨
      (∀ i g, s.findGame? i = some g → g.sessions ≠ [session]) ∧
        (s.leaveActivities session reason).metrics = s.metrics := by
  -- A game that only the session is in has it in its roster.
  have sole {j : GameId} {y : Game} (known : s.findGame? j = some y)
      (alone : y.sessions = [session]) : s.games.get? j = some y ∧ session ∈ y.sessions :=
    ⟨(Option.filter_eq_some_iff.1 known).1, alone ▸ List.mem_singleton_self session⟩
  rcases games_leaveActivities h session reason with
    ⟨free, -, metrics⟩ | ⟨i, g, x, found, listed, -, -, metrics⟩
  · refine .inr ⟨fun j y known alone => ?_, metrics⟩
    obtain ⟨stored, member⟩ := sole known alone
    obtain ⟨slot, linked⟩ := seat_of_listed h stored member
    rw [free] at linked
    cases linked
  · rcases metrics with ⟨alone, counted⟩ | ⟨more, same⟩
    · obtain ⟨m, member, -⟩ := List.mem_map.1 listed
      have registered : s.findGame? i = some g := Option.filter_eq_some_iff.2
        ⟨found, (h.lineup (s.lineup_seating found)).registered_of_mem member⟩
      exact .inl ⟨⟨i, g, registered, alone⟩, counted⟩
    · refine .inr ⟨fun j y known alone => ?_, same⟩
      obtain ⟨stored, member⟩ := sole known alone
      obtain ⟨-, rfl⟩ := eq_of_listed h found listed stored member
      exact more alone

theorem seat_leaveActivities_of_ne (h : s.seating.Coherent) (session : SessionId) (reason : Int64)
    {id : SessionId} (other : id ≠ session) :
    ((s.leaveActivities session reason).session id).seat = (s.session id).seat := by
  have link : (s.withdraw session).2.seating.seat = s.seating.seat := by
    rw [seating_withdraw]
    rfl
  show (s.leaveActivities session reason).seating.seat id = s.seating.seat id
  rw [seating_leaveActivities, ← link]
  rcases seating_removeSession (h.moves (moves_withdraw h session)) session reason with
    ⟨-, same⟩ | ⟨i, l, m, -, -, rfl, result⟩
  · rw [same]
  · rw [result]
    exact if_neg other

/-- **A session that leaves everything takes its own entries with it, and nothing else.** -/
theorem left_leaveActivities (h : s.seating.Coherent) (session : SessionId) (reason : Int64) :
    s.Left session (s.leaveActivities session reason) := by
  have unlinked : ((s.leaveActivities session reason).session session).seat = none :=
    (idle_leaveActivities h session reason).1
  have waiting := s.waiting_leaveActivities session reason
  have present := (moves_leaveActivities h session reason).present
  have profile := s.profile_leaveActivities session reason
  have queue : (s.leaveActivities session reason).queue =
      s.queue.filter (·.session ≠ session) := congrArg Waiting.queue waiting
  have mark (id : SessionId) : ((s.leaveActivities session reason).session id).seeking =
      if id = session then false else (s.session id).seeking :=
    congrFun (congrArg Waiting.seeking waiting) id
  have kept (id : SessionId) := get?_sessions (t := s.leaveActivities session reason)
    (congrFun (congrArg Waiting.known waiting) id)
    (congrFun (congrArg Waiting.listening waiting) id) (congrFun present id) (congrFun profile id)
  have seat (id : SessionId) (other : id ≠ session) :=
    seat_leaveActivities_of_ne h session reason other
  have games := games_leaveActivities h session reason
  have released := released_leaveActivities h session reason
  generalize s.leaveActivities session reason = t at *
  have unmarked : (t.session session).seeking = false := (mark session).trans (if_pos rfl)
  constructor
  case unqueued =>
    intro k queued
    rw [queue] at queued
    simpa using (List.mem_filter.1 queued).2
  case unmarked => exact unmarked
  case unlinked => exact unlinked
  case queue => exact queue
  case own =>
    rw [kept session, unlinked, unmarked]
  case others =>
    intro id other
    rw [kept id, seat id other, mark id, if_neg other]
    refine Option.map_congr fun x there => ?_
    have same : s.session id = x := by
      rw [Server.session, Option.mem_def.1 there, Option.getD_some]
    rw [same]
  case elsewhere =>
    intro i outside
    rcases games with ⟨-, same, -⟩ | ⟨j, g, x, found, listed, -, games, -⟩
    · rw [same]
    · have apart : i ≠ j := by
        rintro rfl
        exact outside g found listed
      rw [games, if_neg apart]
  case here =>
    intro i g found listed
    rcases games with ⟨free, -⟩ | ⟨j, y, x, stored, member, left, games, -⟩
    · obtain ⟨slot, linked⟩ := seat_of_listed h found listed
      rw [free] at linked
      cases linked
    · obtain ⟨rfl, rfl⟩ := eq_of_listed h found listed stored member
      exact ⟨x, (games i).trans (if_pos rfl), left⟩
  case released => exact released

/-! ### Leaving again -/

/-- **A session that has left everything cannot leave again.** -/
theorem leaveActivities_eq_self (off : ∀ k ∈ s.queue, k.session ≠ session)
    (unmarked : (s.session session).seeking = false) (unlinked : (s.session session).seat = none)
    (reason : Int64) : s.leaveActivities session reason = s := by
  rw [leaveActivities, withdraw_eq_self off unmarked]
  dsimp only
  rw [removeSession, unlinked]

/-- **In every state of every run, a session that leaves everything takes exactly its own entries
with it, and leaving again does nothing.** -/
theorem leave_run (store : Store) (events : List Event) (feasible : (start store).Feasible events)
    (session : SessionId) (reason again : Int64) :
    let s := (start store).run events
    let t := s.leaveActivities session reason
    s.Left session t ∧ t.leaveActivities session again = t := by
  intro s t
  have coherent : s.seating.Coherent := coherent_run (coherent_start store) feasible
  have left := left_leaveActivities coherent session reason
  exact ⟨left, leaveActivities_eq_self left.unqueued left.unmarked left.unlinked again⟩

/-- A host leaves its game to the other member, who then leaves it as the last one, while a third
player waits. -/
theorem leave_run_host :
    let account (id : PlayerId) (email : String) : Account := ⟨⟨id, email⟩, email, "word", "token"⟩
    let store : Store :=
      ⟨.ofList [(1, account 1 "a@b"), (2, account 2 "c@d"), (3, account 3 "e@f")], ∅, ∅, 4, true⟩
    let login (email : String) : Packet :=
      .request Route.login 0 [.string Field.mail email, .string Field.pass "word"]
    let wish : Packet := .request Route.startMatchmaking 0
      [.group Field.crit [.list Field.rlst (.groups [.mk false
        [.string Field.name "ME3_gameMapMatchRule", .list Field.valu (.strings ["map"])]])]]
    let both : List Event :=
      [.connect none, .connect none, .connect none, .request 1 (login "a@b"),
        .request 2 (login "c@d"), .request 3 (login "e@f"), .request 3 wish,
        .request 1 (.request Route.createGame 0 []),
        .request 2 (.request Route.startMatchmaking 0 [])]
    let rosters (s : Server) : List (GameId × List SessionId) :=
      s.registeredGames.map fun e => (e.1, e.2.sessions)
    let s := (start store).run both
    let t := s.leaveActivities 1 leftReason
    let u := t.leaveActivities 2 leftReason
    (start store).Feasible both ∧ s.Left 1 t ∧ t.leaveActivities 1 disconnectedReason = t ∧
      rosters s = [(1, [1, 2])] ∧ rosters t = [(1, [2])] ∧ rosters u = [] ∧
      u.metrics.gamesReleased = 1 ∧ u.queue.map (·.session) = [3] := by
  intro account store login wish both rosters s t u
  have feasible : (start store).Feasible both :=
    ⟨by decide +kernel, by decide +kernel, by decide +kernel⟩
  have result : s.Left 1 t ∧ t.leaveActivities 1 disconnectedReason = t :=
    leave_run store both feasible 1 leftReason disconnectedReason
  refine ⟨feasible, result.1, result.2, ?_, ?_, ?_, ?_, ?_⟩
  all_goals decide +kernel

end Server

end Lobby
