import Lobby.Proofs.Game.Roster
import Lobby.Proofs.Server.Deeds

/-!
# What a server does as deeds

Creating a game, joining one and leaving it are one deed each, with every notice it takes.  A game
that is offered to the queue is joined by one seeker after the other, each of them still free when
its turn comes.
-/

namespace Lobby

namespace Game

variable {g rest : Game} {player : PlayerId} {m : Member} {removal : Removal}

/-- A removal takes the first member with a player off the roster.  A host that stays is the host
still, and otherwise the first member that is left becomes the host. -/
theorem eq_of_remove? (removed : g.remove? player = some (m, removal, rest)) :
    g.memberOf? player = some m ∧ ∃ active host,
      rest = { g with roster := g.roster.eraseP (·.player.id = player), active, host } ∧
        (m.session ≠ g.host ∧ host = g.host ∨ rest.roster = [] ∨ host ∈ rest.sessions) := by
  obtain ⟨found, roster, same, kept⟩ := remove?_cases removed
  rw [roster] at same
  refine ⟨found, rest.active, rest.host, same, ?_⟩
  rcases kept with ⟨empty, -⟩ | ⟨-, -, ⟨other, host⟩ | ⟨-, first⟩⟩
  · exact .inr (.inl empty)
  · exact .inl ⟨other, host⟩
  · obtain ⟨o, found, session⟩ := Option.map_eq_some_iff.1 first
    exact .inr (.inr (session ▸ List.mem_map_of_mem (List.mem_of_head? found)))

end Game

namespace Server

open Stage

variable {s : Server} {e : Event}

/-! ### Leaving -/

/-- Everybody who was a member is told of the removal, the member that goes included. -/
theorem stage_dismiss (h : s.seating.Coherent) {i : GameId} {x rest : Game} {m : Member}
    {player : PlayerId} {removal : Removal} (found : s.games.get? i = some x)
    (removed : x.remove? player = some (m, removal, rest)) (reason : Int64) :
    ∃ updates : List Packet, (∀ p ∈ updates, p.Minor) ∧
      s.dismiss i player reason = (removal, (s.dismiss i player reason).2) ∧
      (s.dismiss i player reason).2.stage = (s.stage.setGame i rest).tell fun id =>
        (if id = m.session then [Notice.playerRemoved i player reason] else []) ++
          if id ∈ rest.sessions then Notice.playerRemoved i player reason :: updates else [] := by
  have distinct : rest.sessions.Nodup := by
    rw [Game.sessions, Game.roster_remove? removed]
    exact ((orderly_stage h).sound found).sessions.sublist (List.eraseP_sublist.map _)
  rw [dismiss, found, Option.bind_some, removed]
  dsimp only
  generalize pushed : ((s.updateGame i fun _ => rest).unlink m.session i).push m.session
    (Notice.playerRemoved i player reason) = t
  refine ⟨(t.session m.session).updated?.toList, ?_, rfl, ?_⟩
  · intro p hp
    exact .updated (Option.mem_toList.1 hp)
  · rw [stage_foldl_pushAll _ distinct, ← pushed, stage_push, stage_unlink, stage_updateGame found,
      tell_tell]

/-- A member that is removed leaves, and the game goes out of the register with the last one. -/
theorem deed_releaseIfEmptied (h : s.seating.Coherent) {i : GameId} {x : Game}
    (found : s.games.get? i = some x) (player : PlayerId) (reason : Int64) :
    releaseIfEmptied i (s.dismiss i player reason) = (.notMember, s) ∨
      Deed e s.stage (releaseIfEmptied i (s.dismiss i player reason)).2.stage ∧
        (releaseIfEmptied i (s.dismiss i player reason)).2.stage.player = s.stage.player := by
  cases mem : x.memberOf? player with
  | none =>
    refine .inl ?_
    rw [dismiss, found, Option.bind_some, Game.remove?, mem]
    rfl
  | some m =>
    have member : m ∈ x.roster := List.mem_of_find?_eq_some mem
    obtain rfl : m.player.id = player := by simpa using List.find?_some mem
    obtain ⟨removal, rest, removed, -⟩ := Game.remove?_eq_some mem
    obtain ⟨updates, minor, outcome, stage⟩ := stage_dismiss h found removed reason
    refine .inr ?_
    by_cases emptied : removal = .emptied
    · have there : (s.dismiss i m.player.id reason).2.games.get? i = some rest := by
        rw [← game_stage, stage]
        exact if_pos rfl
      rw [releaseIfEmptied_emptied ((congrArg Prod.fst outcome).trans emptied), release,
        stage_updateGame there, stage]
      refine ⟨?_, rfl⟩
      have deed := Deed.leave (e := e) (g := s.stage) found member removed false reason minor
      rwa [← setGame_setGame _ i rest] at deed
    · rw [releaseIfEmptied_of_ne (congrArg Prod.fst outcome ▸ emptied), stage]
      exact ⟨.leave found member removed rest.registered reason minor, rfl⟩

theorem deeds_removePlayer (h : s.seating.Coherent) (i : GameId) (player : PlayerId)
    (reason : Int64) : Deeds e s.stage (s.removePlayer i player reason).2.stage := by
  rw [removePlayer]
  split
  · exact .refl
  · next x registered =>
    obtain ⟨found, -⟩ := Option.filter_eq_some_iff.1 registered
    rcases deed_releaseIfEmptied (e := e) h found player reason with same | ⟨deed, -⟩
    · rw [same]
    · exact Deeds.single h deed

/-- A session that leaves its game stays logged in. -/
theorem deed_removeSession (h : s.seating.Coherent) (session : SessionId) (reason : Int64) :
    (s.removeSession session reason).2.stage = s.stage ∨
      Deed e s.stage (s.removeSession session reason).2.stage ∧
        (s.removeSession session reason).2.stage.player = s.stage.player := by
  rw [removeSession]
  split
  · exact .inl rfl
  · next seat _ =>
    split
    · exact .inl (s.stage_unlink session seat.game)
    · next x registered =>
      obtain ⟨found, -⟩ := Option.filter_eq_some_iff.1 registered
      rw [dismissSession, found, Option.bind_some]
      split
      · exact .inl rfl
      · next m _ =>
        rcases deed_releaseIfEmptied (e := e) h found m.player.id reason with same | deed
        · rw [same]
          exact .inl rfl
        · exact .inr deed

@[simp] theorem stage_withdraw (s : Server) (session : SessionId) :
    (s.withdraw session).2.stage = s.stage := by
  rw [withdraw, stage_setSeeking, stage_setQueue]

theorem stage_leaveActivities (s : Server) (session : SessionId) (reason : Int64) :
    (s.leaveActivities session reason).stage =
      ((s.withdraw session).2.removeSession session reason).2.stage := by
  rcases s.leaveActivities_cases session reason with ⟨-, result⟩ | ⟨-, result⟩
  · rw [result]
  · rw [result, stage_count]

theorem deeds_leaveActivities (h : s.seating.Coherent) (session : SessionId) (reason : Int64) :
    Deeds e s.stage (s.leaveActivities session reason).stage := by
  have coherent := h.moves (moves_withdraw h session)
  rw [stage_leaveActivities, ← s.stage_withdraw session]
  rcases deed_removeSession (e := e) coherent session reason with same | ⟨deed, -⟩
  · rw [same]
  · exact Deeds.single coherent deed

/-- Leaving everything does not log a session out. -/
theorem player_leaveActivities (h : s.seating.Coherent) (session : SessionId) (reason : Int64) :
    (s.leaveActivities session reason).stage.player = s.stage.player := by
  have coherent := h.moves (moves_withdraw h session)
  rw [stage_leaveActivities, ← s.stage_withdraw session]
  rcases deed_removeSession (e := .wait 0) coherent session reason with same | ⟨-, same⟩
  · rw [same]
  · exact same

/-! ### Creating -/

/-- A session that is not in a game becomes the host of the next one, or nothing happens. -/
theorem deeds_createGame (h : s.seating.Coherent) {host : SessionId} (free : s.seating.Free host)
    (room : s.created.toNat + 1 < UInt32.size) (other : e.login? = none) {attributes : Attributes}
    (brought : attributes = e.attributes) (setting : UInt16) :
    Deeds e s.stage (s.createGame host attributes setting).2.stage := by
  have tidy := stage_evict h
  rcases s.createGame_cases host attributes setting with
    ⟨_, result⟩ | ⟨player, linked, login, claimed, result⟩
  · rw [result, tidy]
  · have link := (stage_claim claimed).trans tidy
    have unused : s.stage.game (1 + s.created) = none := by
      have next : s.created < 1 + s.created := by
        rw [UInt32.lt_iff_toNat_lt, UInt32.toNat_add, UInt32.toNat_one,
          Nat.mod_eq_of_lt (by rw [Nat.add_comm]; exact room)]
        exact Nat.lt_add_of_pos_left Nat.one_pos
      exact Option.map_eq_none_iff.1 (h.created _ next)
    rw [result]
    generalize seated : Game.hosted (1 + s.created) (0x10000001 + s.created) host player attributes
      setting = x
    have found : Server.stage { linked with
        games := linked.games.insert (1 + s.created) x
        created := linked.created + 1 } = s.stage.setGame (1 + s.created) x := by
      rw [stage_insertGame, link]
    generalize { linked with
      games := linked.games.insert (1 + s.created) x
      created := linked.created + 1 } = t at found ⊢
    have there : t.games.get? (1 + s.created) = some x := by
      rw [← game_stage, found]
      exact if_pos rfl
    have member : x.hostMember? = some ⟨host, player, 0⟩ := by
      rw [← seated]
      simp [Game.hostMember?, Game.memberAt?, Game.hosted]
    rw [notifyCreated, setup?_eq there member]
    show Deeds e s.stage (t.push host _).stage
    rw [stage_push, found, ← seated, brought]
    exact Deeds.single h
      (.host (m := ⟨host, player, 0⟩) other unused (idle_stage h free.seat) login rfl
        fun id => (t.session id).network)

/-! ### Joining -/

/-- A session that is not in a game becomes a member of one, or nothing happens. -/
theorem deeds_join (h : s.seating.Coherent) (other : e.login? = none) (i : GameId)
    {session : SessionId} (free : s.seating.Free session) (context : JoinContext) :
    Deeds e s.stage (s.join i session context).2.stage := by
  rcases s.join_cases i session context with same | ⟨newcomer, linked, granted, result⟩
  · rw [same]
  · obtain ⟨player, x, login, found, active, absent, room, rfl, claimed⟩ :=
      admission_newcomer granted
    have games : linked.games.get? i = some x := by rw [games_claim claimed, found]
    have link := stage_claim claimed
    have idle := idle_stage h free.seat
    rw [result, found, Option.map_some, Option.getD_some]
    dsimp only
    generalize seated : linked.updateGame i (fun g => g.seat ⟨session, player, x.nextSlot⟩) = t
    have stage : t.stage = s.stage.setGame i (x.seat ⟨session, player, x.nextSlot⟩) := by
      rw [← seated, stage_updateGame games, link]
    have seat : (t.session session).seat = some ⟨i, x.nextSlot⟩ := by
      show t.seating.seat session = _
      rw [← seated, seating_updateGame_setLineup _ _ games, seating_claim free.present claimed]
      exact if_pos rfl
    have there : t.games.get? i = some (x.seat ⟨session, player, x.nextSlot⟩) := by
      rw [← game_stage, stage]
      exact if_pos rfl
    have new : session ∉ x.sessions := by
      intro hs
      obtain ⟨m, hm, same⟩ := List.mem_map.1 hs
      exact idle i x found m hm same
    have distinct : x.sessions.Nodup := ((orderly_stage h).sound found).sessions
    rw [stage_introduce t i context distinct new, stage]
    exact Deeds.single h (.join other found active room absent idle login rfl there
      (by rw [stage]; rfl) seat context)

/-- Seekers join one after the other; each of them is free when its turn comes. -/
theorem deeds_place (other : e.login? = none) (i : GameId) {seekers : List Seeker}
    (h : s.seating.Coherent) (free : ∀ k ∈ seekers, s.seating.Free k.session)
    (distinct : (seekers.map (·.session)).Nodup) :
    Deeds e s.stage (s.place i seekers).2.stage := by
  induction seekers generalizing s with
  | nil => exact .refl
  | cons k rest ih =>
    obtain ⟨head, tail⟩ : k.session ∉ rest.map (·.session) ∧ (rest.map (·.session)).Nodup :=
      List.nodup_cons.1 distinct
    have own := free k List.mem_cons_self
    have joined := deeds_join h other i own .matchmaking
    have moves := moves_join i own .matchmaking
    have later : ∀ o ∈ rest, (s.join i k.session .matchmaking).2.seating.Free o.session := by
      intro o ho
      refine free_join i own (free o (List.mem_cons_of_mem k ho)) ?_ .matchmaking
      intro same
      rw [← same] at head
      exact head (List.mem_map_of_mem ho)
    obtain ⟨t, server, step⟩ := s.place_cons i k rest
    have same : t.seating = (s.join i k.session .matchmaking).2.seating ∧
        t.stage = (s.join i k.session .matchmaking).2.stage := by
      rcases step with ⟨rfl, -⟩ | ⟨unchanged, rfl, -⟩
      · exact ⟨seating_settle _ _, stage_settle _ _⟩
      · rw [unchanged]
        exact ⟨rfl, rfl⟩
    rw [server]
    rw [← same.2] at joined
    rw [← same.1] at moves later
    exact joined.trans (ih (h.moves moves) later tail)

@[simp] theorem stage_enqueue (s : Server) (session : SessionId) (rules : RuleSet) :
    (s.enqueue session rules).stage = s.stage := by
  rw [enqueue, stage_setSeeking, stage_setQueue]

@[simp] theorem stage_matchOrEnqueue (s : Server) (session : SessionId) (rules : RuleSet) :
    (s.matchOrEnqueue session rules).2.stage = s.stage := by
  rw [matchOrEnqueue]
  split
  · rfl
  · exact s.stage_enqueue session rules

theorem stage_putBack (s : Server) (seekers : List Seeker) :
    (seekers.foldr putBack s).stage = s.stage := by
  induction seekers with
  | nil => rfl
  | cons k rest ih =>
    rw [List.foldr_cons, putBack]
    split <;> exact ih

theorem deeds_offer (h : s.seating.Coherent) (other : e.login? = none) (i : GameId) :
    Deeds e s.stage (s.offer i).2.stage := by
  rw [offer]
  split
  · exact .refl
  · next g _ =>
    split
    next taken kept divided =>
      obtain ⟨moves, free, distinct⟩ := free_of_split h divided
      have placed := deeds_place other i (h.moves moves) free distinct
      split
      next placement t result =>
        rw [result] at placed
        rw [stage_putBack]
        exact placed

end Server

end Lobby
