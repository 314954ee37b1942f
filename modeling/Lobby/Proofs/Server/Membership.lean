import Lobby.Proofs.Server.Frame

/-!
# Membership as moves

Creating a game, joining one and being removed from one are each at most one move of the seating.
For a removal this takes both halves of coherence: the session that is linked to a game is found in
its roster, and the first member with its player is the member it is.
-/

namespace Lobby

namespace Game

variable {g : Game}

theorem memberOf?_eq_some {i : GameId} (sound : g.lineup.Sound i) {m : Member}
    (member : m ∈ g.roster) : g.memberOf? m.player.id = some m :=
  Lineup.find?_eq_some sound.players member

theorem memberAt?_eq_some {i : GameId} (sound : g.lineup.Sound i) {m : Member}
    (member : m ∈ g.roster) : g.memberAt? m.session = some m :=
  Lineup.find?_eq_some sound.sessions member

/-- Removing a member leaves the lineup without it.  Only the register is told later. -/
theorem remove?_eq_some {m : Member} {player : PlayerId} (found : g.memberOf? player = some m) :
    ∃ removal rest, g.remove? player = some (m, removal, rest) ∧
      (removal = .emptied ∧
          { rest.lineup with registered := false } = g.lineup.without player ∨
        removal ≠ .emptied ∧ rest.lineup = g.lineup.without player) := by
  rw [remove?, found]
  simp only [Lineup.without, lineup]
  cases g.roster.eraseP (·.player.id = player) with
  | nil => exact ⟨_, _, rfl, .inl ⟨rfl, rfl⟩⟩
  | cons first rest =>
    by_cases e : m.session = g.host
    · refine ⟨.hostMigrated first.session, _, if_pos e, .inr ⟨?_, rfl⟩⟩
      intro e
      cases e
    · refine ⟨.removed, _, if_neg e, .inr ⟨?_, rfl⟩⟩
      intro e
      cases e

end Game

namespace Server

variable {s : Server}

/-! ### Creating -/

/-- Every game that is inactive is out of the register already. -/
theorem seating_evict (h : s.seating.Coherent) : s.evict.seating = s.seating := by
  have games : s.evict.seating.lineup = s.seating.lineup := by
    funext i
    show (s.evict.games.get? i).map Game.lineup = (s.games.get? i).map Game.lineup
    rw [evict, SortedMap.get?_mapValues]
    cases found : s.games.get? i with
    | none => rfl
    | some g =>
      have registered : g.registered = g.active := (h.lineup (s.lineup_seating found)).registered
      simp [Game.lineup, registered]
  exact Seating.ext rfl rfl games rfl rfl rfl

/-- A session cannot create a game, or it is linked to the next one. -/
theorem createGame_cases (s : Server) (host : SessionId) (attributes : Attributes)
    (setting : UInt16) :
    (∃ e, s.createGame host attributes setting = (.error e, s.evict)) ∨
      ∃ player linked, (s.session host).player = some player ∧
        s.evict.claim host ⟨1 + s.created, 0⟩ = .ok linked ∧
        s.createGame host attributes setting = (.ok (1 + s.created),
          Server.notifyCreated
            { linked with
              games := linked.games.insert (1 + s.created)
                (.hosted (1 + s.created) (0x10000001 + s.created) host player attributes setting)
              created := linked.created + 1 }
            (1 + s.created)) := by
  simp only [createGame]
  split
  · exact .inl ⟨_, rfl⟩
  · next player login =>
    split
    · exact .inl ⟨_, rfl⟩
    · next linked claimed => exact .inr ⟨player, linked, login, claimed, rfl⟩

theorem createGame_error {host : SessionId} {attributes : Attributes} {setting : UInt16} {e : Error}
    (failed : (s.createGame host attributes setting).1 = .error e) :
    (s.createGame host attributes setting).2 = s.evict := by
  rcases s.createGame_cases host attributes setting with ⟨_, result⟩ | ⟨_, _, _, _, result⟩
  · rw [result]
  · rw [result] at failed
    cases failed

theorem moves_createGame (h : s.seating.Coherent) {host : SessionId} (free : s.seating.Free host)
    (room : s.created.toNat + 1 < UInt32.size) (attributes : Attributes) (setting : UInt16) :
    Seating.Moves s.seating (s.createGame host attributes setting).2.seating := by
  have tidy := seating_evict h
  rcases s.createGame_cases host attributes setting with
    ⟨_, result⟩ | ⟨player, linked, -, claimed, result⟩
  · rw [result, tidy]
  · have link := seating_claim (tidy ▸ free.present) claimed
    rw [tidy] at link
    have created : linked.created = s.created := congrArg Seating.created link
    refine .single ?_
    rw [result, seating_notifyCreated, seating_insertGame, link, created]
    exact .host player free room

/-! ### Joining -/

/-- A session that is let into a game gets the lowest free slot of an active game that is not full,
and its player is new there. -/
theorem admission_newcomer {i : GameId} {session : SessionId} {newcomer : Member} {linked : Server}
    (granted : s.admission i session = .ok (.inr (newcomer, linked))) :
    ∃ player g, (s.session session).player = some player ∧ s.games.get? i = some g ∧
      g.active = true ∧ g.memberOf? player.id = none ∧ g.count < gameCapacity ∧
      newcomer = ⟨session, player, g.nextSlot⟩ ∧ s.claim session ⟨i, g.nextSlot⟩ = .ok linked := by
  rw [admission] at granted
  split at granted
  · cases granted
  · cases granted
  · next player g login found =>
    split at granted
    · cases granted
    · next active =>
      split at granted
      · cases granted
      · next absent =>
        split at granted
        · cases granted
        · next room =>
          simp only at granted
          split at granted
          · cases granted
          · next claimed =>
            cases granted
            exact ⟨player, g, login, found, by simpa using active, absent, Nat.lt_of_not_le room,
              rfl, claimed⟩

/-- A session joins a game, or nothing happens. -/
theorem join_cases (s : Server) (i : GameId) (session : SessionId) (context : JoinContext) :
    (s.join i session context).2 = s ∨
      ∃ newcomer linked, s.admission i session = .ok (.inr (newcomer, linked)) ∧
        s.join i session context = (.ok newcomer.slot,
          (linked.updateGame i fun game => game.seat newcomer).introduce i newcomer context
            (((s.games.get? i).map Game.sessions).getD [])) := by
  rw [join]
  split
  · exact .inl rfl
  · exact .inl rfl
  · next newcomer linked granted => exact .inr ⟨newcomer, linked, granted, rfl⟩

theorem join_error {i : GameId} {session : SessionId} {context : JoinContext} {e : Error}
    (failed : (s.join i session context).1 = .error e) : (s.join i session context).2 = s := by
  rcases s.join_cases i session context with same | ⟨_, _, _, result⟩
  · exact same
  · rw [result] at failed
    cases failed

/-- A session that is there either sits down in an active game or stays as it is. -/
theorem seating_join (i : GameId) {session : SessionId}
    (present : s.seating.present session = true) (context : JoinContext) :
    (s.join i session context).2.seating = s.seating ∨
      ∃ l m, s.seating.lineup i = some l ∧ l.active = true ∧ m.session = session ∧
        (∀ o ∈ l.roster, o.player.id ≠ m.player.id) ∧
        (s.join i session context).2.seating = s.seating.sit i l m := by
  rcases s.join_cases i session context with same | ⟨newcomer, linked, granted, result⟩
  · exact .inl (congrArg seating same)
  · obtain ⟨player, g, -, found, active, absent, -, rfl, claimed⟩ := admission_newcomer granted
    refine .inr
      ⟨g.lineup, ⟨session, player, g.nextSlot⟩, s.lineup_seating found, active, rfl, ?_, ?_⟩
    · intro o ho
      simpa using List.find?_eq_none.1 absent o ho
    · have link := seating_claim present claimed
      have games : linked.games.get? i = some g := by
        rw [games_claim claimed, found]
      rw [result, seating_introduce, seating_updateGame_setLineup _ _ games, link]
      rfl

theorem moves_join (i : GameId) {session : SessionId}
    (free : s.seating.Free session) (context : JoinContext) :
    Seating.Moves s.seating (s.join i session context).2.seating := by
  rcases seating_join i free.present context with
    same | ⟨l, m, found, active, rfl, player, result⟩
  · rw [same]
  · rw [result]
    exact .single (.sit found active free player)

/-! ### Removing -/

/-- The game that a removal has emptied is out of the register. -/
theorem seating_release (s : Server) {i : GameId} {l : Lineup}
    (found : s.seating.lineup i = some l) :
    (s.release i).seating = s.seating.setLineup i { l with registered := false } := by
  obtain ⟨g, stored, rfl⟩ := Option.map_eq_some_iff.1 found
  exact s.seating_updateGame_setLineup _ stored

/-- A removal unlinks the member and takes it off the roster. -/
theorem seating_dismiss (h : s.seating.Coherent) {i : GameId} {g rest : Game}
    (found : s.games.get? i = some g) {m : Member} (member : m ∈ g.roster) {player : PlayerId}
    {removal : Removal} (removed : g.remove? player = some (m, removal, rest)) (reason : Int64) :
    (s.dismiss i player reason).1 = removal ∧ (s.dismiss i player reason).2.seating =
      (s.seating.setLineup i rest.lineup).setSeat m.session none := by
  have roster := s.seating_updateGame_setLineup (fun _ => rest) found
  have held : (s.updateGame i fun _ => rest).seating.seat m.session = some ⟨i, m.slot⟩ := by
    rw [roster]
    exact h.seat (s.lineup_seating found) m member
  have unlinked := (s.updateGame i fun _ => rest).seating_unlink m.session held
  rw [roster] at unlinked
  rw [dismiss, found, Option.bind_some, removed]
  refine ⟨rfl, ?_⟩
  dsimp only
  rw [seating_foldl fun s other => s.seating_pushAll other _, seating_push, unlinked]

theorem releaseIfEmptied_emptied {i : GameId} {r : Removal × Server} (h : r.1 = .emptied) :
    (releaseIfEmptied i r).2 = r.2.release i := by
  obtain ⟨removal, s⟩ := r
  subst h
  rfl

theorem releaseIfEmptied_of_ne {i : GameId} {r : Removal × Server} (h : r.1 ≠ .emptied) :
    releaseIfEmptied i r = r := by
  rw [releaseIfEmptied.eq_def]
  split
  · exact absurd rfl h
  · rfl

/-- The member with a player gets out of its game, and the game out of the register if it was the
last one.  Without such a member nothing happens. -/
theorem seating_releaseIfEmptied (h : s.seating.Coherent) {i : GameId} {g : Game}
    (found : s.games.get? i = some g) (player : PlayerId) (reason : Int64) :
    (g.memberOf? player = none ∧ releaseIfEmptied i (s.dismiss i player reason) = (.notMember, s)) ∨
      ∃ m ∈ g.roster, g.memberOf? player = some m ∧
        (releaseIfEmptied i (s.dismiss i player reason)).2.seating =
          s.seating.unseat i g.lineup m := by
  cases mem : g.memberOf? player with
  | none =>
    refine .inl ⟨rfl, ?_⟩
    rw [dismiss, found, Option.bind_some, Game.remove?, mem]
    rfl
  | some m =>
    have member : m ∈ g.roster := List.mem_of_find?_eq_some mem
    have same : m.player.id = player := by simpa using List.find?_some mem
    obtain ⟨removal, rest, removed, lineup⟩ := Game.remove?_eq_some mem
    obtain ⟨outcome, result⟩ := seating_dismiss h found member removed reason
    refine .inr ⟨m, member, rfl, ?_⟩
    rw [Seating.unseat, same]
    rcases lineup with ⟨emptied, lineup⟩ | ⟨left, lineup⟩
    · have there : (s.dismiss i player reason).2.seating.lineup i = some rest.lineup := by
        rw [result]
        exact if_pos rfl
      rw [releaseIfEmptied_emptied (outcome.trans emptied), seating_release _ there, result, lineup,
        Seating.setSeat_setLineup, Seating.setLineup_setLineup]
    · rw [releaseIfEmptied_of_ne (outcome ▸ left), result, lineup, Seating.setSeat_setLineup]

theorem moves_removePlayer (h : s.seating.Coherent) (i : GameId) (player : PlayerId)
    (reason : Int64) : Seating.Moves s.seating (s.removePlayer i player reason).2.seating := by
  rw [removePlayer]
  split
  · exact .refl
  · next g registered =>
    obtain ⟨found, -⟩ := Option.filter_eq_some_iff.1 registered
    rcases seating_releaseIfEmptied h found player reason with ⟨-, same⟩ | ⟨m, member, -, result⟩
    · rw [same]
    · rw [show (_ : Except Error Removal × Server).2.seating = _ from result]
      exact .single (.unseat (s.lineup_seating found) member)

/-- The link of a session leads to its own entry, and this is the one that is removed. -/
theorem removeSession_cases (h : s.seating.Coherent) (session : SessionId) (reason : Int64) :
    (s.session session).seat = none ∧ s.removeSession session reason = (.notMember, s) ∨
      ∃ i g m removal rest, s.games.get? i = some g ∧ m ∈ g.roster ∧ m.session = session ∧
        g.remove? m.player.id = some (m, removal, rest) ∧
        s.removeSession session reason = releaseIfEmptied i (s.dismiss i m.player.id reason) := by
  rw [removeSession]
  cases held : (s.session session).seat with
  | none => exact .inl ⟨rfl, rfl⟩
  | some seat =>
    obtain ⟨l, lineup, m, member, rfl, -⟩ := h.member session seat held
    obtain ⟨g, found, rfl⟩ := Option.map_eq_some_iff.1 lineup
    have sound := h.lineup lineup
    have registered : s.findGame? seat.game = some g :=
      Option.filter_eq_some_iff.2 ⟨found, sound.registered_of_mem member⟩
    obtain ⟨removal, rest, removed, -⟩ :=
      Game.remove?_eq_some (Game.memberOf?_eq_some sound member)
    refine .inr ⟨seat.game, g, m, removal, rest, found, member, rfl, removed, ?_⟩
    simp only [registered, dismissSession, found, Option.bind_some,
      Game.memberAt?_eq_some sound member]

/-- A session that leaves gets out of the game it is linked to, where its own entry goes. -/
theorem seating_removeSession (h : s.seating.Coherent) (session : SessionId) (reason : Int64) :
    (s.seating.seat session = none ∧ s.removeSession session reason = (.notMember, s)) ∨
      ∃ i l m, s.seating.lineup i = some l ∧ m ∈ l.roster ∧ m.session = session ∧
        (s.removeSession session reason).2.seating = s.seating.unseat i l m := by
  rcases removeSession_cases h session reason with
    alone | ⟨i, g, m, removal, rest, found, member, own, -, result⟩
  · exact .inl alone
  · have lineup := s.lineup_seating found
    have mem : g.memberOf? m.player.id = some m := Game.memberOf?_eq_some (h.lineup lineup) member
    refine .inr ⟨i, g.lineup, m, lineup, member, own, ?_⟩
    rw [result]
    rcases seating_releaseIfEmptied h found m.player.id reason with
      ⟨absent, -⟩ | ⟨o, -, first, left⟩
    · rw [mem] at absent
      cases absent
    · rw [mem] at first
      cases first
      exact left

end Server

end Lobby
