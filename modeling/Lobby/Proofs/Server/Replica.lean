import Lobby.Proofs.Game.News
import Lobby.Proofs.Server.Crew

/-!
# Members know their game

Whoever is a member of a game and has listened all along knows it as it is, from what it has heard
alone: replaying the packets gives the players, the attributes, the state and the setting of the
game (`Server.replay_heard`).

What carries it is that the members of a game are told of every change of it, that a newcomer is
told the whole game after it has come in, and that nobody is told of games of others.
-/

namespace Lobby

/-! ### Replaying -/

namespace Replica

variable {i : GameId} {ps qs : List Packet} {p : Packet}

theorem replay_append_quiet (quiet : ∀ q ∈ qs, q.news? i = none) :
    replay i (ps ++ qs) = replay i ps := by
  rw [replay_append, List.filterMap_eq_nil_iff.2 quiet]
  rfl

theorem replay_append_cons {news : News} (first : p.news? i = some news)
    (quiet : ∀ q ∈ qs, q.news? i = none) :
    replay i (ps ++ p :: qs) = hear (replay i ps) news := by
  rw [replay_append, List.filterMap_cons, first, List.filterMap_eq_nil_iff.2 quiet]
  rfl

/-- After a setup notice nothing before it counts. -/
theorem replay_setup {r : Replica} (setup : p.news? i = some (.setup r)) :
    replay i (ps ++ [p]) = some r :=
  replay_append_cons setup nofun

end Replica

/-! ### Replicas of games -/

namespace Game

variable {g rest : Game}

theorem replica_seat (g : Game) (m : Member) :
    (g.seat m).replica =
      { g.replica with players := insert m.player.id g.replica.players } := by
  have perm : ((g.seat m).roster.map (·.player.id)).Perm ((m :: g.roster).map (·.player.id)) :=
    (Lineup.seatIn_perm m g.roster).map _
  have players : ((g.seat m).roster.map (·.player.id)).toFinset =
      insert m.player.id (g.roster.map (·.player.id)).toFinset := by
    rw [List.toFinset_eq_of_perm _ _ perm, List.map_cons, List.toFinset_cons]
  rw [replica, players]
  rfl

/-- A game that a newcomer has come into has a host. -/
theorem Crewed.exists_host (h : g.Crewed) (members : g.roster ≠ []) (room : g.count < gameCapacity)
    (m : Member) : ∃ host, (g.seat m).hostMember? = some host := by
  have perm : (g.seat m).roster.Perm (m :: g.roster) := Lineup.seatIn_perm m g.roster
  have hosted : (g.seat m).host ∈ (g.seat m).sessions :=
    (h.seat m members room).host fun none => by
      rw [none] at perm
      cases perm.length_eq
  obtain ⟨host, member, session⟩ := List.mem_map.1 hosted
  exact Option.isSome_iff_exists.1 (List.find?_isSome.2 ⟨host, member, by simpa using session⟩)

theorem replica_remove? {i : GameId} (sound : g.lineup.Sound i) {m : Member} (member : m ∈ g.roster)
    {removal : Removal} (removed : g.remove? m.player.id = some (m, removal, rest)) :
    rest.replica = { g.replica with players := g.replica.players.erase m.player.id } := by
  obtain ⟨-, active, host, rfl, -⟩ := eq_of_remove? removed
  have stays (o : Member) : o ∈ g.roster.eraseP (·.player.id = m.player.id) ↔
      o ∈ g.roster ∧ o ≠ m := Lineup.mem_eraseP_iff sound.players member o
  have players : ((g.roster.eraseP (·.player.id = m.player.id)).map (·.player.id)).toFinset =
      (g.roster.map (·.player.id)).toFinset.erase m.player.id := by
    ext player
    simp only [List.mem_toFinset, List.mem_map, Finset.mem_erase, stays]
    constructor
    · rintro ⟨o, ⟨ho, ne⟩, rfl⟩
      exact ⟨fun same => ne (List.inj_on_of_nodup_map sound.players ho member same), o, ho, rfl⟩
    · rintro ⟨ne, o, ho, rfl⟩
      exact ⟨o, ⟨ho, fun same => ne (same ▸ rfl)⟩, rfl⟩
  simp only [replica, players]

end Game

namespace Notice

/-- A setup notice of a game tells its replica. -/
theorem news?_setup {g : Game} {i : GameId} (id : g.id = i) {network : SessionId → Network}
    {host : Member} {context : JoinContext}
    (fits : (gameSetup (g.setup network host) context).contents.length ≤ maxLength) :
    (gameSetup (g.setup network host) context).news? i = some (.setup g.replica) := by
  subst id
  have players : (g.setup network host).members.map (·.member.player.id) =
      g.roster.map (·.player.id) := by
    rw [Game.setup, List.map_map]
    rfl
  have news := news?_gameSetup fits
  rw [players] at news
  exact news

theorem news?_of_minor {p : Packet} (minor : p.Minor) (i : GameId) : p.news? i = none := by
  refine news?_of_route ?_ i
  cases minor with
  | updated updated =>
    rw [Session.updated?, Option.map_eq_some_iff] at updated
    obtain ⟨player, -, rfl⟩ := updated
    show Route.userUpdated ∉ newsRoutes
    decide
  | completed =>
    show Route.playerJoinCompleted ∉ newsRoutes
    decide
  | failed =>
    show Route.matchmakingFailed ∉ newsRoutes
    decide

theorem news?_playerJoining (i j : GameId) (p : Participant) :
    (playerJoining j p).news? i = none := by
  refine news?_of_route ?_ i
  show Route.playerJoining ∉ newsRoutes
  decide

end Notice

/-- What a change of a game tells, and what a client makes of it. -/
theorem Change.hear_notice (c : Change) {g : Game} {i : GameId}
    (fits : (c.notice i (c.apply g)).contents.length ≤ maxLength) :
    ∃ news, (c.notice i (c.apply g)).news? i = some news ∧
      Replica.hear (some g.replica) news = some (c.apply g).replica := by
  cases c with
  | attributes a => exact ⟨_, Notice.news?_gameAttributesChanged i fits, rfl⟩
  | state v => exact ⟨_, Notice.news?_gameStateChanged i v, rfl⟩
  | setting v => exact ⟨_, Notice.news?_gameSettingsChanged i v, rfl⟩

namespace Server

variable {t : Server} {i : GameId} {g : Game} {newcomer : Member}

/-- A newcomer hears the whole game at last. -/
theorem introduction_newcomer (found : t.games.get? i = some g) {host : Member}
    (member : g.hostMember? = some host) (newcomer : Member) (context : JoinContext)
    (others : List SessionId) :
    ∃ before, t.introduction i newcomer context others newcomer.session =
      before ++ [Notice.gameSetup (g.setup (fun id => (t.session id).network) host) context] := by
  rw [introduction, setup?_eq found member]
  exact ⟨_, if_pos rfl⟩

/-- The members before hear who has come. -/
theorem introduction_other (found : t.games.get? i = some g) {host : Member}
    (member : g.hostMember? = some host)
    (seat : (t.session newcomer.session).seat = some ⟨i, newcomer.slot⟩)
    (login : (t.session newcomer.session).player = some newcomer.player) (context : JoinContext)
    {others : List SessionId} {id : SessionId} (ne : id ≠ newcomer.session) (told : id ∈ others) :
    ∃ p rest, t.introduction i newcomer context others id = p :: rest ∧
      (p.contents.length ≤ maxLength → p.news? i = some (.joined newcomer.player.id)) ∧
        ∀ q ∈ rest, q.news? i = none := by
  rw [introduction, setup?_eq found member]
  dsimp only
  rw [if_neg ne, if_pos told, arrival]
  have added := Notice.added?_eq login
  rw [added]
  refine ⟨_, _, rfl, fun fits => Notice.news?_added added login seat fits, ?_⟩
  intro q hq
  rcases List.mem_append.1 hq with hq | hq
  · exact Notice.news?_of_minor (.updated (Option.mem_toList.1 hq)) i
  · split at hq
    · rw [List.mem_singleton.1 hq]
      exact Notice.news?_playerJoining i _ _
    · cases hq

theorem introduction_stranger {context : JoinContext} {others : List SessionId} {id : SessionId}
    (ne : id ≠ newcomer.session) (stranger : id ∉ others) :
    t.introduction i newcomer context others id = [] := by
  rw [introduction]
  split
  · rfl
  · rw [if_neg ne, if_neg stranger]

end Server

/-! ### The invariant -/

namespace Stage

variable {e : Event} {g k : Stage}

/-- Every member that listens knows its game. -/
def Synced (g : Stage) : Prop :=
  ∀ i x, g.game i = some x → ∀ m ∈ x.roster, g.listening m.session = true →
    (∀ p ∈ g.heard m.session, p.contents.length ≤ maxLength) →
      Replica.replay i (g.heard m.session) = some x.replica

/-- Members of one game are strangers to another. -/
theorem Orderly.stranger (h : g.Orderly) {i j : GameId} {x y : Game} (found : g.game i = some x)
    (other : g.game j = some y) (ne : i ≠ j) {m : Member} (member : m ∈ x.roster) :
    m.session ∉ y.sessions := by
  intro hs
  obtain ⟨o, ho, same⟩ := List.mem_map.1 hs
  exact ne (h.apart found other m member o ho same.symm)

/-- A game is changed and some sessions are told.  Members of other games hear nothing, and those of
the game hear enough. -/
theorem Synced.setGame (h : g.Synced) {j : GameId} {y : Game} {told : SessionId → List Packet}
    (others : ∀ i x, g.game i = some x → i ≠ j → ∀ m ∈ x.roster, told m.session = [])
    (own : ∀ m ∈ y.roster, g.listening m.session = true →
      (∀ p ∈ g.heard m.session ++ told m.session, p.contents.length ≤ maxLength) →
        Replica.replay j (g.heard m.session ++ told m.session) = some y.replica) :
    ((g.setGame j y).tell told).Synced := by
  intro i x found m member listening fits
  have heard : ((g.setGame j y).tell told).heard m.session =
      g.heard m.session ++ told m.session := if_pos listening
  rw [heard] at fits ⊢
  by_cases same : i = j
  · subst same
    obtain rfl := Option.some.inj ((if_pos rfl).symm.trans found)
    exact own m member listening fits
  · have found : g.game i = some x := (if_neg same).symm.trans found
    have silent := others i x found same m member
    rw [silent, List.append_nil] at fits ⊢
    exact h i x found m member listening fits

theorem Synced.change (orderly : g.Orderly) (h : g.Synced) {j : GameId} {y : Game}
    (found : g.game j = some y) (c : Change) :
    ((g.setGame j (c.apply y)).tell fun id =>
      if id ∈ y.sessions then [c.notice j (c.apply y)] else []).Synced := by
  refine h.setGame (fun i x stored ne m member => ?_) fun m member listening fits => ?_
  · exact if_neg (orderly.stranger stored found ne member)
  · rw [Change.roster_apply] at member
    have told : m.session ∈ y.sessions := List.mem_map_of_mem member
    rw [if_pos told] at fits ⊢
    obtain ⟨news, tells, hears⟩ := c.hear_notice
      (fits _ (List.mem_append_right _ List.mem_cons_self))
    have before := h j y found m member listening fun p hp => fits p (List.mem_append_left _ hp)
    rw [Replica.replay_append_cons tells (List.forall_mem_nil _), before]
    exact hears

theorem Synced.host (h : g.Synced) {j : GameId} {newcomer : Member} (idle : g.Idle newcomer.session)
    {y : Game} (id : y.id = j) (alone : y.sessions = [newcomer.session])
    (network : SessionId → Network) :
    ((g.setGame j y).tell fun id =>
      if id = newcomer.session then [Notice.gameSetup (y.setup network newcomer) .created]
      else []).Synced := by
  refine h.setGame (fun i x stored _ m member => if_neg (idle i x stored m member))
    fun m member _ fits => ?_
  have same : m.session = newcomer.session := by
    have listed : m.session ∈ y.sessions := List.mem_map_of_mem member
    rwa [alone, List.mem_singleton] at listed
  rw [if_pos same] at fits ⊢
  exact Replica.replay_setup
    (Notice.news?_setup id (fits _ (List.mem_append_right _ List.mem_cons_self)))

theorem Synced.join (orderly : g.Orderly) (h : g.Synced) {j : GameId} {y : Game}
    (found : g.game j = some y) {newcomer : Member} (idle : g.Idle newcomer.session) {t : Server}
    (game : t.games.get? j = some (y.seat newcomer)) {host : Member}
    (hosted : (y.seat newcomer).hostMember? = some host)
    (login : (t.session newcomer.session).player = some newcomer.player)
    (seat : (t.session newcomer.session).seat = some ⟨j, newcomer.slot⟩) (context : JoinContext) :
    ((g.setGame j (y.seat newcomer)).tell
      (t.introduction j newcomer context y.sessions)).Synced := by
  refine h.setGame (fun i x stored ne m member => ?_) fun m member listening fits => ?_
  · exact Server.introduction_stranger (idle i x stored m member)
      (orderly.stranger stored found ne member)
  · rcases List.mem_cons.1 ((Lineup.seatIn_perm newcomer y.roster).mem_iff.1 member) with
      rfl | old
    · obtain ⟨before, told⟩ := Server.introduction_newcomer game hosted m context y.sessions
      have id : (y.seat m).id = j := (orderly.sound found).id
      rw [told, ← List.append_assoc] at fits ⊢
      have last := fits _ (List.mem_append_right _ List.mem_cons_self)
      exact Replica.replay_setup (Notice.news?_setup id last)
    · have listed : m.session ∈ y.sessions := List.mem_map_of_mem old
      obtain ⟨p, rest, told, tells, quiet⟩ := Server.introduction_other game hosted seat login
        context (idle j y found m old) listed
      rw [told] at fits ⊢
      have before := h j y found m old listening fun p hp => fits p (List.mem_append_left _ hp)
      rw [Replica.replay_append_cons
        (tells (fits p (List.mem_append_right _ List.mem_cons_self))) quiet, before,
        Game.replica_seat]
      rfl

theorem Synced.leave (orderly : g.Orderly) (h : g.Synced) {j : GameId} {y rest : Game}
    (found : g.game j = some y) {gone : Member} (member : gone ∈ y.roster) {removal : Removal}
    (removed : y.remove? gone.player.id = some (gone, removal, rest)) {z : Game}
    (roster : z.roster = rest.roster) (same : z.replica = rest.replica) (reason : Int64)
    {updates : List Packet} (minor : ∀ p ∈ updates, p.Minor) :
    ((g.setGame j z).tell fun id =>
      (if id = gone.session then [Notice.playerRemoved j gone.player.id reason] else []) ++
        if id ∈ rest.sessions then Notice.playerRemoved j gone.player.id reason :: updates
        else []).Synced := by
  have sound := orderly.sound found
  have stays {m : Member} (hm : m ∈ rest.roster) : m ∈ y.roster ∧ m ≠ gone := by
    rw [Game.roster_remove? removed] at hm
    exact (Lineup.mem_eraseP_iff sound.players member m).1 hm
  refine h.setGame (fun i x stored ne m hm => ?_) fun m hm listening fits => ?_
  · have stranger := orderly.stranger stored found ne hm
    have other : m.session ≠ gone.session := fun same =>
      stranger (same ▸ List.mem_map_of_mem member)
    have off : m.session ∉ rest.sessions := by
      intro hs
      obtain ⟨o, ho, same⟩ := List.mem_map.1 hs
      exact stranger (same ▸ List.mem_map_of_mem (stays ho).1)
    rw [if_neg other, if_neg off]
    rfl
  · rw [roster] at hm
    obtain ⟨old, other⟩ := stays hm
    have ne : m.session ≠ gone.session := fun same => other (sound.eq_of_session old member same)
    have told : m.session ∈ rest.sessions := List.mem_map_of_mem hm
    rw [if_neg ne, if_pos told, List.nil_append] at fits ⊢
    have before := h j y found m old listening fun p hp => fits p (List.mem_append_left _ hp)
    rw [Replica.replay_append_cons (Notice.news?_playerRemoved j gone.player.id reason)
      (fun p hp => Notice.news?_of_minor (minor p hp) j), before, same,
      Game.replica_remove? sound member removed]
    rfl

/-- **A deed leaves nobody behind.** -/
theorem Synced.deed (orderly : g.Orderly) (crewed : g.Crewed) (h : g.Synced) (deed : Deed e g k) :
    k.Synced := by
  cases deed with
  | @enter id idle =>
    intro i x found m member listening fits
    have ne : m.session ≠ id := idle i x found m member
    have heard : (g.enter id).heard m.session = g.heard m.session := if_neg ne
    rw [heard] at fits ⊢
    exact h i x found m member ((if_neg ne).symm.trans listening) fits
  | close id =>
    intro i x found m member listening fits
    by_cases same : m.session = id
    · exact absurd ((if_pos same).symm.trans listening) (by decide)
    · have heard : (g.close id).heard m.session = g.heard m.session := if_neg same
      rw [heard] at fits ⊢
      exact h i x found m member ((if_neg same).symm.trans listening) fits
  | restock | save | logIn | logOut => exact h
  | @tell told minor =>
    intro i x found m member listening fits
    have heard : (g.tell told).heard m.session = g.heard m.session ++ told m.session :=
      heard_tell (g := g) listening told
    rw [heard] at fits ⊢
    rw [Replica.replay_append_quiet fun p hp => Notice.news?_of_minor (minor m.session p hp) i]
    exact h i x found m member listening fun p hp => fits p (List.mem_append_left _ hp)
  | change found c => exact h.change orderly found c
  | @host j mid newcomer setting other free idle player slot network =>
    exact h.host idle rfl rfl network
  | @join j y newcomer t other found active room new idle player slot game players seat context =>
    obtain ⟨host, hosted⟩ := (crewed j y found).exists_host ((orderly.sound found).active.1 active)
      room newcomer
    have login : (t.session newcomer.session).player = some newcomer.player :=
      (congrFun players newcomer.session).trans player
    exact h.join orderly found idle game hosted login seat context
  | @leave j y rest gone removal found member removed registered reason updates minor =>
    exact h.leave (z := { rest with registered }) orderly found member removed rfl rfl reason minor

end Stage

namespace Server

/-- **A member that has listened all along knows its game as it is.** -/
theorem replay_heard (store : Store) (events : List Event)
    (feasible : (start store).Feasible events) {i : GameId} {g : Game} {m : Member}
    (found : ((start store).run events).findGame? i = some g) (member : m ∈ g.roster)
    (listening : (((start store).run events).session m.session).listening = true)
    (fits : ∀ p ∈ (((start store).run events).session m.session).heard,
      p.contents.length ≤ maxLength) :
    Replica.replay i (((start store).run events).session m.session).heard = some g.replica := by
  have both : ((start store).run events).stage.Crewed ∧ ((start store).run events).stage.Synced :=
    keep_run (P := fun g => g.Crewed ∧ g.Synced)
      (fun _ _ _ _ orderly h deed => ⟨h.1.deed orderly deed, h.2.deed orderly h.1 deed⟩)
      (coherent_start store) feasible ⟨nofun, nofun⟩
  have coherent := coherent_run (coherent_start store) feasible
  obtain ⟨stored, -⟩ := Option.filter_eq_some_iff.1 found
  have present : ((start store).run events).seating.present m.session = true :=
    coherent.seated m.session (by rw [coherent.seat (lineup_seating _ stored) m member]; nofun)
  exact both.2 i g stored m member ((listening_stage present).trans listening) fits

/-- A player finds the game of another one, which then changes the attributes and the state. -/
theorem replay_heard_newcomer :
    let account (id : PlayerId) (email : String) : Account := ⟨⟨id, email⟩, email, "word", "token"⟩
    let store : Store := ⟨.ofList [(1, account 1 "a@b"), (2, account 2 "c@d")], ∅, ∅, 3, true⟩
    let login (email : String) : Packet :=
      .request Route.login 0 [.string Field.mail email, .string Field.pass "word"]
    let map : Attributes := .ofList [("ME3map", "map01")]
    let events : List Event :=
      [.connect none, .connect none, .request 1 (login "a@b"), .request 2 (login "c@d"),
        .request 1 (.request Route.createGame 0 []),
        .request 2 (.request Route.startMatchmaking 0 []),
        .request 1 (.request Route.setGameAttributes 0
          [.nat Field.gid 1, .attributes Field.attr map]),
        .request 1 (.request Route.advanceGameState 0 [.nat Field.gid 1, .nat Field.gsta 7])]
    let s := (start store).run events
    (start store).Feasible events ∧ (s.session 2).heard.length = 4 ∧
      ∃ g, s.findGame? 1 = some g ∧ g.sessions = [1, 2] ∧ g.state = 7 ∧
        Replica.replay 1 (s.session 2).heard = some g.replica := by
  intro account store login map events s
  have feasible : (start store).Feasible events :=
    ⟨by decide +kernel, by decide +kernel, by decide +kernel⟩
  have listening : (s.session 2).listening = true := by decide +kernel
  have fits : ∀ p ∈ (s.session 2).heard, p.contents.length ≤ maxLength := by decide +kernel
  have game : (s.findGame? 1).map (fun g => (g.sessions, g.state)) = some ([1, 2], 7) := by
    decide +kernel
  obtain ⟨g, found, same⟩ := Option.map_eq_some_iff.1 game
  obtain ⟨sessions, state⟩ := Prod.mk.inj same
  have listed : (2 : SessionId) ∈ g.sessions := by
    rw [sessions]
    decide
  obtain ⟨m, member, session⟩ := List.mem_map.1 listed
  have known := replay_heard store events feasible found member (session ▸ listening)
    (session ▸ fits)
  exact ⟨feasible, by decide +kernel, g, found, sessions, state, session ▸ known⟩

end Server

end Lobby
