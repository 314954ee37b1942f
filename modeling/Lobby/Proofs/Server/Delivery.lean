import Lobby.Proofs.Game.Announcement
import Lobby.Proofs.Game.Bench
import Lobby.Proofs.Server.Leaving
import Mathlib.Data.List.Forall2

/-!
# Who is told what

When a session joins a game or is removed from it, the members are told, each in one entry of its
outbox, and nobody else is.  What they are told mixes three moments: the members are those before
the join or after the removal, the roster in the setup notice is the new one, and users are
described by their sessions as they are by then, when the link has changed already.

`Server.Delivers` is what a change has put into all outboxes.  **A join and a removal put there
exactly what is due** (`Server.joined_join`, `Server.dismissed_dismiss`).
-/

namespace Lobby

/-- A game as it may be at any time after it was opened, registered or not. -/
def Game.Made (g : Game) : Prop :=
  ∃ (server : Server) (calls : List Call) (k : Nat) (x : Game),
    ((Bench.start server).run calls).games[k]? = some x ∧ g = { x with registered := g.registered }

theorem Game.Made.tidy {g : Game} (made : g.Made) : g.Tidy := by
  obtain ⟨server, calls, k, x, found, same⟩ := made
  have tidy : x.Tidy := (show (Bench.start server).Tidy from nofun).run calls k x found
  rw [same]
  exact tidy.congr rfl rfl rfl

namespace Server

variable {s t u : Server}

/-! ### Outboxes -/

/-- What a change has put into the outbox of every session that listens.  Nothing is taken out. -/
structure Delivers (s t : Server) (sent : SessionId → List Outbound) : Prop where
  listening : ∀ id,
    (t.sessions.get? id).any (·.listening) = (s.sessions.get? id).any (·.listening)
  outbox : ∀ id, (t.session id).outbox =
    (s.session id).outbox ++ if (s.sessions.get? id).any (·.listening) then sent id else []

theorem Delivers.trans {sent later : SessionId → List Outbound} (first : s.Delivers t sent)
    (second : t.Delivers u later) : s.Delivers u fun id => sent id ++ later id := by
  constructor
  · intro id
    rw [second.listening, first.listening]
  · intro id
    rw [second.outbox, first.outbox, first.listening, List.append_assoc]
    split <;> rfl

/-- A change that puts nothing into any outbox may come before. -/
theorem Delivers.after {sent : SessionId → List Outbound} (second : t.Delivers u sent)
    (first : s.Delivers t fun _ => []) : s.Delivers u sent :=
  first.trans second

/-- A change that is not one of a session puts nothing into any outbox. -/
theorem delivers_of_sessions (same : t.sessions = s.sessions) : s.Delivers t fun _ => [] := by
  constructor
  · intro id
    rw [same]
  · intro id
    rw [session, session, same]
    split <;> exact (List.append_nil _).symm

/-- A change of one session puts something into its outbox only. -/
theorem delivers_updateSession (s : Server) (id : SessionId) {f : Session → Session}
    {entries : List Outbound}
    (listening : ∀ x, s.sessions.get? id = some x → (f x).listening = x.listening)
    (outbox : ∀ x, s.sessions.get? id = some x →
      (f x).outbox = x.outbox ++ if x.listening then entries else []) :
    s.Delivers (s.updateSession id f) fun other => if other = id then entries else [] := by
  constructor
  · intro other
    rw [get?_updateSession]
    split
    · next here =>
      subst here
      cases found : s.sessions.get? other with
      | none => rfl
      | some x => exact listening x found
    · rfl
  · intro other
    rw [session, session, get?_updateSession]
    split
    · next here =>
      subst here
      cases found : s.sessions.get? other with
      | none => rfl
      | some x => exact outbox x found
    · rw [ite_self, List.append_nil]

theorem outbox_deliver (x : Session) (entry : Outbound) :
    (x.deliver entry).outbox = x.outbox ++ if x.listening then [entry] else [] := by
  rw [Session.deliver]
  split <;> simp

theorem delivers_push (s : Server) (id : SessionId) (p : Packet) :
    s.Delivers (s.push id p) fun other => if other = id then [.single p] else [] :=
  s.delivers_updateSession id (fun x _ => x.listening_deliver _) fun x _ => outbox_deliver x _

theorem delivers_pushAll (s : Server) (id : SessionId) {ps : List Packet} (some : ps ≠ []) :
    s.Delivers (s.pushAll id ps) fun other => if other = id then [.batch ps] else [] := by
  have full : ps.isEmpty = false := by simpa using some
  refine s.delivers_updateSession id (fun x _ => ?_) fun x _ => ?_
  · rw [Session.pushAll, full]
    exact x.listening_deliver _
  · rw [Session.pushAll, full]
    exact outbox_deliver x _

/-- Several sessions get one batch each. -/
theorem delivers_foldl_pushAll {f : SessionId → List Packet} (some : ∀ id, f id ≠ [])
    {ids : List SessionId} (distinct : ids.Nodup) (s : Server) :
    s.Delivers (ids.foldl (fun t other => t.pushAll other (f other)) s) fun id =>
      if id ∈ ids then [.batch (f id)] else [] := by
  induction ids generalizing s with
  | nil => simpa using delivers_of_sessions (s := s) rfl
  | cons first rest ih =>
    obtain ⟨new, distinct⟩ := List.nodup_cons.1 distinct
    have both := (s.delivers_pushAll first (some first)).trans (ih distinct _)
    refine ⟨both.listening, fun id => ?_⟩
    rw [List.foldl_cons, both.outbox id]
    congr 2
    by_cases here : id = first
    · subst here
      simp [new]
    · simp [here]

/-- A change of one session that is not one of its outbox. -/
theorem delivers_none (s : Server) (id : SessionId) {f : Session → Session}
    (same : ∀ x, s.sessions.get? id = some x →
      (f x).listening = x.listening ∧ (f x).outbox = x.outbox) :
    s.Delivers (s.updateSession id f) fun _ => [] := by
  have none : s.Delivers (s.updateSession id f) fun other => if other = id then [] else [] :=
    s.delivers_updateSession id (fun x found => (same x found).1) fun x found => by
      simp [(same x found).2]
  simpa using none

theorem delivers_claim {id : SessionId} {seat : Seat} (claimed : s.claim id seat = .ok t) :
    s.Delivers t fun _ => [] := by
  rw [eq_of_claim claimed]
  refine s.delivers_none id fun x found => ?_
  rw [session, found]
  exact ⟨rfl, rfl⟩

theorem delivers_unlink (s : Server) (id : SessionId) (i : GameId) :
    s.Delivers (s.unlink id i) fun _ => [] := by
  refine s.delivers_none id fun x _ => ?_
  rw [Session.leave]
  split <;> exact ⟨rfl, rfl⟩

/-! ### Members that hear -/

/-- The members of a game are distinct sessions that are logged in, listen and are linked to it. -/
structure Attended (s : Server) (g : Game) : Prop where
  distinct : g.sessions.Nodup
  login : ∀ m ∈ g.roster, ∃ player, (s.session m.session).player = some player
  listening : ∀ m ∈ g.roster, (s.session m.session).listening = true
  linked : ∀ m ∈ g.roster, ∃ slot, (s.session m.session).seat = some ⟨g.id, slot⟩

/-! ### Joining -/

/-- What a member before is told of a newcomer.  Only the host is told to expect it. -/
def Arrival (g : Game) (newcomer m : Member) (ps : List Packet) : Prop :=
  ∃ added updated joining, ps = added :: updated :: joining ∧
    added.Introduces newcomer.player [g.id] ∧ updated.Updates newcomer.player.id [g.id] ∧
    if m.session = g.host then ∃ p, joining = [p] ∧ p.Expects g.id newcomer else joining = []

/-- What a newcomer is told: who has been there, and then the game with itself in it. -/
def Welcome (s : Server) (g x : Game) (ps : List Packet) : Prop :=
  ∃ introductions setup host, ps = introductions ++ [setup] ∧
    List.Forall₂ (fun m p => ∃ player, (s.session m.session).player = some player ∧
      p.Introduces player [g.id]) g.roster introductions ∧
    host ∈ x.roster ∧ host.session = g.host ∧ setup.Describes x host

/-- A newcomer has joined a game, and everybody in it has been told. -/
structure Joined (s : Server) (g : Game) (newcomer : Member) (t : Server) : Prop where
  game : t.games.get? g.id = some (g.seat newcomer)
  roster : (g.seat newcomer).roster.Perm (newcomer :: g.roster)
  /-- The rosters before and after are in the order of their slots. -/
  order : g.roster.Pairwise (·.slot < ·.slot) ∧
    (g.seat newcomer).roster.Pairwise (·.slot < ·.slot)
  told : ∃ arrival : SessionId → List Packet, ∃ welcome,
    (∀ m ∈ g.roster, Arrival g newcomer m (arrival m.session)) ∧
    Welcome s g (g.seat newcomer) welcome ∧
    s.Delivers t fun id =>
      (if id ∈ g.sessions then [.batch (arrival id)] else []) ++
        if id = newcomer.session then [.batch welcome] else []

/-- An introduction puts one batch into the outbox of every member before, and then one into that of
the newcomer. -/
theorem delivers_introduce {i : GameId} {setup : GameSetup} (described : s.setup? i = some setup)
    (newcomer : Member) (context : JoinContext) {others : List SessionId} (distinct : others.Nodup)
    (told : ∀ id, s.arrival newcomer setup id ≠ []) :
    s.Delivers (s.introduce i newcomer context others) fun id =>
      (if id ∈ others then [.batch (s.arrival newcomer setup id)] else []) ++
        if id = newcomer.session then [.batch (s.welcome setup context others)] else [] := by
  have some : s.welcome setup context others ≠ [] := by
    rw [welcome]
    exact List.append_ne_nil_of_right_ne_nil _ (List.cons_ne_nil _ _)
  rw [introduce, described]
  exact (delivers_foldl_pushAll told distinct s).trans (delivers_pushAll _ newcomer.session some)

theorem arrival_eq {newcomer : Member} {added updated : Packet}
    (first : (s.session newcomer.session).added? = some added)
    (second : (s.session newcomer.session).updated? = some updated) (setup : GameSetup)
    (other : SessionId) : s.arrival newcomer setup other = added :: updated ::
      if other = setup.host.member.session then
        [Notice.playerJoining setup.game ⟨newcomer, (s.session newcomer.session).network⟩]
      else [] := by
  rw [arrival, first, second]
  rfl

/-- A newcomer that is logged in and linked is announced to a member. -/
theorem arrival_newcomer {g : Game} {newcomer : Member} {setup : GameSetup}
    (login : (s.session newcomer.session).player = some newcomer.player)
    (linked : (s.session newcomer.session).seat = some ⟨g.id, newcomer.slot⟩)
    (bound : newcomer.slot < gameCapacity) (game : setup.game = g.id)
    (host : setup.host.member.session = g.host) (m : Member) :
    Arrival g newcomer m (s.arrival newcomer setup m.session) := by
  obtain ⟨added, first, introduces⟩ := Session.introduces_added login
  obtain ⟨updated, second, updates⟩ := Session.updates_updated login
  rw [linked] at introduces updates
  refine ⟨added, updated, _, arrival_eq first second setup m.session, introduces, updates, ?_⟩
  rw [host, game]
  by_cases here : m.session = g.host
  · simp only [here, if_true]
    exact ⟨_, rfl, Notice.expects_playerJoining g.id bound⟩
  · simp only [here, if_false]

/-- Members that are all introduced are introduced in the order of the roster. -/
theorem introductions {games : List GameId} {roster : List Member} {look : Member → Option Player}
    (each : ∀ m ∈ roster, ∃ player p, look m = some player ∧ (s.session m.session).added? = some p ∧
      p.Introduces player games) :
    List.Forall₂ (fun m p => ∃ player, look m = some player ∧ p.Introduces player games) roster
      ((roster.map (·.session)).filterMap fun other => (s.session other).added?) := by
  rw [List.filterMap_map]
  induction roster with
  | nil => exact .nil
  | cons m roster ih =>
    obtain ⟨⟨player, p, login, added, introduces⟩, each⟩ := List.forall_mem_cons.1 each
    rw [List.filterMap_cons_some (show ((fun other => (s.session other).added?) ∘ (·.session)) m = _
      from added)]
    exact .cons ⟨player, login, introduces⟩ (ih each)

/-- A new roster has somebody of the session that is the host. -/
theorem exists_host {g : Game} (tidy : g.Tidy) (active : g.active = true) (newcomer : Member) :
    ∃ host, (g.seat newcomer).hostMember? = some host ∧ host ∈ (g.seat newcomer).roster ∧
      host.session = g.host := by
  obtain ⟨m, member, isHost⟩ := tidy.host active
  have listed : m ∈ (g.seat newcomer).roster :=
    (Lineup.seatIn_perm newcomer g.roster).mem_iff.2 (List.mem_cons_of_mem _ member)
  cases found : (g.seat newcomer).hostMember? with
  | none =>
    have other := List.find?_eq_none.1 found m listed
    simp [Game.seat, isHost] at other
  | some host =>
    have same : host.session = (g.seat newcomer).host := by simpa using List.find?_some found
    exact ⟨host, rfl, List.mem_of_find?_eq_some found, same⟩

/-- Once a newcomer is seated and linked, it is introduced. -/
theorem joined_introduce {g : Game} {newcomer : Member} (tidy : g.Tidy) (active : g.active = true)
    (distinct : g.sessions.Nodup) (bound : newcomer.slot < gameCapacity)
    (free : ∀ m ∈ g.roster, m.slot ≠ newcomer.slot) (quiet : s.Delivers t fun _ => [])
    (seated : t.games.get? g.id = some (g.seat newcomer))
    (login : (t.session newcomer.session).player = some newcomer.player)
    (linked : (t.session newcomer.session).seat = some ⟨g.id, newcomer.slot⟩)
    (members : ∀ m ∈ g.roster, ∃ player slot, (s.session m.session).player = some player ∧
      (t.session m.session).player = some player ∧
      (t.session m.session).seat = some ⟨g.id, slot⟩) (context : JoinContext) :
    s.Joined g newcomer (t.introduce g.id newcomer context g.sessions) := by
  obtain ⟨host, hostMember, listed, isHost⟩ := exists_host tidy active newcomer
  have described := setup?_eq seated hostMember
  have perm : (g.seat newcomer).roster.Perm (newcomer :: g.roster) :=
    Lineup.seatIn_perm newcomer g.roster
  have slots : ∀ m ∈ (g.seat newcomer).roster, m.slot < gameCapacity := by
    intro m member
    rcases List.mem_cons.1 (perm.mem_iff.1 member) with rfl | before
    · exact bound
    · exact tidy.bound m before
  obtain ⟨added, first, -⟩ := Session.introduces_added login
  obtain ⟨updated, second, -⟩ := Session.updates_updated login
  have told (id : SessionId) : t.arrival newcomer ((g.seat newcomer).setup
      (fun id => (t.session id).network) host) id ≠ [] := by
    rw [arrival_eq first second]
    exact List.cons_ne_nil _ _
  refine ⟨?_, perm, ⟨tidy.slots, Game.pairwise_seatIn tidy.slots free⟩, _, _, fun m _ => ?_, ?_,
    quiet.trans (delivers_introduce described newcomer context distinct told)⟩
  · rw [games_introduce, seated]
  · exact arrival_newcomer login linked bound rfl isHost m
  · refine ⟨_, _, host, rfl, introductions fun m member => ?_, listed, isHost,
      Notice.describes_gameSetup _ context slots listed⟩
    obtain ⟨player, slot, before, login, linked⟩ := members m member
    obtain ⟨p, added, introduces⟩ := Session.introduces_added login
    rw [linked] at introduces
    exact ⟨player, p, before, added, introduces⟩

/-- **A newcomer and the members before it are introduced to each other, and nobody else is told
anything.** -/
theorem joined_join {g : Game} (tidy : g.Tidy) (found : s.games.get? g.id = some g)
    (attended : s.Attended g) {session : SessionId} {player : Player} {context : JoinContext}
    {slot : Nat} (login : (s.session session).player = some player)
    (new : g.memberOf? player.id = none) (told : (s.join g.id session context).1 = .ok slot) :
    s.Joined g ⟨session, player, slot⟩ (s.join g.id session context).2 := by
  obtain ⟨o, login', ⟨m, member, -⟩ | ⟨-, active, room, rfl, linked, claimed, result⟩⟩ :=
    join_ok_cases found told
  · rw [login] at login'
    cases login'
    rw [new] at member
    cases member
  · rw [login] at login'
    cases login'
    rw [result]
    have games : linked.games.get? g.id = some g := by rw [games_claim claimed, found]
    have linking := session_claim login claimed
    obtain ⟨bound, free, -⟩ := Game.lowestFree_nextSlot room
    have quiet : s.Delivers
        (linked.updateGame g.id fun game => game.seat ⟨session, player, g.nextSlot⟩) fun _ => [] :=
      .after (t := linked) (delivers_of_sessions rfl) (delivers_claim claimed)
    refine joined_introduce tidy active attended.distinct bound free quiet
      (get?_updateGame games _) ?_ ?_ (fun m member => ?_) context
    · show (linked.session session).player = some player
      rw [linking, if_pos rfl]
      exact login
    · show (linked.session session).seat = some ⟨g.id, g.nextSlot⟩
      rw [linking, if_pos rfl]
    · obtain ⟨o, before⟩ := attended.login m member
      obtain ⟨slot, seat⟩ := attended.linked m member
      show ∃ player slot, _ ∧ (linked.session m.session).player = some player ∧
        (linked.session m.session).seat = some ⟨g.id, slot⟩
      rw [linking]
      split
      · next here =>
        rw [here] at before
        exact ⟨o, _, here ▸ before, before, rfl⟩
      · exact ⟨o, slot, before, before, seat⟩

/-! ### Removing -/

/-- A member has been removed from a game, and everybody who was in it has been told. -/
structure Dismissed (s : Server) (g : Game) (m : Member) (reason : Int64) (t : Server) : Prop where
  told : ∃ notice updated player, (s.session m.session).player = some player ∧
    notice.Removes g.id m.player.id reason ∧ updated.Updates player.id [] ∧
    s.Delivers t fun id =>
      if id = m.session then [.single notice]
      else if id ∈ g.sessions then [.batch [notice, updated]] else []

/-- Those who are left when a member of distinct sessions goes. -/
theorem mem_sessions_remove? {g rest : Game} (tidy : g.Tidy) (distinct : g.sessions.Nodup)
    {m : Member} (member : m ∈ g.roster) {removal : Removal}
    (removed : g.remove? m.player.id = some (m, removal, rest)) (id : SessionId) :
    id ∈ rest.sessions ↔ id ∈ g.sessions ∧ id ≠ m.session := by
  rw [Game.sessions, Game.roster_remove? removed,
    Lineup.eraseP_eq_filter distinct tidy.players member, Game.sessions]
  simp only [List.mem_map, List.mem_filter, decide_eq_true_eq]
  constructor
  · rintro ⟨o, ⟨listed, other⟩, rfl⟩
    exact ⟨⟨o, listed, rfl⟩, other⟩
  · rintro ⟨⟨o, listed, rfl⟩, other⟩
    exact ⟨o, ⟨listed, other⟩, rfl⟩

/-- **A member that is removed is told so, everybody who stays is told so and that it is in no game
now, and nobody else is told anything.** -/
theorem dismissed_dismiss {g : Game} (tidy : g.Tidy) (found : s.games.get? g.id = some g)
    (attended : s.Attended g) {m : Member} (member : m ∈ g.roster) (reason : Int64) :
    s.Dismissed g m reason (s.dismiss g.id m.player.id reason).2 := by
  obtain ⟨removal, rest, removed, -⟩ :=
    Game.remove?_eq_some
      (Lineup.find?_eq_some tidy.players member : g.memberOf? m.player.id = some m)
  have distinct : rest.sessions.Nodup := by
    rw [Game.sessions, Game.roster_remove? removed]
    exact attended.distinct.sublist (List.eraseP_sublist.map _)
  obtain ⟨player, login⟩ := attended.login m member
  obtain ⟨slot, linked⟩ := attended.linked m member
  let notice := Notice.playerRemoved g.id m.player.id reason
  let left := (s.updateGame g.id fun _ => rest).unlink m.session g.id
  have quiet : s.Delivers left fun _ => [] :=
    (delivers_unlink _ m.session g.id).after (delivers_of_sessions rfl)
  have alone := (left.delivers_push m.session notice).after quiet
  have still : ((left.push m.session notice).session m.session).player = some player := by
    have same : (left.push m.session notice).profile = s.profile := by
      rw [profile_push, profile_unlink]
      rfl
    exact (congrArg Profile.player (congrFun same m.session)).trans login
  have unlinked : ((left.push m.session notice).session m.session).seat = none := by
    have seating := (s.updateGame g.id fun _ => rest).seating_unlink m.session linked
    show (left.push m.session notice).seating.seat m.session = none
    rw [seating_push, seating]
    exact if_pos rfl
  obtain ⟨updated, second, updates⟩ := Session.updates_updated still
  rw [unlinked] at updates
  have everybody := alone.trans (delivers_foldl_pushAll (f := fun _ => [notice, updated])
    (fun _ => List.cons_ne_nil _ _) distinct (left.push m.session notice))
  refine ⟨notice, updated, player, login, Notice.removes_playerRemoved _ _ _, updates, ?_⟩
  rw [dismiss, found, Option.bind_some, removed]
  dsimp only
  rw [second]
  refine ⟨everybody.listening, fun id => (everybody.outbox id).trans ?_⟩
  have stays := mem_sessions_remove? tidy attended.distinct member removed id
  congr 2
  by_cases own : id = m.session
  · have gone : id ∉ rest.sessions := fun mem => (stays.1 mem).2 own
    rw [if_pos own, if_pos own, if_neg gone]
    rfl
  · rw [if_neg own, if_neg own]
    simp [stays, own]

/-- A removal that is not one of a member changes nothing. -/
theorem dismiss_cases {i : GameId} {g : Game} (found : s.games.get? i = some g) (player : PlayerId)
    (reason : Int64) :
    s.dismiss i player reason = (.notMember, s) ∨
      (s.dismiss i player reason).1 ≠ .notMember ∧ ∃ m ∈ g.roster, m.player.id = player := by
  cases removed : g.remove? player with
  | none =>
    refine .inl ?_
    rw [dismiss, found, Option.bind_some, removed]
  | some result =>
    obtain ⟨m, removal, rest⟩ := result
    obtain ⟨outcome, -⟩ := games_dismiss found removed reason
    obtain ⟨member, -⟩ := Game.remove?_cases removed
    rw [outcome]
    exact .inr ⟨Game.ne_notMember_of_remove? removed, m, List.mem_of_find?_eq_some member,
      by simpa using List.find?_some member⟩

/-- A release tells nobody anything. -/
theorem removePlayer_eq {i : GameId} {g : Game} (found : s.findGame? i = some g) (player : PlayerId)
    (reason : Int64) :
    (s.removePlayer i player reason).1 = .ok (s.dismiss i player reason).1 ∧
      (s.removePlayer i player reason).2.sessions = (s.dismiss i player reason).2.sessions := by
  rw [removePlayer, found]
  dsimp only
  generalize s.dismiss i player reason = r
  obtain ⟨removal, t⟩ := r
  cases removal <;> exact ⟨rfl, rfl⟩

theorem Dismissed.release {g : Game} {m : Member} {reason : Int64} (h : s.Dismissed g m reason t)
    (same : u.sessions = t.sessions) : s.Dismissed g m reason u := by
  obtain ⟨notice, updated, player, login, removes, updates, delivers⟩ := h.told
  refine ⟨notice, updated, player, login, removes, updates, ?_⟩
  have silent := delivers.trans (delivers_of_sessions same)
  simpa using silent

/-- A session whose player is a member joins without anything happening. -/
theorem join_eq_self {i : GameId} {g : Game} (found : s.games.get? i = some g)
    {session : SessionId} {player : Player} (login : (s.session session).player = some player)
    {m : Member} (member : g.memberOf? player.id = some m) (context : JoinContext) :
    (s.join i session context).2 = s := by
  cases outcome : (s.join i session context).1 with
  | error e => exact join_error outcome
  | ok slot =>
    obtain ⟨o, login', ⟨-, -, -, same⟩ | ⟨absent, -⟩⟩ := join_ok_cases found outcome
    · exact same
    · rw [login] at login'
      cases login'
      rw [absent] at member
      cases member

/-- **The members of a game are told exactly what is due when somebody joins it or is removed from
it, and nothing when a join is refused or repeated or when there is nobody to remove.** -/
theorem members_told (s : Server) (g : Game) (made : g.Made) (found : s.games.get? g.id = some g)
    (attended : s.Attended g) :
    (∀ session player context slot, (s.session session).player = some player →
      g.memberOf? player.id = none → (s.join g.id session context).1 = .ok slot →
      s.Joined g ⟨session, player, slot⟩ (s.join g.id session context).2) ∧
    (∀ session context, (∃ e, (s.join g.id session context).1 = .error e) ∨
        (∃ player m, (s.session session).player = some player ∧
          g.memberOf? player.id = some m) →
      (s.join g.id session context).2 = s) ∧
    (∀ player reason, (s.dismiss g.id player reason).1 ≠ .notMember →
      ∃ m ∈ g.roster, m.player.id = player ∧
        s.Dismissed g m reason (s.dismiss g.id player reason).2) ∧
    (∀ player reason removal, (s.removePlayer g.id player reason).1 = .ok removal →
      removal ≠ .notMember → ∃ m ∈ g.roster, m.player.id = player ∧
        s.Dismissed g m reason (s.removePlayer g.id player reason).2) ∧
    ∀ player reason, (s.dismiss g.id player reason).1 = .notMember →
      (s.dismiss g.id player reason).2 = s ∧ (s.removePlayer g.id player reason).2 = s := by
  have tidy := made.tidy
  have removed (player : PlayerId) (reason : Int64)
      (success : (s.dismiss g.id player reason).1 ≠ .notMember) :
      ∃ m ∈ g.roster, m.player.id = player ∧
        s.Dismissed g m reason (s.dismiss g.id player reason).2 := by
    rcases s.dismiss_cases found player reason with failed | ⟨-, m, member, rfl⟩
    · rw [failed] at success
      exact absurd rfl success
    · exact ⟨m, member, rfl, dismissed_dismiss tidy found attended member reason⟩
  refine ⟨?_, ?_, removed, ?_, ?_⟩
  · intro session player context slot login new told
    exact joined_join tidy found attended login new told
  · rintro session context (⟨e, refused⟩ | ⟨player, m, login, member⟩)
    · exact join_error refused
    · exact join_eq_self found login member context
  · intro player reason removal done success
    cases registered : s.findGame? g.id with
    | none =>
      rw [removePlayer, registered] at done
      cases done
    | some x =>
      obtain ⟨outcome, sessions⟩ := removePlayer_eq registered player reason
      rw [outcome] at done
      cases done
      obtain ⟨m, member, own, dismissed⟩ := removed player reason success
      exact ⟨m, member, own, dismissed.release sessions⟩
  · intro player reason failed
    rcases s.dismiss_cases found player reason with same | ⟨success, -⟩
    · refine ⟨congrArg Prod.snd same, ?_⟩
      rw [removePlayer, same]
      split <;> rfl
    · exact absurd failed success

/-- The first host has gone, so the second member is the host and slot 0 is free.  The first one
comes back and is welcomed; the third one goes. -/
theorem members_told_gap :
    let player (id : PlayerId) : Player := ⟨id, "name"⟩
    let stranger : Session := .connected none
    let server : Server :=
      { Server.start .empty with
        sessions := .ofList [(1, stranger), (2, stranger), (3, stranger), (4, stranger)] }
    let calls : List Call :=
      [.setPlayer 1 (some (player 10)), .setPlayer 2 (some (player 20)),
        .setPlayer 3 (some (player 30)), .openGame 7 0 1 ∅ 0, .join 0 2 .matchmaking,
        .join 0 3 .matchmaking, .removeSession 0 1 leftReason]
    let b := (Bench.start server).run calls
    let g : Game := ⟨7, 0, true, true, 2, [⟨2, player 20, 1⟩, ⟨3, player 30, 2⟩], ∅, false, 1, 0⟩
    let s : Server := { b.server with games := SortedMap.insert ∅ 7 g }
    let new (t : Server) : List (List Nat) := t.sessions.entries.map fun e =>
      (e.2.outbox.drop (s.session e.1).outbox.length).map fun entry => entry.packets.length
    g.Made ∧ s.games.get? 7 = some g ∧ s.Attended g ∧
      s.Joined g ⟨1, player 10, 0⟩ (s.join 7 1 .matchmaking).2 ∧
      new (s.join 7 1 .matchmaking).2 = [[3], [3], [2], []] ∧
      (∃ m ∈ g.roster, m.player.id = 30 ∧
        s.Dismissed g m leftReason (s.dismiss 7 30 leftReason).2) ∧
      new (s.dismiss 7 30 leftReason).2 = [[], [2], [1], []] := by
  intro player stranger server calls b g s new
  have made : g.Made := ⟨server, calls, 0, g, by decide +kernel, rfl⟩
  have found : s.games.get? g.id = some g := by decide +kernel
  have login : ∀ m ∈ g.roster, (s.session m.session).player = some m.player := by decide +kernel
  have linked : ∀ m ∈ g.roster, (s.session m.session).seat = some ⟨g.id, m.slot⟩ := by
    decide +kernel
  have attended : s.Attended g :=
    ⟨by decide +kernel, fun m member => ⟨_, login m member⟩, by decide +kernel,
      fun m member => ⟨_, linked m member⟩⟩
  obtain ⟨joins, -, removes, -⟩ := members_told s g made found attended
  refine ⟨made, found, attended, ?_, by decide +kernel, ?_, by decide +kernel⟩
  · exact joins 1 (player 10) .matchmaking 0 (by decide +kernel) (by decide +kernel)
      (by decide +kernel)
  · exact removes 30 leftReason (by decide +kernel)

end Server

end Lobby
