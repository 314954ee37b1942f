import Lobby.Proofs.Request.Checks
import Lobby.Proofs.Request.Handler
import Lobby.Proofs.Server.Profile

/-!
# Credentials

A session becomes a player by a login alone, and a login takes the credentials of an account: its
email and its password, or the id of its player and its token.  A request of any other route, and
one that is refused, leaves every session the player it was (`Router.knows_dispatch`).
-/

namespace Lobby

/-! ### What credentials are -/

/-- Every account is stored under the id of its player. -/
def Store.Keyed (s : Store) : Prop := ∀ id a, s.accounts.get? id = some a → a.player.id = id

theorem Store.keyed_empty : Store.empty.Keyed := nofun

/-- Accounts that are added are stored under the ids of their players. -/
theorem Store.Keyed.addAccount {s : Store} (h : s.Keyed) (token : PlayerId → String)
    (email password name : String) : (s.addAccount token email password name).2.Keyed := by
  intro id a found
  rw [Store.addAccount, SortedMap.get?_insert] at found
  split at found
  · next here =>
    cases found
    exact here
  · exact h id a found

/-- The email of an account, up to the case of letters, and its password.  Of several fields with
one label the first counts. -/
def Packet.ShowsPassword (request : Packet) (a : Account) : Prop :=
  ∃ content email, request.records = .ok content ∧ content.string? Field.mail = some email ∧
    '@' ∈ email.toList ∧ Text.foldCase a.email = Text.foldCase email ∧
      content.string? Field.pass = some a.password

def Packet.ShowsToken (request : Packet) (a : Account) : Prop :=
  ∃ content n, request.records = .ok content ∧ content.varint? Field.pid = some n ∧
    n.toInt = a.player.id.toNat ∧ content.string? Field.auth = some a.token

/-- The routes that make a session another player, or none. -/
def Route.identifying : List Route := [Route.login, Route.silentLogin, Route.logout]

def Outcome.isReplied : Outcome → Bool
  | .replied _ => true
  | _ => false

def Router.grants (r : Router) (s : Server) (session : SessionId) (request : Packet) : Bool :=
  (r.handler? request.header.route).any fun handler => (handler s session request).1.isReplied

namespace Server

/-- A login has the credentials of an account that is a player's. -/
def Vouches (s : Server) (request : Packet) (player : Player) : Prop :=
  ∃ a ∈ s.store.accounts.values, a.player = player ∧
    (request.header.route = Route.login ∧ request.ShowsPassword a ∨
      request.header.route = Route.silentLogin ∧ request.ShowsToken a)

def players (s : Server) (id : SessionId) : Option Player := (s.session id).player

/-- What a request makes of the players of sessions.  At most the session that asks becomes another
one, by a request of an identifying route that succeeds. -/
structure Knows (s : Server) (session : SessionId) (request : Packet) (result : Outcome × Server) :
    Prop where
  others : ∀ id, id ≠ session → result.2.players id = s.players id
  kept : ¬(request.header.route ∈ Route.identifying ∧ result.1.isReplied = true) →
    result.2.players session = s.players session
  vouched : request.header.route ∈ Route.identifying → result.1.isReplied = true →
    s.store.Keyed → ∀ p, result.2.players session = some p → s.Vouches request p

variable {s : Server}

theorem players_of_profile {t : Server} (same : t.profile = s.profile) : t.players = s.players :=
  funext fun id => congrArg Profile.player (congrFun same id)

/-- A change of a session that keeps its player. -/
theorem players_updateSession (s : Server) (id : SessionId) {f : Session → Session}
    (same : ∀ x, (f x).player = x.player) : (s.updateSession id f).players = s.players :=
  funext fun other => view_updateSession Session.player s id (fun x _ => same x) other

theorem players_setPlayer_of_ne (s : Server) {id other : SessionId} (ne : other ≠ id)
    (player : Option Player) : (s.setPlayer id player).players other = s.players other := by
  show ((s.setPlayer id player).session other).player = (s.session other).player
  rw [session, session, setPlayer, get?_updateSession, if_neg ne]

/-- A session that is missing does not become a player. -/
theorem eq_of_players_setPlayer {id : SessionId} {player : Option Player} {p : Player}
    (h : (s.setPlayer id player).players id = some p) : player = some p := by
  change ((s.setPlayer id player).session id).player = some p at h
  rw [session, setPlayer, get?_updateSession, if_pos rfl] at h
  cases found : s.sessions.get? id with
  | none =>
    rw [found] at h
    cases h
  | some x =>
    rw [found] at h
    exact h

end Server

open Server

abbrev Handler.Knows (route : Route) (h : Handler) : Prop := h.Meets Server.Knows route

/-! ### Logging in and out -/

namespace Authentication

theorem knows_refused (s : Server) (session : SessionId) (request : Packet) (cause : Refusal) :
    s.Knows session request (.refused cause, s) where
  others _ _ := rfl
  kept _ := rfl
  vouched _ replied := nomatch replied

theorem knows_complete {s : Server} {session : SessionId} {request : Packet} {a : Account}
    (identifying : request.header.route ∈ Route.identifying)
    (vouches : s.store.Keyed → s.Vouches request a.player) :
    s.Knows session request (complete s session request a) where
  others _ ne := s.players_setPlayer_of_ne ne _
  kept idle := absurd ⟨identifying, rfl⟩ idle
  vouched _ _ keyed p login := by
    obtain rfl := Option.some.inj (eq_of_players_setPlayer login)
    exact vouches keyed

theorem vouches_of_checkPassword {s : Server} {session : SessionId} {request : Packet}
    {a : Account} (here : request.header.route = Route.login)
    (passed : checkPassword s session request = .ok a) : s.Vouches request a.player := by
  obtain ⟨content, email, records, mail, valid, pass, search⟩ := checkPassword_eq_ok passed
  have found : Text.sameUpToCase a.email email = true := by simpa using List.find?_some search
  have same := Text.sameUpToCase_iff.1 found
  exact ⟨a, mem_of_checkPassword passed, rfl, .inl ⟨here, content, email, records,
    Content.string?_of_require mail, valid, same, Content.string?_of_require pass⟩⟩

theorem vouches_of_checkToken {s : Server} {session : SessionId} {request : Packet} {a : Account}
    (here : request.header.route = Route.silentLogin) (keyed : s.store.Keyed)
    (passed : checkToken s session request = .ok a) : s.Vouches request a.player := by
  obtain ⟨content, id, records, number, auth, stored⟩ := checkToken_eq_ok passed
  obtain ⟨n, found, value⟩ := Content.varint?_of_require number
  have own := keyed id a stored
  exact ⟨a, mem_of_checkToken passed, rfl, .inr ⟨here, content, n, records, found,
    by rw [own, value], Content.string?_of_require auth⟩⟩

theorem knows_login : login.Knows Route.login :=
  Handler.meets_checked knows_refused fun _ _ _ _ here passed =>
    knows_complete (by rw [here]; decide) fun _ => vouches_of_checkPassword here passed

theorem knows_silentLogin : silentLogin.Knows Route.silentLogin :=
  Handler.meets_checked knows_refused fun _ _ _ _ here passed =>
    knows_complete (by rw [here]; decide) fun keyed => vouches_of_checkToken here keyed passed

theorem knows_logout : logout.Knows Route.logout := by
  refine Handler.meets_acting knows_refused fun s session request _ here _ => ?_
  have left := players_of_profile (s.profile_leaveActivities session leftReason)
  refine ⟨fun id ne => ?_, fun idle => ?_, fun _ _ _ p login => ?_⟩
  · exact (players_setPlayer_of_ne _ ne none).trans (congrFun left id)
  · exact absurd ⟨by rw [here]; decide, rfl⟩ idle
  · exact nomatch eq_of_players_setPlayer login

end Authentication

/-! ### The other routes -/

/-- Whatever the request, the handler makes no session another player. -/
abbrev Handler.Bland (h : Handler) : Prop := h.Does fun s _ t => t.players = s.players

theorem Handler.Bland.knows {h : Handler} (bland : h.Bland) {route : Route}
    (other : route ∉ Route.identifying) : h.Knows route := by
  intro s session request here
  have same : (h s session request).2.players = s.players := bland route s session request here
  refine ⟨fun id _ => congrFun same id, fun _ => congrFun same session, fun identifying => ?_⟩
  rw [here] at identifying
  exact absurd identifying other

namespace Presence

theorem profile_refresh (s : Server) (session : SessionId) :
    (refresh s session).profile = s.profile := by
  rw [refresh]
  split
  · rfl
  · dsimp only
    split
    · exact s.profile_broadcast _ _ none
    · exact s.profile_push session _

theorem bland_updateNetworkInfo : updateNetworkInfo.Bland :=
  Handler.does_acting (fun _ _ => rfl) fun s session _ _ _ =>
    (players_of_profile (profile_refresh _ session)).trans
      (s.players_updateSession session fun _ => rfl)

theorem bland_updateHardwareFlags : updateHardwareFlags.Bland :=
  Handler.does_acting (fun _ _ => rfl) fun s session _ _ _ =>
    (players_of_profile (profile_refresh _ session)).trans
      (s.players_updateSession session fun _ => rfl)

end Presence

theorem Utility.bland_ping : ping.Bland :=
  fun _ s session _ _ => s.players_updateSession session fun _ => rfl

theorem Utility.bland_saveSetting : saveSetting.Bland :=
  Handler.does_acting (fun _ _ => rfl) fun _ _ _ _ _ => rfl

namespace Games

theorem profile_leaveAndCreate (s : Server) (session : SessionId) (attributes : Attributes)
    (setting : UInt16) :
    (leaveAndCreate s session attributes setting).2.profile = s.profile := by
  rw [leaveAndCreate]
  have first := (s.leaveActivities session leftReason).profile_createGame session attributes setting
  rw [profile_leaveActivities] at first
  split
  · next result =>
    rw [result] at first
    rw [profile_createGame, profile_leaveActivities]
    exact first
  · exact first

theorem bland_createGame : createGame.Bland := by
  refine Handler.does_checked (fun _ _ => rfl) ?_
  rintro s session request ⟨attributes, setting⟩ -
  have created := profile_leaveAndCreate s session attributes setting
  refine players_of_profile ?_
  dsimp only
  split
  · next result =>
    rw [result] at created
    exact created
  · next result =>
    rw [result] at created
    rw [profile_count, profile_offer, profile_count]
    exact created

theorem bland_setAttributes : setAttributes.Bland := by
  refine Handler.does_acting (fun _ _ => rfl) fun _ _ _ _ _ => players_of_profile ?_
  rw [profile_broadcastAttributes, profile_addAttributes]

theorem bland_advanceState : advanceState.Bland :=
  Handler.does_acting (fun _ _ => rfl) fun _ _ _ _ _ => players_of_profile (by simp)

theorem bland_setSettings : setSettings.Bland :=
  Handler.does_acting (fun _ _ => rfl) fun _ _ _ _ _ => players_of_profile (by simp)

theorem bland_removePlayer : removePlayer.Bland := by
  refine Handler.does_acting (fun _ _ => rfl) ?_
  rintro s session request ⟨i, player, reason⟩ -
  have removed := s.profile_removePlayer i player reason
  refine players_of_profile ?_
  dsimp only
  split <;> rename_i result <;> rw [result] at removed <;> exact removed

theorem bland_updateMeshConnection : updateMeshConnection.Bland := by
  refine Handler.does_acting (fun _ _ => rfl) fun s _ _ joined _ => players_of_profile ?_
  split
  · exact s.profile_broadcast _ _ none
  · rfl

theorem bland_startMatchmaking : startMatchmaking.Bland := by
  refine Handler.does_checked (fun _ _ => rfl) fun s session request rules _ =>
    players_of_profile ?_
  have search := (s.leaveActivities session leftReason).profile_matchOrEnqueue session rules
  rw [profile_leaveActivities] at search
  dsimp only
  split
  · next result =>
    rw [result] at search
    exact search
  · next i t result =>
    rw [result] at search
    have joined := t.profile_join i session .matchmaking
    rw [show t.profile = s.profile from search] at joined
    split <;> rename_i outcome <;> rw [outcome] at joined
    · exact joined
    · rw [profile_count, profile_enqueue]
      exact joined
    · rw [profile_count, profile_enqueue]
      exact joined
    · exact joined
    · exact joined

theorem bland_cancelMatchmaking : cancelMatchmaking.Bland := by
  refine Handler.does_acting (fun _ _ => rfl) fun s session _ player _ => players_of_profile ?_
  have left := s.profile_withdraw session
  split
  · next result =>
    rw [result] at left
    rw [profile_push]
    exact left
  · next result =>
    rw [result] at left
    exact left

end Games

/-! ### All routes -/

namespace Router

theorem bland_answering {check : Check Content} : (Handler.answering check).Bland :=
  Handler.does_answering fun _ _ => rfl

theorem knows_routes : OnRoutes Handler.Knows where
  login := Authentication.knows_login
  silentLogin := Authentication.knows_silentLogin
  logout := Authentication.knows_logout
  listEntitlements := bland_answering.knows (by decide)
  preAuth := bland_answering.knows (by decide)
  postAuth := bland_answering.knows (by decide)
  ping := Utility.bland_ping.knows (by decide)
  fetchClientConfig := bland_answering.knows (by decide)
  saveSetting := Utility.bland_saveSetting.knows (by decide)
  loadSettings := bland_answering.knows (by decide)
  updateNetworkInfo := Presence.bland_updateNetworkInfo.knows (by decide)
  updateHardwareFlags := Presence.bland_updateHardwareFlags.knows (by decide)
  createGame := Games.bland_createGame.knows (by decide)
  setAttributes := Games.bland_setAttributes.knows (by decide)
  advanceState := Games.bland_advanceState.knows (by decide)
  setSettings := Games.bland_setSettings.knows (by decide)
  removePlayer := Games.bland_removePlayer.knows (by decide)
  startMatchmaking := Games.bland_startMatchmaking.knows (by decide)
  cancelMatchmaking := Games.bland_cancelMatchmaking.knows (by decide)
  updateMeshConnection := Games.bland_updateMeshConnection.knows (by decide)

/-- **A request makes at most its own session another player**, if it is of an identifying route and
succeeds, and a player that it vouches for. -/
theorem knows_dispatch (s : Server) (session : SessionId) (request : Packet) :
    let t := (standard.dispatch s session request).2
    (∀ id, id ≠ session → t.players id = s.players id) ∧
      (¬(request.header.route ∈ Route.identifying ∧
        standard.grants s session request = true) → t.players session = s.players session) ∧
      (request.header.route ∈ Route.identifying → standard.grants s session request = true →
        s.store.Keyed → ∀ p, t.players session = some p → s.Vouches request p) := by
  intro t
  rcases standard.dispatch_cases s session request with ⟨none, result⟩ | ⟨handler, found, cases⟩
  · have same : t.players = s.players := by
      show (standard.dispatch s session request).2.players = _
      rw [result]
      rfl
    refine ⟨fun id _ => congrFun same id, fun _ => congrFun same session, fun _ granted => ?_⟩
    rw [grants, none] at granted
    cases granted
  · have knows := meets_handler? knows_routes.standard found s session
    -- what a router counts is not about players
    have same : t.players = (handler s session request).2.players := by
      show (standard.dispatch s session request).2.players = _
      rcases cases with ⟨_, -, result⟩ | ⟨_, -, result⟩ | ⟨_, -, result⟩ <;> rw [result] <;> rfl
    rw [grants, found, Option.any_some, same]
    exact ⟨knows.others, knows.kept, knows.vouched⟩

end Router

end Lobby
