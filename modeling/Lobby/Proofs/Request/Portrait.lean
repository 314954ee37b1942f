import Lobby.Proofs.Request.Credentials
import Lobby.Proofs.Server.Portrait

/-!
# What a request shows

The notices that a request sends are drawn from the profiles that the sessions have when they are
sent: from those after the request, or, if the session logs out, from those before it.  Either way
the addresses in them are those after it.  And a session gets other addresses by a report of its own
alone (`Router.portrays_dispatch`).
-/

namespace Lobby

/-! ### Reports of addresses -/

def Packet.Reports (request : Packet) (n : Network) : Prop :=
  request.header.route = Route.updateNetworkInfo ∧
    ∃ content, request.records = .ok content ∧ content.Reports n

namespace Presence

variable {s : Server} {session : SessionId} {request : Packet} {n : Network}

/-- The check finds the addresses that the content reports, and no others. -/
theorem checkNetwork_eq_ok_iff : checkNetwork s session request = .ok n ↔
    ∃ content, request.records = .ok content ∧ content.Reports n := by
  constructor
  · intro passed
    obtain ⟨content, union, records, found, read⟩ := checkNetwork_eq_ok passed
    exact ⟨content, records,
      Content.network?_eq_some_iff.1 (Content.network?_eq_some.2 ⟨union, found, read⟩)⟩
  · rintro ⟨content, records, reports⟩
    obtain ⟨union, found, read⟩ :=
      Content.network?_eq_some.1 (Content.network?_eq_some_iff.2 reports)
    simp only [checkNetwork, Check.content, records, Except.mapError, bind, Except.bind, found]
    rw [Check.field, read]
    rfl

/-- A report that fails is only counted. -/
theorem refuse_of_checkNetwork {cause : Refusal}
    (failed : checkNetwork s session request = .error cause) :
    Router.refuse request cause = ([request.emptyResponse], Metrics.handlerFailure) := by
  cases records : request.records with
  | error e =>
    simp only [checkNetwork, Check.content, records, Except.mapError, bind, Except.bind] at failed
    cases failed
    rfl
  | ok content =>
    simp only [checkNetwork, Check.content, records, Except.mapError, bind, Except.bind] at failed
    split at failed
    · cases failed
      rfl
    · next union _ =>
      rw [Check.field] at failed
      cases read : Network.read union with
      | error label =>
        rw [read] at failed
        cases failed
        rfl
      | ok m =>
        rw [read] at failed
        cases failed

end Presence

/-! ### What is drawn -/

def Outcome.replies : Outcome → List Packet
  | .replied replies => replies
  | _ => []

namespace Server

def networks (s : Server) (id : SessionId) : Network := (s.session id).network

/-- What a request makes of the addresses of sessions, and of the notices that show them. -/
structure Portrays (s : Server) (session : SessionId) (request : Packet)
    (result : Outcome × Server) : Prop where
  drawn : ∃ profiles, (profiles = s.profile ∨ profiles = result.2.profile) ∧
    (∀ id, (profiles id).network = result.2.networks id) ∧ s.Tells profiles result.2 ∧
      ∀ p ∈ result.1.replies, p.Drawn profiles
  networks : ∀ id, result.2.networks id = s.networks id ∨
    id = session ∧ request.Reports (result.2.networks id)

end Server

namespace Packet

variable {profiles : SessionId → Profile}

theorem drawn_response (request : Packet) (rs : Content) : (request.response rs).Drawn profiles :=
  drawn_of_kind nofun

theorem drawn_emptyResponse (request : Packet) : request.emptyResponse.Drawn profiles :=
  drawn_of_kind nofun

theorem drawn_refuse (request : Packet) (cause : Refusal) :
    ∀ p ∈ (Router.refuse request cause).1, p.Drawn profiles := by
  have refusal (code : UInt16) : (request.emptyRefusal code).Drawn profiles := drawn_of_kind nofun
  intro p hp
  rw [Router.refuse.eq_def] at hp
  split at hp
  · exact List.mem_singleton.1 hp ▸ refusal _
  · split at hp
    · exact List.mem_singleton.1 hp ▸ refusal _
    · exact List.mem_singleton.1 hp ▸ drawn_emptyResponse request

end Packet

open Packet

namespace Server

variable {s t u : Server} {session : SessionId} {request : Packet} {outcome : Outcome}

theorem networks_of_profile (same : t.profile = s.profile) : t.networks = s.networks :=
  funext fun id => congrArg Profile.network (congrFun same id)

/-- A change of a session that keeps its addresses. -/
theorem networks_updateSession (s : Server) (id : SessionId) {f : Session → Session}
    (same : ∀ x, (f x).network = x.network) : (s.updateSession id f).networks = s.networks :=
  funext fun other => view_updateSession Session.network s id (fun x _ => same x) other

/-- A session that is there has the addresses it is given; a session that is missing has none. -/
theorem networks_setNetwork (s : Server) (id : SessionId) (n : Network) (other : SessionId) :
    (s.setNetwork id n).networks other =
      if other = id ∧ (s.sessions.get? id).isSome then n else s.networks other := by
  show ((s.setNetwork id n).session other).network = _
  rw [Server.session, setNetwork, get?_updateSession]
  by_cases here : other = id
  · subst here
    rw [if_pos rfl, networks, Server.session]
    cases s.sessions.get? other <;> simp
  · rw [if_neg here, if_neg fun both => here both.1]
    rfl

/-- A change of a session that is not one of its outbox. -/
theorem tells_updateSession (s : Server) (id : SessionId) {profiles : SessionId → Profile}
    {f : Session → Session} (same : ∀ x, (f x).outbox = x.outbox) :
    s.Tells profiles (s.updateSession id f) := by
  intro other
  refine ⟨[], ?_, List.forall_mem_nil _⟩
  rw [List.append_nil]
  exact view_updateSession Session.heard s id
    (fun x _ => congrArg (List.flatMap Outbound.packets) (same x)) other

/-! ### What handlers show -/

/-- A request that leaves the profiles alone draws from them. -/
theorem Recounts.portrays (h : s.Recounts t)
    (replies : ∀ p ∈ outcome.replies, p.Drawn s.profile) :
    s.Portrays session request (outcome, t) where
  drawn := ⟨s.profile, .inl rfl, fun id => congrFun (networks_of_profile h.profile).symm id,
    h.tells, replies⟩
  networks id := .inl (congrFun (networks_of_profile h.profile) id)

theorem portrays_refused (s : Server) (session : SessionId) (request : Packet) (cause : Refusal) :
    s.Portrays session request (.refused cause, s) :=
  (Recounts.refl s).portrays (List.forall_mem_nil _)

/-- Other replies will do as well, and counters. -/
theorem Portrays.count (h : s.Portrays session request (outcome, t)) {replies : List Packet}
    (drawn : ∀ profiles, ∀ p ∈ replies, p.Drawn profiles) (f : Metrics → Metrics) :
    s.Portrays session request (.replied replies, t.count f) := by
  obtain ⟨⟨profiles, moment, network, tells, -⟩, networks⟩ := h
  exact ⟨⟨profiles, moment, network, tells, drawn profiles⟩, networks⟩

end Server

open Server

namespace Handler

/-- What a request of a route shows is drawn from profiles, whatever the state of the server. -/
abbrev Portrays (route : Route) (h : Handler) : Prop := h.Meets Server.Portrays route

variable {route : Route}

theorem portrays_answering {check : Check Content} : Portrays route (answering check) :=
  meets_answering portrays_refused fun s _ request found _ _ =>
    (Recounts.refl s).portrays (List.forall_mem_singleton.2 (drawn_response request found))

/-- A change that leaves the profiles alone. -/
theorem portrays_acting {α : Type} {check : Check α} {act : Server → SessionId → α → Server}
    (recounts : ∀ (s : Server) (session : SessionId) (found : α),
      s.Recounts (act s session found)) :
    Portrays route (acting check act) :=
  meets_acting portrays_refused fun s session request found _ _ =>
    (recounts s session found).portrays
      (List.forall_mem_singleton.2 (drawn_emptyResponse request))

end Handler

/-! ### Logging in and out -/

namespace Authentication

theorem portrays_complete (s : Server) (session : SessionId) (request : Packet) (a : Account) :
    s.Portrays session request (complete s session request a) := by
  have same : (s.setPlayer session (some a.player)).networks = s.networks :=
    s.networks_updateSession session fun _ => rfl
  refine ⟨⟨_, .inr rfl, fun _ => rfl, s.tells_updateSession session fun _ => rfl, ?_⟩,
    fun id => .inl (congrFun same id)⟩
  intro p hp
  rcases List.mem_cons.1 hp with rfl | notice
  · exact drawn_response request _
  · rcases List.mem_append.1 notice with added | updated
    · exact drawn_added (Option.mem_toList.1 added)
    · exact drawn_updated (Option.mem_toList.1 updated)

theorem portrays_login {route : Route} : login.Portrays route :=
  Handler.meets_checked portrays_refused fun s session request a _ _ =>
    portrays_complete s session request a

theorem portrays_silentLogin {route : Route} : silentLogin.Portrays route :=
  Handler.meets_checked portrays_refused fun s session request a _ _ =>
    portrays_complete s session request a

/-- Who logs out leaves as the player it was. -/
theorem portrays_logout {route : Route} : logout.Portrays route := by
  refine Handler.meets_acting portrays_refused fun s session request _ _ _ => ?_
  have same : ((s.leaveActivities session leftReason).setPlayer session none).networks =
      s.networks :=
    (networks_updateSession _ session (f := fun x => { x with player := none }) fun _ => rfl).trans
      (networks_of_profile (s.profile_leaveActivities session leftReason))
  refine ⟨⟨s.profile, .inl rfl, fun id => congrFun same.symm id, ?_, ?_⟩,
    fun id => .inl (congrFun same id)⟩
  · exact (s.recounts_leaveActivities session leftReason).tells.trans
      (tells_updateSession _ session fun _ => rfl)
  · exact List.forall_mem_singleton.2 (drawn_emptyResponse request)

end Authentication

/-! ### Reports and settings -/

namespace Presence

theorem recounts_refresh (s : Server) (session : SessionId) :
    s.Recounts (refresh s session) := by
  rw [refresh]
  split
  · exact .refl s
  · next notice updated =>
    dsimp only
    split
    · exact s.recounts_broadcast _ (drawn_updated updated)
    · exact s.recounts_push session (drawn_updated updated)

/-- A session that has changed its own report is shown as it is then. -/
theorem portrays_refresh {s t : Server} {session : SessionId} {request : Packet}
    (quiet : s.Tells t.profile t)
    (networks : ∀ id, t.networks id = s.networks id ∨
      id = session ∧ request.Reports (t.networks id)) :
    s.Portrays session request (.replied [request.emptyResponse], refresh t session) := by
  obtain ⟨same, tells⟩ := recounts_refresh t session
  refine ⟨⟨t.profile, .inr same.symm, fun id => ?_, quiet.trans tells, ?_⟩, ?_⟩
  · exact congrFun (networks_of_profile same).symm id
  · exact List.forall_mem_singleton.2 (drawn_emptyResponse request)
  · rw [networks_of_profile same]
    exact networks

theorem portrays_updateNetworkInfo : updateNetworkInfo.Portrays Route.updateNetworkInfo := by
  refine Handler.meets_acting portrays_refused fun s session request n here passed => ?_
  refine portrays_refresh (s.tells_updateSession session fun _ => rfl) fun id => ?_
  rw [networks_setNetwork]
  split
  · next own => exact .inr ⟨own.1, here, checkNetwork_eq_ok_iff.1 passed⟩
  · exact .inl rfl

theorem portrays_updateHardwareFlags {route : Route} : updateHardwareFlags.Portrays route := by
  refine Handler.meets_acting portrays_refused fun s session request hardware _ _ => ?_
  refine portrays_refresh (s.tells_updateSession session fun _ => rfl) fun id => .inl ?_
  exact congrFun (s.networks_updateSession session (f := fun x => { x with hardware })
    fun _ => rfl) id

end Presence

namespace Utility

theorem portrays_ping {route : Route} : ping.Portrays route := by
  intro s session request _
  have same : (s.recordPing session).networks = s.networks :=
    s.networks_updateSession session fun _ => rfl
  exact ⟨⟨_, .inr rfl, fun _ => rfl, s.tells_updateSession session fun _ => rfl,
    List.forall_mem_singleton.2 (drawn_response request _)⟩, fun id => .inl (congrFun same id)⟩

theorem portrays_saveSetting {route : Route} : saveSetting.Portrays route :=
  Handler.portrays_acting fun _ _ _ => recounts_of_sessions rfl

end Utility

/-! ### Games -/

namespace Games

theorem recounts_leaveAndCreate (s : Server) (session : SessionId) (attributes : Attributes)
    (setting : UInt16) : s.Recounts (leaveAndCreate s session attributes setting).2 := by
  have tries (t : Server) : t.Recounts
      ((t.leaveActivities session leftReason).createGame session attributes setting).2 :=
    (t.recounts_leaveActivities session leftReason).trans
      (recounts_createGame _ session attributes setting)
  have first := tries s
  rw [leaveAndCreate]
  split
  · next result =>
    rw [result] at first
    exact first.trans (tries _)
  · exact first

theorem portrays_createGame {route : Route} : createGame.Portrays route := by
  refine Handler.meets_checked portrays_refused ?_
  rintro s session request ⟨attributes, setting⟩ - -
  have created := recounts_leaveAndCreate s session attributes setting
  dsimp only
  split
  · next result =>
    rw [result] at created
    exact created.portrays (List.forall_mem_nil _)
  · next i t result =>
    rw [result] at created
    exact ((created.count Metrics.gameCreated).trans (recounts_offer _ i) |>.count _).portrays
      (List.forall_mem_singleton.2 (drawn_response request _))

theorem portrays_setAttributes {route : Route} : setAttributes.Portrays route := by
  refine Handler.portrays_acting ?_
  rintro s session ⟨i, attributes⟩
  exact (s.recounts_updateGame i _).trans (recounts_broadcastAttributes _ i)

theorem portrays_advanceState {route : Route} : advanceState.Portrays route := by
  refine Handler.portrays_acting ?_
  rintro s session ⟨i, state⟩
  exact s.recounts_setState i state

theorem portrays_setSettings {route : Route} : setSettings.Portrays route := by
  refine Handler.portrays_acting ?_
  rintro s session ⟨i, setting⟩
  exact s.recounts_setSetting i setting

theorem portrays_removePlayer {route : Route} : removePlayer.Portrays route := by
  refine Handler.portrays_acting ?_
  rintro s session ⟨i, player, reason⟩
  have removed := s.recounts_removePlayer i player reason
  dsimp only
  split
  · next result =>
    rw [result] at removed
    exact removed.count _
  · next result =>
    rw [result] at removed
    exact removed

theorem portrays_updateMeshConnection {route : Route} : updateMeshConnection.Portrays route := by
  refine Handler.portrays_acting fun s _ joined => ?_
  split
  · exact s.recounts_broadcast _ (drawn_notification (by decide) _)
  · exact .refl s

/-! ### Matchmaking -/

theorem portrays_startMatchmaking {route : Route} : startMatchmaking.Portrays route := by
  refine Handler.meets_checked portrays_refused fun s session request rules _ _ => ?_
  have search := (s.recounts_leaveActivities session leftReason).trans
    (recounts_matchOrEnqueue _ session rules)
  have reply (rs : Content) : ∀ p ∈ [request.response rs], p.Drawn s.profile :=
    List.forall_mem_singleton.2 (drawn_response request rs)
  dsimp only
  split
  · next result =>
    rw [result] at search
    exact (search.count _).portrays (reply _)
  · next i t result =>
    rw [result] at search
    have joined := search.trans (t.recounts_join i session .matchmaking)
    split <;> rename_i outcome <;> rw [outcome] at joined
    · exact (joined.count _).portrays (reply _)
    · exact ((joined.trans (recounts_enqueue _ session rules)).count _).portrays (reply _)
    · exact ((joined.trans (recounts_enqueue _ session rules)).count _).portrays (reply _)
    · exact joined.portrays (reply _)
    · exact joined.portrays (List.forall_mem_nil _)

theorem portrays_cancelMatchmaking {route : Route} : cancelMatchmaking.Portrays route := by
  refine Handler.portrays_acting fun s session player => ?_
  have left := s.recounts_withdraw session
  split
  · next result =>
    rw [result] at left
    exact left.trans (recounts_push _ session (drawn_notification (by decide) _))
  · next result =>
    rw [result] at left
    exact left

end Games

/-! ### All routes -/

namespace Router

theorem portrays_routes : OnRoutes Handler.Portrays where
  login := Authentication.portrays_login
  silentLogin := Authentication.portrays_silentLogin
  logout := Authentication.portrays_logout
  listEntitlements := Handler.portrays_answering
  preAuth := Handler.portrays_answering
  postAuth := Handler.portrays_answering
  ping := Utility.portrays_ping
  fetchClientConfig := Handler.portrays_answering
  saveSetting := Utility.portrays_saveSetting
  loadSettings := Handler.portrays_answering
  updateNetworkInfo := Presence.portrays_updateNetworkInfo
  updateHardwareFlags := Presence.portrays_updateHardwareFlags
  createGame := Games.portrays_createGame
  setAttributes := Games.portrays_setAttributes
  advanceState := Games.portrays_advanceState
  setSettings := Games.portrays_setSettings
  removePlayer := Games.portrays_removePlayer
  startMatchmaking := Games.portrays_startMatchmaking
  cancelMatchmaking := Games.portrays_cancelMatchmaking
  updateMeshConnection := Games.portrays_updateMeshConnection

/-- **What a request shows is drawn from profiles with the addresses after it, and only its own
session gets other addresses**, those that it reports. -/
theorem portrays_dispatch (s : Server) (session : SessionId) (request : Packet) :
    s.Portrays session request (.replied (standard.dispatch s session request).1,
      (standard.dispatch s session request).2) := by
  have empty : ∀ profiles, ∀ p ∈ [request.emptyResponse], p.Drawn profiles :=
    fun _ => List.forall_mem_singleton.2 (drawn_emptyResponse request)
  rcases standard.dispatch_cases s session request with ⟨-, result⟩ | ⟨handler, found, cases⟩
  · rw [result]
    exact (portrays_refused s session request .notAuthenticated).count empty _
  · have portrays := meets_handler? portrays_routes.standard found s session
    rcases cases with ⟨replies, outcome, result⟩ | ⟨cause, -, result⟩ | ⟨_, -, result⟩
    all_goals rw [result]
    · rw [← outcome]
      exact portrays
    · exact portrays.count (fun _ => drawn_refuse request cause) _
    · exact portrays.count empty _

end Router

end Lobby
