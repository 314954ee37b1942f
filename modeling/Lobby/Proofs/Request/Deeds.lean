import Lobby.Proofs.Request.Checks
import Lobby.Proofs.Server.Conduct

/-!
# Requests as deeds

Every request of a session that is there does deeds only, as long as there is room for one more
game: `Router.deeds_dispatch`.
-/

namespace Lobby

/-- A request is made in a coherent seating, by a session that is there, and with room for a game.
What it does are deeds. -/
def Server.Performs (s : Server) (session : SessionId) (request : Packet) (after : Server) : Prop :=
  s.seating.Coherent → s.seating.present session = true → s.created.toNat + 1 < UInt32.size →
    Stage.Deeds (.request session request) s.stage after.stage

abbrev Handler.Performs (route : Route) (h : Handler) : Prop :=
  h.Meets (fun server session request result => server.Performs session request result.2) route

namespace Server.Performs

variable {s t : Server} {session : SessionId} {request : Packet}

theorem of_eq (h : t.stage = s.stage) : s.Performs session request t := by
  intro _ _ _
  rw [h]

theorem refl (s : Server) (session : SessionId) (request : Packet) :
    s.Performs session request s := of_eq rfl

/-- Whatever else changes, only the stage counts. -/
theorem congr {u : Server} (h : s.Performs session request t) (same : u.stage = t.stage) :
    s.Performs session request u := by
  intro coherent present room
  rw [same]
  exact h coherent present room

end Server.Performs

open Server

theorem Handler.performs_answering {route : Route} {check : Check Content} :
    Performs route (answering check) :=
  meets_answering (fun s session request _ => .refl s session request)
    fun s session request _ _ _ => .refl s session request

variable {s : Server}

/-! ### Logging in and out -/

namespace Authentication

theorem performs_complete {session : SessionId} {request : Packet} {a : Account}
    (account : a ∈ s.store.accounts.values)
    (asked : Event.login? (.request session request) = some session) :
    s.Performs session request (complete s session request a).2 := by
  intro h present _
  rw [complete, stage_setPlayer present]
  exact Deeds.single h (.logIn account asked)

theorem performs_login : login.Performs Route.login := by
  refine Handler.meets_checked (fun s session request _ => .refl s session request) ?_
  intro s session request a route passed
  exact performs_complete (mem_of_checkPassword passed) (if_pos (.inl route))

theorem performs_silentLogin : silentLogin.Performs Route.silentLogin := by
  refine Handler.meets_checked (fun s session request _ => .refl s session request) ?_
  intro s session request a route passed
  exact performs_complete (mem_of_checkToken passed) (if_pos (.inr route))

theorem performs_logout {route : Route} : logout.Performs route := by
  refine Handler.meets_acting (fun s session request _ => .refl s session request) ?_
  intro s session request _ _ _ h present _
  have left := moves_leaveActivities h session leftReason
  have coherent := h.moves left
  have free := free_leaveActivities h present leftReason
  rw [stage_setPlayer free.present]
  exact (deeds_leaveActivities h session leftReason).trans
    (Deeds.single coherent (.logOut (idle_stage coherent free.seat)))

end Authentication

/-! ### Reports and settings -/

namespace Presence

theorem deeds_refresh {e : Event} (h : s.seating.Coherent) (session : SessionId) :
    Stage.Deeds e s.stage (refresh s session).stage := by
  rw [refresh]
  split
  · exact .refl
  · next notice updated =>
    dsimp only
    split
    · next i _ => exact deeds_broadcast h i (.updated updated)
    · exact deeds_push h session (.updated updated)

theorem performs_updateNetworkInfo {route : Route} : updateNetworkInfo.Performs route := by
  refine Handler.meets_acting (fun s session request _ => .refl s session request) ?_
  intro s session request network _ _ h _ _
  rw [← s.stage_setNetwork session network]
  exact deeds_refresh (by rwa [seating_setNetwork]) session

theorem performs_updateHardwareFlags {route : Route} : updateHardwareFlags.Performs route := by
  refine Handler.meets_acting (fun s session request _ => .refl s session request) ?_
  intro s session request hardware _ _ h _ _
  rw [← s.stage_setHardware session hardware]
  exact deeds_refresh (by rwa [seating_setHardware]) session

end Presence

namespace Utility

theorem performs_ping {route : Route} : ping.Performs route :=
  fun s session _ _ => .of_eq (s.stage_recordPing session)

theorem performs_saveSetting {route : Route} : saveSetting.Performs route := by
  refine Handler.meets_acting (fun s session request _ => .refl s session request) ?_
  intro s session request store _ passed h _ _
  obtain ⟨settings, rfl⟩ := checkSetting_eq_ok passed
  exact Deeds.single h (.save settings)

end Utility

/-! ### Games -/

namespace Games

theorem deeds_leaveAndCreate {e : Event} (h : s.seating.Coherent) {session : SessionId}
    (present : s.seating.present session = true) (room : s.created.toNat + 1 < UInt32.size)
    (other : e.login? = none) {attributes : Attributes} (brought : attributes = e.attributes)
    (setting : UInt16) :
    Stage.Deeds e s.stage (leaveAndCreate s session attributes setting).2.stage := by
  have first := deeds_leaveActivities (e := e) h session leftReason
  have left := moves_leaveActivities h session leftReason
  have free := free_leaveActivities h present leftReason
  rw [← created_leaveActivities h session leftReason] at room
  rw [leaveAndCreate]
  generalize s.leaveActivities session leftReason = t at first left free room
  have coherent := h.moves left
  split
  · next result =>
    -- the second try starts from the same stage, tidied
    have failed : (t.createGame session attributes setting).1 = .error _ := congrArg Prod.fst result
    have tidied := (createGame_error failed).symm.trans (congrArg Prod.snd result)
    subst tidied
    have same := seating_evict coherent
    have tidy : t.evict.seating.Coherent := same ▸ coherent
    have second := deeds_leaveActivities (e := e) tidy session leftReason
    rw [stage_evict coherent] at second
    have again := moves_leaveActivities tidy session leftReason
    have free := free_leaveActivities tidy (same ▸ free.present) leftReason
    have created := created_leaveActivities tidy session leftReason
    exact (first.trans second).trans
      (deeds_createGame (tidy.moves again) free (created ▸ room) other brought setting)
  · exact first.trans (deeds_createGame coherent free room other brought setting)

theorem attributes_request {session : SessionId} {request : Packet} {content : Content}
    (records : request.records = .ok content) :
    Event.attributes (.request session request) = (content.attributes? Field.attr).getD ∅ := by
  rw [Event.attributes, records]

theorem performs_createGame : createGame.Performs Route.createGame := by
  refine Handler.meets_checked (fun s session request _ => .refl s session request) ?_
  rintro s session request ⟨attributes, setting⟩ route passed h present room
  obtain ⟨-, content, records, brought, -⟩ := checkCreation_eq_ok passed
  have other : Event.login? (.request session request) = none := by
    rw [Event.login?, route]
    exact if_neg (by decide)
  have deeds := deeds_leaveAndCreate h present room other
    (brought.trans (attributes_request records).symm) setting
  have moves := moves_leaveAndCreate h present room attributes setting
  dsimp only
  split
  · next result =>
    rw [result] at deeds
    exact deeds
  · next i t result =>
    rw [result] at deeds moves
    exact deeds.trans (deeds_offer (s := t.count Metrics.gameCreated) (h.moves moves) other i)

theorem performs_setAttributes {route : Route} : setAttributes.Performs route := by
  refine Handler.meets_acting (fun s session request _ => .refl s session request) ?_
  rintro s session request ⟨i, a⟩ _ passed h - -
  obtain ⟨content, records, -, found⟩ := checkAttributes_eq_ok passed
  refine deeds_change h i (.attributes a) ?_ ?_ ?_
  · rintro _ ⟨⟩
    rw [attributes_request records, found]
    rfl
  · intro missing
    show (s.addAttributes i a).broadcastAttributes i = s
    rw [addAttributes, updateGame_missing missing, broadcastAttributes, missing]
  · intro x found
    have there : (s.addAttributes i a).games.get? i = some (x.addAttributes a) := by
      show (s.games.modify i _).get? i = _
      rw [SortedMap.get?_modify, if_pos rfl, found, Option.map_some]
    show (s.addAttributes i a).broadcastAttributes i = _
    rw [broadcastAttributes, there]
    dsimp only
    rw [addAttributes, updateGame_updateGame]
    rfl

theorem performs_advanceState {route : Route} : advanceState.Performs route := by
  refine Handler.meets_acting (fun s session request _ => .refl s session request) ?_
  rintro s session request ⟨i, v⟩ _ - h - -
  refine deeds_change h i (.state v) nofun ?_ fun _ _ => rfl
  intro missing
  show (s.updateGame i _).broadcast i _ none = s
  rw [updateGame_missing missing, stage_broadcast_none missing]

theorem performs_setSettings {route : Route} : setSettings.Performs route := by
  refine Handler.meets_acting (fun s session request _ => .refl s session request) ?_
  rintro s session request ⟨i, v⟩ _ - h - -
  refine deeds_change h i (.setting v) nofun ?_ fun _ _ => rfl
  intro missing
  show (s.updateGame i _).broadcast i _ none = s
  rw [updateGame_missing missing, stage_broadcast_none missing]

theorem performs_removePlayer {route : Route} : removePlayer.Performs route := by
  refine Handler.meets_acting (fun s session request _ => .refl s session request) ?_
  rintro s session request ⟨i, player, reason⟩ _ - h - -
  have deeds := deeds_removePlayer (e := .request session request) h i player reason
  dsimp only
  split
  · next result =>
    rw [result] at deeds
    exact deeds
  · next result =>
    rw [result] at deeds
    exact deeds

theorem performs_updateMeshConnection {route : Route} : updateMeshConnection.Performs route := by
  refine Handler.meets_acting (fun s session request _ => .refl s session request) ?_
  intro s session request joined _ _ h _ _
  dsimp only
  split
  · exact deeds_broadcast h _ (.completed _ _)
  · exact .refl

/-! ### Matchmaking -/

theorem performs_startMatchmaking : startMatchmaking.Performs Route.startMatchmaking := by
  refine Handler.meets_checked (fun s session request _ => .refl s session request) ?_
  intro s session request rules route _ h present _
  have other : Event.login? (.request session request) = none := by
    rw [Event.login?, route]
    exact if_neg (by decide)
  have first := deeds_leaveActivities (e := .request session request) h session leftReason
  have coherent := h.moves (moves_leaveActivities h session leftReason)
  have free := free_leaveActivities h present leftReason
  dsimp only
  generalize s.leaveActivities session leftReason = t at first coherent free
  have search := t.stage_matchOrEnqueue session rules
  obtain ⟨-, unchanged⟩ := moves_matchOrEnqueue coherent free rules
  split
  · next result =>
    rw [result] at search
    show Stage.Deeds _ s.stage (_ : Server).stage
    rw [stage_count, search]
    exact first
  · next i u result =>
    have same : u = t := by
      have := unchanged i (congrArg Prod.fst result)
      rwa [result] at this
    subst same
    have joined := first.trans (deeds_join coherent other i free .matchmaking)
    split
    all_goals
      next result =>
        rw [result] at joined
        simpa only [stage_count, stage_enqueue] using joined

theorem performs_cancelMatchmaking {route : Route} : cancelMatchmaking.Performs route := by
  refine Handler.meets_acting (fun s session request _ => .refl s session request) ?_
  intro s session request player _ _ h _ _
  have same := s.stage_withdraw session
  have coherent := h.moves (moves_withdraw h session)
  dsimp only
  split
  · next result =>
    rw [result] at same coherent
    rw [← same]
    exact deeds_push coherent session (.failed session player.id)
  · next result =>
    rw [result] at same
    rw [← same]

end Games

/-! ### All routes -/

theorem Router.performs_routes : OnRoutes Handler.Performs where
  login := Authentication.performs_login
  silentLogin := Authentication.performs_silentLogin
  logout := Authentication.performs_logout
  listEntitlements := Handler.performs_answering
  preAuth := Handler.performs_answering
  postAuth := Handler.performs_answering
  ping := Utility.performs_ping
  fetchClientConfig := Handler.performs_answering
  saveSetting := Utility.performs_saveSetting
  loadSettings := Handler.performs_answering
  updateNetworkInfo := Presence.performs_updateNetworkInfo
  updateHardwareFlags := Presence.performs_updateHardwareFlags
  createGame := Games.performs_createGame
  setAttributes := Games.performs_setAttributes
  advanceState := Games.performs_advanceState
  setSettings := Games.performs_setSettings
  removePlayer := Games.performs_removePlayer
  startMatchmaking := Games.performs_startMatchmaking
  cancelMatchmaking := Games.performs_cancelMatchmaking
  updateMeshConnection := Games.performs_updateMeshConnection

/-- **A request does deeds.** -/
theorem Router.deeds_dispatch {s : Server} (h : s.seating.Coherent) {session : SessionId}
    (present : s.seating.present session = true) (room : s.created.toNat + 1 < UInt32.size)
    (request : Packet) :
    Stage.Deeds (.request session request) s.stage (standard.dispatch s session request).2.stage :=
  meets_dispatch performs_routes.standard .refl (fun _ _ _ _ _ does => does.congr rfl) s session
    request h present room

end Lobby
