import Lobby.Proofs.Request.Handler
import Lobby.Proofs.Server.Matchmaking

/-!
# Requests as moves

Every request of a session that is there changes the seating by moves only, as long as there is room
for one more game.  Whoever creates a game or asks for one leaves everything first, and is free
then.
-/

namespace Lobby

/-- A request is made in a coherent seating, by a session that is there, and with room for a game.
What it does are moves. -/
def Server.Rearranges (s : Server) (session : SessionId) (after : Server) : Prop :=
  s.seating.Coherent → s.seating.present session = true → s.created.toNat + 1 < UInt32.size →
    Seating.Moves s.seating after.seating

namespace Server.Rearranges

variable {s t : Server} {session : SessionId}

theorem of_eq (h : t.seating = s.seating) : s.Rearranges session t := by
  intro _ _ _
  rw [h]

theorem refl (s : Server) (session : SessionId) : s.Rearranges session s := of_eq rfl

/-- Whatever else changes, only the seating counts. -/
theorem congr {u : Server} (h : s.Rearranges session t) (same : u.seating = t.seating) :
    s.Rearranges session u := by
  intro coherent present room
  rw [same]
  exact h coherent present room

end Server.Rearranges

open Server

/-! ### Logging in and out -/

namespace Authentication

theorem rearranges_complete (s : Server) (session : SessionId) (request : Packet) (a : Account) :
    s.Rearranges session (complete s session request a).2 :=
  .of_eq (s.seating_setPlayer session _)

theorem rearranges_login : login.Does Rearranges :=
  Handler.does_checked .refl fun s session request a _ => rearranges_complete s session request a

theorem rearranges_silentLogin : silentLogin.Does Rearranges :=
  Handler.does_checked .refl fun s session request a _ => rearranges_complete s session request a

theorem rearranges_logout : logout.Does Rearranges := by
  refine Handler.does_acting .refl ?_
  intro s session _ _ _ h _ _
  rw [seating_setPlayer]
  exact moves_leaveActivities h session leftReason

end Authentication

/-! ### Reports and settings -/

namespace Presence

theorem seating_refresh (s : Server) (session : SessionId) :
    (refresh s session).seating = s.seating := by
  rw [refresh]
  split
  · rfl
  · dsimp only
    split
    · exact s.seating_broadcast _ _ none
    · exact s.seating_push session _

theorem rearranges_updateNetworkInfo : updateNetworkInfo.Does Rearranges := by
  refine Handler.does_acting .refl fun s session _ network _ => .of_eq ?_
  rw [seating_refresh, seating_setNetwork]

theorem rearranges_updateHardwareFlags : updateHardwareFlags.Does Rearranges := by
  refine Handler.does_acting .refl fun s session _ hardware _ => .of_eq ?_
  rw [seating_refresh, seating_setHardware]

end Presence

namespace Utility

theorem rearranges_ping : ping.Does Rearranges :=
  fun _ s session _ _ => .of_eq (s.seating_recordPing session)

theorem rearranges_saveSetting : saveSetting.Does Rearranges :=
  Handler.does_acting .refl fun _ _ _ _ _ => .of_eq rfl

end Utility

/-! ### Games -/

namespace Games

variable {s : Server}

theorem moves_leaveAndCreate (h : s.seating.Coherent) {session : SessionId}
    (present : s.seating.present session = true) (room : s.created.toNat + 1 < UInt32.size)
    (attributes : Attributes) (setting : UInt16) :
    Seating.Moves s.seating (leaveAndCreate s session attributes setting).2.seating := by
  have left := moves_leaveActivities h session leftReason
  have free := free_leaveActivities h present leftReason
  rw [← created_leaveActivities h session leftReason] at room
  rw [leaveAndCreate]
  generalize s.leaveActivities session leftReason = t at left free room
  have coherent := h.moves left
  split
  · next result =>
    -- the second try starts from the same seating, tidied
    have failed : (t.createGame session attributes setting).1 = .error _ := congrArg Prod.fst result
    have tidied := (createGame_error failed).symm.trans (congrArg Prod.snd result)
    subst tidied
    have same := seating_evict coherent
    have again := moves_leaveActivities (same ▸ coherent) session leftReason
    have free := free_leaveActivities (same ▸ coherent) (same ▸ free.present) leftReason
    have created := created_leaveActivities (same ▸ coherent) session leftReason
    have second := moves_createGame ((same ▸ coherent : t.evict.seating.Coherent).moves again) free
      (created ▸ room) attributes setting
    exact left.trans ((same ▸ again).trans second)
  · exact left.trans (moves_createGame coherent free room attributes setting)

theorem rearranges_createGame : createGame.Does Rearranges := by
  refine Handler.does_checked .refl ?_
  rintro s session request ⟨attributes, setting⟩ - h present room
  have moves := moves_leaveAndCreate h present room attributes setting
  dsimp only
  split
  · next result =>
    rw [result] at moves
    exact moves
  · next i t result =>
    rw [result] at moves
    exact moves.trans (moves_offer (s := t.count Metrics.gameCreated) (h.moves moves) i)

theorem rearranges_setAttributes : setAttributes.Does Rearranges := by
  refine Handler.does_acting .refl fun s _ _ found _ => .of_eq ?_
  rw [seating_broadcastAttributes, seating_addAttributes]

theorem rearranges_advanceState : advanceState.Does Rearranges :=
  Handler.does_acting .refl fun s _ _ found _ => .of_eq (s.seating_setState found.1 found.2)

theorem rearranges_setSettings : setSettings.Does Rearranges :=
  Handler.does_acting .refl fun s _ _ found _ => .of_eq (s.seating_setSetting found.1 found.2)

theorem rearranges_removePlayer : removePlayer.Does Rearranges := by
  refine Handler.does_acting .refl ?_
  rintro s session request ⟨i, player, reason⟩ - h - -
  have moves := moves_removePlayer h i player reason
  dsimp only
  split
  · next result =>
    rw [result] at moves
    exact moves
  · next result =>
    rw [result] at moves
    exact moves

theorem rearranges_updateMeshConnection : updateMeshConnection.Does Rearranges := by
  refine Handler.does_acting .refl fun s _ _ joined _ => ?_
  split
  · exact .of_eq (s.seating_broadcast _ _ none)
  · exact .refl s _

/-! ### Matchmaking -/

/-- A search that finds no game only changes the queue. -/
theorem moves_matchOrEnqueue (h : s.seating.Coherent) {session : SessionId}
    (free : s.seating.Free session) (rules : RuleSet) :
    Seating.Moves s.seating (s.matchOrEnqueue session rules).2.seating ∧
      ∀ i, (s.matchOrEnqueue session rules).1 = some i →
        (s.matchOrEnqueue session rules).2 = s := by
  rw [matchOrEnqueue]
  split
  · exact ⟨.refl, fun _ _ => rfl⟩
  · refine ⟨moves_enqueue h free rules, ?_⟩
    intro i found
    cases found

theorem rearranges_startMatchmaking : startMatchmaking.Does Rearranges := by
  refine Handler.does_checked .refl ?_
  intro s session request rules _ h present _
  have left := moves_leaveActivities h session leftReason
  have free := free_leaveActivities h present leftReason
  dsimp only
  generalize s.leaveActivities session leftReason = t at left free
  have coherent := h.moves left
  obtain ⟨search, unchanged⟩ := moves_matchOrEnqueue coherent free rules
  split
  · next result =>
    rw [result] at search
    exact left.trans search
  · next i u result =>
    have same : u = t := by
      have := unchanged i (congrArg Prod.fst result)
      rwa [result] at this
    subst same
    have joins {outcome : Except Error Nat} {v : Server}
        (joined : u.join i session .matchmaking = (outcome, v)) :
        Seating.Moves s.seating v.seating := by
      have moves := moves_join i free .matchmaking
      rw [joined] at moves
      exact left.trans moves
    -- a session that did not get in is as free as before
    have waits {e : Error} {v : Server} (joined : u.join i session .matchmaking = (.error e, v)) :
        Seating.Moves s.seating (v.enqueue session rules).seating := by
      have failed := join_error (congrArg Prod.fst joined)
      rw [joined] at failed
      rw [show v = u from failed]
      exact left.trans (moves_enqueue coherent free rules)
    split
    · next joined =>
      have moves := joins joined
      exact moves
    · next joined =>
      have moves := waits joined
      exact moves
    · next joined =>
      have moves := waits joined
      exact moves
    · next joined => exact joins joined
    · next joined => exact joins joined

theorem rearranges_cancelMatchmaking : cancelMatchmaking.Does Rearranges := by
  refine Handler.does_acting .refl ?_
  intro s session _ player _ h _ _
  have moves := moves_withdraw h session
  split
  · next result =>
    rw [result] at moves
    rw [seating_push]
    exact moves
  · next result =>
    rw [result] at moves
    exact moves

end Games

/-! ### All routes -/

theorem Router.rearranges_routes : Router.OnRoutes fun _ h => h.Does Rearranges where
  login := Authentication.rearranges_login
  silentLogin := Authentication.rearranges_silentLogin
  logout := Authentication.rearranges_logout
  listEntitlements := Handler.does_answering .refl
  preAuth := Handler.does_answering .refl
  postAuth := Handler.does_answering .refl
  ping := Utility.rearranges_ping
  fetchClientConfig := Handler.does_answering .refl
  saveSetting := Utility.rearranges_saveSetting
  loadSettings := Handler.does_answering .refl
  updateNetworkInfo := Presence.rearranges_updateNetworkInfo
  updateHardwareFlags := Presence.rearranges_updateHardwareFlags
  createGame := Games.rearranges_createGame
  setAttributes := Games.rearranges_setAttributes
  advanceState := Games.rearranges_advanceState
  setSettings := Games.rearranges_setSettings
  removePlayer := Games.rearranges_removePlayer
  startMatchmaking := Games.rearranges_startMatchmaking
  cancelMatchmaking := Games.rearranges_cancelMatchmaking
  updateMeshConnection := Games.rearranges_updateMeshConnection

/-- **A request changes the seating by moves.** -/
theorem Router.moves_dispatch {s : Server} (h : s.seating.Coherent) {session : SessionId}
    (present : s.seating.present session = true) (room : s.created.toNat + 1 < UInt32.size)
    (request : Packet) :
    Seating.Moves s.seating (standard.dispatch s session request).2.seating :=
  does_dispatch rearranges_routes.standard .refl (fun _ _ _ _ does => does.congr rfl) s session
    request h present room

end Lobby
