import Lobby.Proofs.Request.Handler
import Lobby.Proofs.Server.Meter

/-!
# Requests and counters

No handler reads a counter.  So a request is answered in the same way whatever has been counted
(`Router.blind_dispatch`), and it counts nothing that connections count.
-/

namespace Lobby

open Server

namespace Handler

/-- A handler reads no counter. -/
def Blind (h : Handler) : Prop :=
  ∀ server session request, Server.Blind (fun s => h s session request) server

theorem blind_checked {α : Type} {check : Check α}
    {act : Server → SessionId → Packet → α → Outcome × Server}
    (checked : ∀ server m session request,
      check (Server.meter server m) session request = check server session request)
    (acted : ∀ server session request found,
      Server.Blind (fun s => act s session request found) server) :
    Blind (.checked check act) := by
  intro server session request
  simp only [Server.Blind, Handler.checked, checked]
  cases check server session request with
  | error cause => exact blind_of_metered fun _ => rfl
  | ok found => exact acted server session request found

theorem blind_acting {α : Type} {check : Check α} {act : Server → SessionId → α → Server}
    (checked : ∀ server m session request,
      check (Server.meter server m) session request = check server session request)
    (acted : ∀ server session found, Counts (fun s => act s session found) server) :
    Blind (.acting check act) :=
  blind_checked checked fun server session _ found => (acted server session found).blind _

theorem blind_answering {check : Check Content}
    (checked : ∀ server m session request,
      check (Server.meter server m) session request = check server session request) :
    Blind (.answering check) :=
  blind_checked checked fun _ _ _ _ => blind_of_metered fun _ => rfl

end Handler

namespace Presence

theorem refresh_meter (s : Server) (m : Metrics) (session : SessionId) :
    refresh (s.meter m) session = (refresh s session).meter m := by
  simp only [refresh, session_meter, findGame?_meter]
  split
  · rfl
  · split <;> simp

end Presence

namespace Games

theorem blind_leaveAndCreate (s : Server) (session : SessionId) (attributes : Attributes)
    (setting : UInt16) : Server.Blind (fun s => leaveAndCreate s session attributes setting) s := by
  obtain ⟨g, quiet, left⟩ := counts_leaveActivities s session leftReason
  simp only [Server.Blind, leaveAndCreate, left, createGame_meter, metered]
  generalize (s.leaveActivities session leftReason).createGame session attributes setting = r
  obtain ⟨outcome, t⟩ := r
  obtain ⟨g', quiet', again⟩ := counts_leaveActivities t session leftReason
  rcases outcome with e | id
  · cases e with
    | alreadyInGame _ _ =>
      refine ⟨g' ∘ g, fun m => (quiet' (g m)).trans (quiet m), fun m => ?_⟩
      simp only [again, createGame_meter]
      rfl
    | _ => exact ⟨g, quiet, fun _ => rfl⟩
  · exact ⟨g, quiet, fun _ => rfl⟩

theorem blind_createGame : Handler.Blind createGame := by
  refine Handler.blind_checked (fun _ _ _ _ => rfl) fun s session request found => ?_
  obtain ⟨attributes, setting⟩ := found
  obtain ⟨g, quiet, created⟩ := blind_leaveAndCreate s session attributes setting
  simp only [Server.Blind, created, metered]
  generalize leaveAndCreate s session attributes setting = r
  obtain ⟨outcome, t⟩ := r
  cases outcome with
  | error cause => exact ⟨g, quiet, fun _ => rfl⟩
  | ok i =>
    have counted (m : Metrics) : (t.meter m).count Metrics.gameCreated =
        (t.count Metrics.gameCreated).meter m.gameCreated := rfl
    simp only [counted, offer_meter, metered]
    generalize (t.count Metrics.gameCreated).offer i = r
    exact ⟨fun m => (g m).gameCreated.seekersMatched (.ofNat r.1.length), quiet, fun _ => rfl⟩

theorem blind_removePlayer : Handler.Blind removePlayer := by
  refine Handler.blind_acting (fun _ _ _ _ => rfl) fun s session found => ?_
  obtain ⟨i, player, reason⟩ := found
  simp only [Counts, removePlayer_meter, metered]
  generalize s.removePlayer i player reason = r
  obtain ⟨outcome, t⟩ := r
  rcases outcome with e | removal
  · exact ⟨id, fun _ => rfl, fun _ => rfl⟩
  · cases removal with
    | emptied => exact ⟨Metrics.gameReleased, fun _ => rfl, fun _ => rfl⟩
    | _ => exact ⟨id, fun _ => rfl, fun _ => rfl⟩

theorem blind_startMatchmaking : Handler.Blind startMatchmaking := by
  refine Handler.blind_checked (fun _ _ _ _ => rfl) fun s session request rules => ?_
  obtain ⟨g, quiet, left⟩ := counts_leaveActivities s session leftReason
  simp only [Server.Blind, left, matchOrEnqueue_meter, metered]
  generalize (s.leaveActivities session leftReason).matchOrEnqueue session rules = r
  obtain ⟨found, t⟩ := r
  cases found with
  | none =>
    exact ⟨Metrics.seekerQueued ∘ g, quiet, fun _ => rfl⟩
  | some id =>
    simp only [join_meter, metered]
    generalize t.join id session .matchmaking = r
    obtain ⟨outcome, u⟩ := r
    rcases outcome with e | slot
    · cases e with
      | gameFull _ => exact ⟨Metrics.seekerQueued ∘ g, quiet, fun _ => rfl⟩
      | gameNotFound _ => exact ⟨Metrics.seekerQueued ∘ g, quiet, fun _ => rfl⟩
      | _ => exact ⟨g, quiet, fun _ => rfl⟩
    · exact ⟨fun m => (g m).seekersMatched 1, quiet, fun _ => rfl⟩

theorem blind_cancelMatchmaking : Handler.Blind cancelMatchmaking := by
  refine Handler.blind_acting (fun _ _ _ _ => rfl) fun s session player => ?_
  refine counts_of_meter fun m => ?_
  simp only [withdraw_meter, metered]
  generalize s.withdraw session = r
  obtain ⟨sought, t⟩ := r
  cases sought <;> rfl

theorem blind_updateMeshConnection : Handler.Blind updateMeshConnection := by
  refine Handler.blind_acting (fun _ _ _ _ => rfl) fun s session joined => ?_
  cases joined with
  | none => exact counts_of_meter fun _ => rfl
  | some joined => exact counts_of_meter fun m => broadcast_meter s m joined.1 _ none

end Games

/-- No route reads a counter. -/
theorem Router.blind_routes : Router.OnRoutes fun _ h => h.Blind where
  login :=
    Handler.blind_checked (fun _ _ _ _ => rfl) fun _ _ _ _ => blind_of_metered fun _ => rfl
  silentLogin :=
    Handler.blind_checked (fun _ _ _ _ => rfl) fun _ _ _ _ => blind_of_metered fun _ => rfl
  logout := Handler.blind_acting (fun _ _ _ _ => rfl) fun s session _ => by
    obtain ⟨g, quiet, left⟩ := counts_leaveActivities s session leftReason
    exact ⟨g, quiet, fun m => congrArg (·.setPlayer session none) (left m)⟩
  listEntitlements := Handler.blind_answering fun _ _ _ _ => rfl
  preAuth := Handler.blind_answering fun _ _ _ _ => rfl
  postAuth := Handler.blind_answering fun _ _ _ _ => rfl
  ping _ _ _ := blind_of_metered fun _ => rfl
  fetchClientConfig := Handler.blind_answering fun _ _ _ _ => rfl
  saveSetting := Handler.blind_acting (fun _ _ _ _ => rfl) fun _ _ _ => counts_of_meter fun _ => rfl
  loadSettings := Handler.blind_answering fun _ _ _ _ => rfl
  updateNetworkInfo := Handler.blind_acting (fun _ _ _ _ => rfl) fun s session network =>
    counts_of_meter fun m =>
      Presence.refresh_meter (s.setNetwork session network) m session
  updateHardwareFlags := Handler.blind_acting (fun _ _ _ _ => rfl) fun s session hardware =>
    counts_of_meter fun m =>
      Presence.refresh_meter (s.setHardware session hardware) m session
  createGame := Games.blind_createGame
  setAttributes := Handler.blind_acting (fun _ _ _ _ => rfl) fun s _ ⟨i, attributes⟩ =>
    counts_of_meter fun m => broadcastAttributes_meter (s.addAttributes i attributes) m i
  advanceState := Handler.blind_acting (fun _ _ _ _ => rfl) fun s _ ⟨i, state⟩ =>
    counts_of_meter fun m => setState_meter s m i state
  setSettings := Handler.blind_acting (fun _ _ _ _ => rfl) fun s _ ⟨i, setting⟩ =>
    counts_of_meter fun m => setSetting_meter s m i setting
  removePlayer := Games.blind_removePlayer
  startMatchmaking := Games.blind_startMatchmaking
  cancelMatchmaking := Games.blind_cancelMatchmaking
  updateMeshConnection := Games.blind_updateMeshConnection

theorem Router.quiet_refuse (request : Packet) (cause : Refusal) :
    Quiet (refuse request cause).2 := by
  rw [refuse.eq_def]
  split
  · exact fun _ => rfl
  · split <;> exact fun _ => rfl

/-- **A request does not depend on counters**, and counts nothing that connections count. -/
theorem Router.blind_dispatch (s : Server) (session : SessionId) (request : Packet) :
    Server.Blind (fun s => standard.dispatch s session request) s := by
  simp only [Server.Blind, dispatch]
  cases found : standard.handler? request.header.route with
  | none => exact ⟨Metrics.unknownCommand, fun _ => rfl, fun _ => rfl⟩
  | some handler =>
    obtain ⟨e, first, rfl⟩ := Option.map_eq_some_iff.1 found
    obtain ⟨g, quiet, same⟩ :=
      blind_routes.standard e (List.mem_of_find?_eq_some first) s session request
    simp only [same, metered]
    generalize e.2 s session request = r
    obtain ⟨outcome, t⟩ := r
    cases outcome with
    | replied replies => exact ⟨g, quiet, fun _ => rfl⟩
    | crashed text => exact ⟨fun m => (g m).handlerFailure, quiet, fun _ => rfl⟩
    | refused cause =>
      exact ⟨fun m => (refuse request cause).2 (g m),
        fun m => (quiet_refuse request cause (g m)).trans (quiet m), fun _ => rfl⟩

end Lobby
