import Lobby.Request.Router

/-!
# What handlers do

A statement about a request, what a handler makes of it and the server before holds of a router if
it holds of every handler in it.  It holds of most handlers if it holds of what they do once the
request is checked, because a refused request changes nothing.
-/

namespace Lobby

namespace Handler

/-- Every request of a route is related to what the handler makes of it. -/
def Meets (R : Server → SessionId → Packet → Outcome × Server → Prop) (route : Route)
    (h : Handler) : Prop :=
  ∀ server session request, request.header.route = route →
    R server session request (h server session request)

/-- Whatever the request, the handler relates the server before it to the server after it. -/
def Does (R : Server → SessionId → Server → Prop) (h : Handler) : Prop :=
  ∀ route, Meets (fun server session _ result => R server session result.2) route h

section

variable {R : Server → SessionId → Packet → Outcome × Server → Prop} {route : Route}

theorem meets_checked {α : Type} {check : Check α}
    {act : Server → SessionId → Packet → α → Outcome × Server}
    (refused : ∀ server session request cause, R server session request (.refused cause, server))
    (acted : ∀ server session request found, request.header.route = route →
      check server session request = .ok found →
        R server session request (act server session request found)) :
    Meets R route (checked check act) := by
  intro server session request here
  rw [checked]
  split
  · next cause _ => exact refused server session request cause
  · next found passed => exact acted server session request found here passed

theorem meets_answering {check : Check Content}
    (refused : ∀ server session request cause, R server session request (.refused cause, server))
    (answered : ∀ server session request found, request.header.route = route →
      check server session request = .ok found →
        R server session request (.replied [request.response found], server)) :
    Meets R route (answering check) :=
  meets_checked refused answered

theorem meets_acting {α : Type} {check : Check α} {act : Server → SessionId → α → Server}
    (refused : ∀ server session request cause, R server session request (.refused cause, server))
    (acted : ∀ server session request found, request.header.route = route →
      check server session request = .ok found →
        R server session request (.replied [request.emptyResponse], act server session found)) :
    Meets R route (acting check act) :=
  meets_checked refused acted

end

section

variable {R : Server → SessionId → Server → Prop}

theorem does_checked {α : Type} {check : Check α}
    {act : Server → SessionId → Packet → α → Outcome × Server}
    (refused : ∀ server session, R server session server)
    (acted : ∀ server session request found, check server session request = .ok found →
      R server session (act server session request found).2) :
    Does R (checked check act) :=
  fun _ => meets_checked (fun server session _ _ => refused server session)
    fun server session request found _ => acted server session request found

theorem does_answering {check : Check Content}
    (refused : ∀ server session, R server session server) : Does R (answering check) :=
  does_checked refused fun server session _ _ _ => refused server session

theorem does_acting {α : Type} {check : Check α} {act : Server → SessionId → α → Server}
    (refused : ∀ server session, R server session server)
    (acted : ∀ server session request found, check server session request = .ok found →
      R server session (act server session found)) :
    Does R (acting check act) :=
  does_checked refused acted

end

end Handler

namespace Router

theorem mem_ofList {handlers : List (Route × Handler)} {e : Route × Handler}
    (h : e ∈ (ofList handlers).handlers) : e ∈ handlers := by
  have fold (r : Router) (he : e ∈ (handlers.foldl (fun r h => r.add h.1 h.2) r).handlers) :
      e ∈ handlers ∨ e ∈ r.handlers := by
    clear h
    induction handlers generalizing r with
    | nil => exact .inr he
    | cons first rest ih =>
      rcases ih _ he with he | he
      · exact .inl (List.mem_cons_of_mem first he)
      · rcases List.mem_cons.1 he with rfl | he
        · exact .inl List.mem_cons_self
        · exact .inr (List.mem_filter.1 he).1
  rcases fold empty h with he | he
  · exact he
  · cases he

structure OnRoutes (P : Route → Handler → Prop) : Prop where
  login : P Route.login Authentication.login
  silentLogin : P Route.silentLogin Authentication.silentLogin
  logout : P Route.logout Authentication.logout
  listEntitlements : P Route.listEntitlements Authentication.listEntitlements
  preAuth : P Route.preAuth Utility.preAuth
  postAuth : P Route.postAuth Utility.postAuth
  ping : P Route.ping Utility.ping
  fetchClientConfig : P Route.fetchClientConfig Utility.fetchClientConfig
  saveSetting : P Route.saveSetting Utility.saveSetting
  loadSettings : P Route.loadSettings Utility.loadSettings
  updateNetworkInfo : P Route.updateNetworkInfo Presence.updateNetworkInfo
  updateHardwareFlags : P Route.updateHardwareFlags Presence.updateHardwareFlags
  createGame : P Route.createGame Games.createGame
  setAttributes : P Route.setGameAttributes Games.setAttributes
  advanceState : P Route.advanceGameState Games.advanceState
  setSettings : P Route.setGameSettings Games.setSettings
  removePlayer : P Route.removePlayer Games.removePlayer
  startMatchmaking : P Route.startMatchmaking Games.startMatchmaking
  cancelMatchmaking : P Route.cancelMatchmaking Games.cancelMatchmaking
  updateMeshConnection : P Route.updateMeshConnection Games.updateMeshConnection

theorem OnRoutes.standard {P : Route → Handler → Prop} (h : OnRoutes P) :
    ∀ e ∈ standard.handlers, P e.1 e.2 := by
  intro e he
  have mem := mem_ofList he
  simp only [List.mem_cons, List.not_mem_nil, or_false] at mem
  rcases mem with rfl | rfl | rfl | rfl | rfl | rfl | rfl | rfl | rfl | rfl |
    rfl | rfl | rfl | rfl | rfl | rfl | rfl | rfl | rfl | rfl
  · exact h.login
  · exact h.silentLogin
  · exact h.logout
  · exact h.listEntitlements
  · exact h.preAuth
  · exact h.postAuth
  · exact h.ping
  · exact h.fetchClientConfig
  · exact h.saveSetting
  · exact h.loadSettings
  · exact h.updateNetworkInfo
  · exact h.updateHardwareFlags
  · exact h.createGame
  · exact h.setAttributes
  · exact h.advanceState
  · exact h.setSettings
  · exact h.removePlayer
  · exact h.startMatchmaking
  · exact h.cancelMatchmaking
  · exact h.updateMeshConnection

/-- The handler that a router finds for a request is one for its route. -/
theorem meets_handler? {r : Router} {R : Server → SessionId → Packet → Outcome × Server → Prop}
    (served : ∀ e ∈ r.handlers, e.2.Meets R e.1) {request : Packet} {handler : Handler}
    (found : r.handler? request.header.route = some handler) (server : Server)
    (session : SessionId) : R server session request (handler server session request) := by
  obtain ⟨e, first, rfl⟩ := Option.map_eq_some_iff.1 found
  have route : e.1 = request.header.route := by simpa using List.find?_some first
  exact served e (List.mem_of_find?_eq_some first) server session request route.symm

/-- Besides what its handlers do, a router only counts. -/
theorem dispatch_cases (r : Router) (server : Server) (session : SessionId) (request : Packet) :
    (r.handler? request.header.route = none ∧
        r.dispatch server session request =
          ([request.emptyResponse], server.count Metrics.unknownCommand)) ∨
      ∃ handler, r.handler? request.header.route = some handler ∧
        ((∃ replies, (handler server session request).1 = .replied replies ∧
            r.dispatch server session request =
              (replies, (handler server session request).2)) ∨
          (∃ cause, (handler server session request).1 = .refused cause ∧
            r.dispatch server session request = ((refuse request cause).1,
              (handler server session request).2.count (refuse request cause).2)) ∨
          ∃ text, (handler server session request).1 = .crashed text ∧
            r.dispatch server session request = ([request.emptyResponse],
              (handler server session request).2.count Metrics.handlerFailure)) := by
  rw [dispatch]
  cases route : r.handler? request.header.route with
  | none => exact .inl ⟨rfl, rfl⟩
  | some handler =>
    refine .inr ⟨handler, rfl, ?_⟩
    dsimp only
    obtain ⟨outcome, after⟩ := handler server session request
    cases outcome with
    | replied replies => exact .inl ⟨replies, rfl, rfl⟩
    | refused cause => exact .inr (.inl ⟨cause, rfl, rfl⟩)
    | crashed text => exact .inr (.inr ⟨text, rfl, rfl⟩)

/-- What every handler does to a server, and counting keeps, a request does. -/
theorem meets_dispatch {r : Router} {R : Server → SessionId → Packet → Server → Prop}
    (served : ∀ e ∈ r.handlers,
      e.2.Meets (fun server session request result => R server session request result.2) e.1)
    (refused : ∀ server session request, R server session request server)
    (counted : ∀ server session request after f, R server session request after →
      R server session request (after.count f))
    (server : Server) (session : SessionId) (request : Packet) :
    R server session request (r.dispatch server session request).2 := by
  rcases r.dispatch_cases server session request with ⟨-, result⟩ | ⟨handler, found, cases⟩
  · rw [result]
    exact counted server session request server _ (refused server session request)
  · have does := meets_handler? served found server session
    rcases cases with ⟨_, -, result⟩ | ⟨_, -, result⟩ | ⟨_, -, result⟩ <;> rw [result]
    · exact does
    · exact counted server session request _ _ does
    · exact counted server session request _ _ does

theorem does_dispatch {r : Router} {R : Server → SessionId → Server → Prop}
    (served : ∀ e ∈ r.handlers, e.2.Does R) (refused : ∀ server session, R server session server)
    (counted : ∀ server session after f, R server session after →
      R server session (after.count f))
    (server : Server) (session : SessionId) (request : Packet) :
    R server session (r.dispatch server session request).2 :=
  meets_dispatch (R := fun server session _ after => R server session after)
    (fun e he => served e he e.1) (fun server session _ => refused server session)
    (fun server session _ => counted server session) server session request

end Router

end Lobby
