import Lobby.Request.Authentication
import Lobby.Request.Games
import Lobby.Request.Presence
import Lobby.Request.Utility

/-!
# Routing requests

The router finds the handler of a request by its route and turns the outcome into the packets that
are written back.  Every request is answered: one that no route serves, that fails for a cause
without a code, or whose handler breaks down gets an empty reply, and is counted.
-/

namespace Lobby

/-- Handlers by route.  Each route is there once. -/
structure Router where
  handlers : List (Route × Handler)

namespace Router

def empty : Router := ⟨[]⟩

/-- Adds a handler in the place of an earlier one for its route. -/
def add (r : Router) (route : Route) (handler : Handler) : Router :=
  ⟨(route, handler) :: r.handlers.filter (·.1 ≠ route)⟩

def handler? (r : Router) (route : Route) : Option Handler :=
  (r.handlers.find? (·.1 = route)).map (·.2)

def hasRoute (r : Router) (route : Route) : Bool := (r.handler? route).isSome

/-- The number of routes. -/
def size (r : Router) : Nat := r.handlers.length

def ofList (handlers : List (Route × Handler)) : Router :=
  handlers.foldl (fun r h => r.add h.1 h.2) empty

/-- The routes of the server. -/
def standard : Router :=
  ofList
    [(Route.login, Authentication.login), (Route.silentLogin, Authentication.silentLogin),
      (Route.logout, Authentication.logout),
      (Route.listEntitlements, Authentication.listEntitlements),
      (Route.preAuth, Utility.preAuth), (Route.postAuth, Utility.postAuth),
      (Route.ping, Utility.ping), (Route.fetchClientConfig, Utility.fetchClientConfig),
      (Route.saveSetting, Utility.saveSetting), (Route.loadSettings, Utility.loadSettings),
      (Route.updateNetworkInfo, Presence.updateNetworkInfo),
      (Route.updateHardwareFlags, Presence.updateHardwareFlags),
      (Route.createGame, Games.createGame), (Route.setGameAttributes, Games.setAttributes),
      (Route.advanceGameState, Games.advanceState), (Route.setGameSettings, Games.setSettings),
      (Route.removePlayer, Games.removePlayer),
      (Route.startMatchmaking, Games.startMatchmaking),
      (Route.cancelMatchmaking, Games.cancelMatchmaking),
      (Route.updateMeshConnection, Games.updateMeshConnection)]

/-- A summary in one line. -/
def describe (r : Router) : String := "Dispatcher \x7b routes: " ++ toString r.size ++ " \x7d"

/-- The packets that answer a refused request, and the counter that grows. -/
def refuse (request : Packet) (cause : Refusal) : List Packet × (Metrics → Metrics) :=
  match cause with
  | .notAuthenticated =>
    ([request.emptyRefusal RefusalCode.invalidAccount.number], Metrics.authRejected)
  | cause =>
    match cause.code? with
    | some code => ([request.emptyRefusal code.number], Metrics.domainError)
    | none => ([request.emptyResponse], Metrics.handlerFailure)

/-- Answers a request of a session. -/
def dispatch (r : Router) (server : Server) (session : SessionId) (request : Packet) :
    List Packet × Server :=
  match r.handler? request.header.route with
  | none => ([request.emptyResponse], server.count Metrics.unknownCommand)
  | some handler =>
    match handler server session request with
    | (.replied replies, server) => (replies, server)
    | (.refused cause, server) =>
      let (replies, counted) := refuse request cause
      (replies, server.count counted)
    | (.crashed _, server) => ([request.emptyResponse], server.count Metrics.handlerFailure)

end Router

end Lobby
