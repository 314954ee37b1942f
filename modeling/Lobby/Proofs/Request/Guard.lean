import Lobby.Proofs.Request.Handler
import Lobby.Proofs.Server.Run

/-!
# Requests that take a login

Thirteen routes take a login, and each of their handlers asks for it before it looks at anything
else: not at the content of the request, not at the games, not at the store.  So a session that is
not logged in gets the same refusal whatever it sends and whatever the server holds, and nothing but
a counter moves (`Router.dispatch_guarded`).

`check.Guarded` says that a check is refused for the missing login alone.  A check is guarded as
soon as its first step is.
-/

namespace Lobby

def Route.guarded : List Route :=
  [Route.createGame, Route.setGameAttributes, Route.advanceGameState, Route.setGameSettings,
    Route.removePlayer, Route.startMatchmaking, Route.cancelMatchmaking,
    Route.updateMeshConnection, Route.logout, Route.listEntitlements, Route.postAuth,
    Route.saveSetting, Route.loadSettings]

namespace Check

/-- Without a login the check fails for that reason, whatever the rest of the request. -/
def Guarded {α : Type} (check : Check α) : Prop :=
  ∀ server session request, (server.session session).player = none →
    check server session request = .error .notAuthenticated

theorem guarded_player : Check.player.Guarded := by
  intro server session request out
  rw [Check.player, out]

/-- What comes after a guarded step is not reached. -/
theorem Guarded.bind {α β : Type} {check : Check α} (h : check.Guarded)
    (next : Server → SessionId → Packet → α → Except Refusal β) :
    Check.Guarded fun server session request =>
      check server session request >>= next server session request := by
  intro server session request out
  dsimp only
  rw [h server session request out]
  rfl

end Check

namespace Handler

/-- Without a login the handler refuses for that reason and changes nothing. -/
def Guarded (h : Handler) : Prop :=
  ∀ server session request, (server.session session).player = none →
    h server session request = (.refused .notAuthenticated, server)

theorem guarded_checked {α : Type} {check : Check α} (h : check.Guarded)
    (act : Server → SessionId → Packet → α → Outcome × Server) : (checked check act).Guarded := by
  intro server session request out
  rw [checked, h server session request out]

theorem guarded_acting {α : Type} {check : Check α} (h : check.Guarded)
    (act : Server → SessionId → α → Server) : (acting check act).Guarded :=
  guarded_checked h _

theorem guarded_answering {check : Check Content} (h : check.Guarded) :
    (answering check).Guarded :=
  guarded_checked h _

end Handler

section Checks

open Check

theorem Games.guarded_checkGame : Check.Guarded Games.checkGame := guarded_player.bind _

theorem Games.guarded_checkNumber (label : Label) : (Games.checkNumber label).Guarded :=
  Games.guarded_checkGame.bind _

end Checks

namespace Router

open Handler Check Games in
/-- Every handler of a route that takes a login asks for it first. -/
theorem guarded_routes : OnRoutes fun route h => route ∈ Route.guarded → h.Guarded where
  login served := absurd served (by decide)
  silentLogin served := absurd served (by decide)
  logout _ := guarded_acting guarded_player _
  listEntitlements _ := guarded_answering (guarded_player.bind _)
  preAuth served := absurd served (by decide)
  postAuth _ := guarded_answering (guarded_player.bind _)
  ping served := absurd served (by decide)
  fetchClientConfig served := absurd served (by decide)
  saveSetting _ := guarded_acting (guarded_player.bind _) _
  loadSettings _ := guarded_answering (guarded_player.bind _)
  updateNetworkInfo served := absurd served (by decide)
  updateHardwareFlags served := absurd served (by decide)
  createGame _ := guarded_checked (guarded_player.bind _) _
  setAttributes _ := guarded_acting (guarded_checkGame.bind _) _
  advanceState _ := guarded_acting (guarded_checkNumber _) _
  setSettings _ := guarded_acting (guarded_checkNumber _) _
  removePlayer _ := guarded_acting (guarded_player.bind _) _
  startMatchmaking _ := guarded_checked (guarded_player.bind _) _
  cancelMatchmaking _ := guarded_acting guarded_player _
  updateMeshConnection _ := guarded_acting (guarded_checkGame.bind _) _

theorem handler?_guarded {route : Route} (guarded : route ∈ Route.guarded) :
    (standard.handler? route).isSome = true := by
  have all : Route.guarded.all standard.hasRoute = true := by decide
  exact List.all_eq_true.1 all route guarded

/-- **Who is not logged in learns and changes nothing.**  Such a session gets one refusal without
content from each route that takes a login, with the number of an invalid account and the route and
the id of the request.  It depends on nothing else, neither on the content of the request nor on the
state of the server, so two servers and two requests cannot be told apart by their replies.  No
session is sent anything, and only the counter of such refusals grows. -/
theorem dispatch_guarded (server : Server) (session : SessionId) (request : Packet)
    (guarded : request.header.route ∈ Route.guarded)
    (out : (server.session session).player = none) :
    standard.dispatch server session request =
        ([{ header := {
              component := request.header.component
              command := request.header.command
              error := 0x11
              kind := .error
              id := request.header.id }
            contents := []
            known := none }],
          { server with metrics :=
              { server.metrics with
                authRejections := server.metrics.authRejections + 1 } }) ∧
      (∀ id, ((standard.dispatch server session request).2.session id).outbox =
        (server.session id).outbox) ∧
      ∀ (other : Server) (stranger : SessionId) (twin : Packet),
        (other.session stranger).player = none →
        twin.header.route = request.header.route → twin.header.id = request.header.id →
          (standard.dispatch other stranger twin).1 =
            (standard.dispatch server session request).1 := by
  have refused (server : Server) (session : SessionId) (request : Packet)
      (guarded : request.header.route ∈ Route.guarded)
      (out : (server.session session).player = none) :
      standard.dispatch server session request =
        ([request.emptyRefusal RefusalCode.invalidAccount.number],
          server.count Metrics.authRejected) := by
    obtain ⟨handler, found⟩ := Option.isSome_iff_exists.1 (handler?_guarded guarded)
    obtain ⟨e, first, rfl⟩ := Option.map_eq_some_iff.1 found
    have route : e.1 = request.header.route := by simpa using List.find?_some first
    have asks := guarded_routes.standard e (List.mem_of_find?_eq_some first) (route ▸ guarded)
    rw [dispatch, found]
    dsimp only
    rw [asks server session request out]
    rfl
  refine ⟨refused server session request guarded out, fun id => ?_,
    fun other stranger twin out' sameRoute sameId => ?_⟩
  · rw [refused server session request guarded out]
    rfl
  · obtain ⟨component, command⟩ := Prod.mk.inj sameRoute
    rw [refused server session request guarded out,
      refused other stranger twin (sameRoute ▸ guarded) out']
    simp only [Packet.emptyRefusal, Header.refusal, component, command, sameId]

/-- A removal from the game that is there, from one that is not, and content that cannot be read: a
session without a login is told the same of all three. -/
theorem dispatch_guarded_removal :
    let account : Account := ⟨⟨1, "a@b"⟩, "a@b", "word", "token"⟩
    let server : Server := (Server.start ⟨.ofList [(1, account)], ∅, ∅, 2, true⟩).run
      [.connect none, .connect none, .request 1 (.request Route.login 0
          [.string Field.mail "a@b", .string Field.pass "word"]),
        .request 1 (.request Route.createGame 0 [])]
    let remove (game : Nat) : Packet :=
      .request Route.removePlayer 7 [.nat Field.gid game, .nat Field.pid 1]
    let unreadable : Packet := .received ⟨4, 11, 3, .other 0x55, 7⟩ [1, 2]
    (server.findGame? 1).isSome = true ∧ (server.findGame? 2).isSome = false ∧
      unreadable.records = .error .unexpectedEnd ∧
      (standard.dispatch server 2 (remove 1)).2.metrics.authRejections = 1 ∧
      (standard.dispatch server 2 (remove 2)).1 = (standard.dispatch server 2 (remove 1)).1 ∧
      (standard.dispatch server 2 unreadable).1 = (standard.dispatch server 2 (remove 1)).1 := by
  intro account server remove unreadable
  have out : (server.session 2).player = none := by decide +kernel
  have guarded (game : Nat) : (remove game).header.route ∈ Route.guarded := by
    show Route.removePlayer ∈ Route.guarded
    decide
  obtain ⟨refused, -, same⟩ := dispatch_guarded server 2 (remove 1) (guarded 1) out
  refine ⟨by decide +kernel, by decide +kernel, by rfl, ?_, same server 2 (remove 2) out rfl rfl,
    same server 2 unreadable out rfl rfl⟩
  rw [refused]
  decide +kernel

end Router

end Lobby
