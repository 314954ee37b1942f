import Lobby.Proofs.Request.Ledger

/-!
# Replies are paired with requests

Whatever the state of the server and whatever the packet says, a request is answered by one packet
with its route and its id, which is a response or, with the code of the cause, an error.  Only a
login that succeeds is answered by more: the two notices that describe the new identity.  What is
counted tells apart why a request failed.

The table of causes is `Refusal.report`, the shape of an answer is `Server.Pairs`.
-/

namespace Lobby

def Header.reply (h : Header) : Option RefusalCode → Header
  | none => ⟨h.component, h.command, 0, .response, h.id⟩
  | some code => ⟨h.component, h.command, code.number, .error, h.id⟩

def Refusal.report (t : Tally) : Refusal → Option RefusalCode × Tally
  | .notAuthenticated =>
    (some .invalidAccount, { t with unauthenticated := t.unauthenticated + 1 })
  | .coded code => (some code, { t with coded := t.coded + 1 })
  | .store (.unavailable _) => (some .serverUnavailable, { t with coded := t.coded + 1 })
  | .failed (.gameNotFound _) => (some .gameNotFound, { t with coded := t.coded + 1 })
  | .failed (.gameFull _) => (some .gameFull, { t with coded := t.coded + 1 })
  | _ => (none, { t with failed := t.failed + 1 })

namespace Server

/-- The notices that tell a session who it is, after it has been logged in to an account. -/
def Identifies (s : Server) (session : SessionId) (after : Server) (notices : List Packet) : Prop :=
  ∃ account ∈ s.store.accounts.values, ∃ added updated,
    after.session session = { s.session session with player := some account.player } ∧
      (after.session session).added? = some added ∧ added.header = ⟨0x7802, 0x2, 0, .unique, 0⟩ ∧
      (after.session session).updated? = some updated ∧
      updated.header = ⟨0x7802, 0x1, 0, .unique, 0⟩ ∧ notices = [added, updated]

/-- The packets that answer a request that was not refused: one reply, and notices after a login. -/
def Serves (s : Server) (session : SessionId) (request : Packet) (after : Server)
    (replies : List Packet) : Prop :=
  ∃ reply notices, replies = reply :: notices ∧ reply.header = request.header.reply none ∧
    if request.header.route = Route.login ∨ request.header.route = Route.silentLogin then
      s.Identifies session after notices
    else notices = []

/-- What a request is answered with, and what is counted of it. -/
def Pairs (s : Server) (session : SessionId) (request : Packet) (answer : List Packet × Server) :
    Prop :=
  let h := request.header
  let t := s.metrics.tally
  match Router.standard.handler? h.route with
  | none =>
    answer.1 = [.received (h.reply none) []] ∧
      answer.2.metrics.tally = { t with unknown := t.unknown + 1 }
  | some handler =>
    match (handler s session request).1 with
    | .refused cause =>
      answer.1 = [.received (h.reply (cause.report t).1) []] ∧
        answer.2.metrics.tally = (cause.report t).2
    | .replied _ => s.Serves session request answer.2 answer.1 ∧ answer.2.metrics.tally = t
    -- no handler breaks down
    | .crashed _ => False

end Server

open Server

/-! ### What handlers reply -/

/-- A handler does not break down, and serves a session that is there. -/
def Server.Replies (s : Server) (session : SessionId) (request : Packet)
    (result : Outcome × Server) : Prop :=
  (s.sessions.get? session).isSome = true →
    match result.1 with
    | .replied replies => s.Serves session request result.2 replies
    | .refused _ => True
    | .crashed _ => False

namespace Handler

variable {route : Route}

theorem replies_refused (s : Server) (session : SessionId) (request : Packet) (cause : Refusal) :
    s.Replies session request (.refused cause, s) := fun _ => trivial

/-- A single reply is enough, but for a login. -/
theorem replies_one {s t : Server} {session : SessionId} {request reply : Packet}
    (here : request.header.route = route) (other : route ≠ Route.login ∧ route ≠ Route.silentLogin)
    (header : reply.header = request.header.reply none) :
    s.Replies session request (.replied [reply], t) := by
  refine fun _ => ⟨reply, [], rfl, header, ?_⟩
  rw [here, if_neg (not_or.2 other)]

theorem replies_acting {α : Type} {check : Check α} {act : Server → SessionId → α → Server}
    (other : route ≠ Route.login ∧ route ≠ Route.silentLogin) :
    Meets Replies route (acting check act) :=
  meets_acting replies_refused fun _ _ _ _ here _ => replies_one here other rfl

theorem replies_answering {check : Check Content}
    (other : route ≠ Route.login ∧ route ≠ Route.silentLogin) :
    Meets Replies route (answering check) :=
  meets_answering replies_refused fun _ _ _ _ here _ => replies_one here other rfl

end Handler

open Handler

namespace Authentication

theorem session_setPlayer {s : Server} {session : SessionId}
    (there : (s.sessions.get? session).isSome = true) (player : Option Player) :
    (s.setPlayer session player).session session = { s.session session with player } := by
  obtain ⟨x, found⟩ := Option.isSome_iff_exists.1 there
  simp [Server.session, setPlayer, get?_updateSession, found]

/-- Of a session that is logged in there are notices. -/
theorem exists_notices {x : Session} {player : Player} (login : x.player = some player) :
    ∃ added updated, x.added? = some added ∧ added.header = ⟨0x7802, 0x2, 0, .unique, 0⟩ ∧
      x.updated? = some updated ∧ updated.header = ⟨0x7802, 0x1, 0, .unique, 0⟩ := by
  rw [Session.added?, Session.updated?, login]
  exact ⟨_, _, rfl, rfl, rfl, rfl⟩

theorem replies_complete {s : Server} {session : SessionId} {request : Packet} {a : Account}
    (login : request.header.route = Route.login ∨ request.header.route = Route.silentLogin)
    (account : a ∈ s.store.accounts.values) :
    s.Replies session request (complete s session request a) := by
  refine fun there => ⟨request.response (loginRecords a), _, rfl, rfl, ?_⟩
  rw [if_pos login]
  have identity : (complete s session request a).2.session session = _ :=
    session_setPlayer there (some a.player)
  obtain ⟨added, updated, introduced, addedHeader, reported, updatedHeader⟩ :=
    exists_notices (congrArg Session.player identity)
  refine ⟨a, account, added, updated, identity, introduced, addedHeader, reported,
    updatedHeader, ?_⟩
  show ((complete s session request a).2.session session).added?.toList ++
    ((complete s session request a).2.session session).updated?.toList = _
  rw [introduced, reported]
  rfl

theorem replies_login : login.Meets Replies Route.login :=
  meets_checked replies_refused fun _ _ _ _ here passed =>
    replies_complete (.inl here) (mem_of_checkPassword passed)

theorem replies_silentLogin : silentLogin.Meets Replies Route.silentLogin :=
  meets_checked replies_refused fun _ _ _ _ here passed =>
    replies_complete (.inr here) (mem_of_checkToken passed)

end Authentication

theorem Utility.replies_ping : ping.Meets Replies Route.ping :=
  fun _ _ _ here => replies_one here (by decide) rfl

namespace Games

theorem replies_createGame : createGame.Meets Replies Route.createGame := by
  refine meets_checked replies_refused ?_
  rintro s session request ⟨attributes, setting⟩ here -
  dsimp only
  split
  · exact fun _ => trivial
  · exact replies_one here (by decide) rfl

theorem replies_startMatchmaking : startMatchmaking.Meets Replies Route.startMatchmaking := by
  refine meets_checked replies_refused ?_
  intro s session request rules here _
  have one (t : Server) : s.Replies session request
      (.replied [request.response [.nat Field.msid session.toNat]], t) :=
    replies_one here (by decide) rfl
  dsimp only
  split
  · exact one _
  · split
    · exact one _
    · exact one _
    · exact one _
    · exact one _
    · exact fun _ => trivial

end Games

/-! ### All routes -/

theorem Router.replies_routes : OnRoutes fun route h => h.Meets Replies route where
  login := Authentication.replies_login
  silentLogin := Authentication.replies_silentLogin
  logout := replies_acting (by decide)
  listEntitlements := replies_answering (by decide)
  preAuth := replies_answering (by decide)
  postAuth := replies_answering (by decide)
  ping := Utility.replies_ping
  fetchClientConfig := replies_answering (by decide)
  saveSetting := replies_acting (by decide)
  loadSettings := replies_answering (by decide)
  updateNetworkInfo := replies_acting (by decide)
  updateHardwareFlags := replies_acting (by decide)
  createGame := Games.replies_createGame
  setAttributes := replies_acting (by decide)
  advanceState := replies_acting (by decide)
  setSettings := replies_acting (by decide)
  removePlayer := replies_acting (by decide)
  startMatchmaking := Games.replies_startMatchmaking
  cancelMatchmaking := replies_acting (by decide)
  updateMeshConnection := replies_acting (by decide)

/-- A refusal is answered and counted by the table. -/
theorem Router.refuse_report (request : Packet) (cause : Refusal) (m : Metrics) :
    (refuse request cause).1 = [.received (request.header.reply (cause.report m.tally).1) []] ∧
      ((refuse request cause).2 m).tally = (cause.report m.tally).2 := by
  cases cause with
  | store cause => cases cause with | unavailable text => exact ⟨rfl, rfl⟩
  | failed cause => cases cause <;> exact ⟨rfl, rfl⟩
  | _ => exact ⟨rfl, rfl⟩

/-- **Every request of a session that is there gets exactly one paired reply**, whatever the state
of the server and whatever the packet. -/
theorem Router.pairs_dispatch (s : Server) {session : SessionId}
    (there : (s.sessions.get? session).isSome = true) (request : Packet) :
    s.Pairs session request (standard.dispatch s session request) := by
  rw [Pairs]
  rcases standard.dispatch_cases s session request with ⟨missing, result⟩ | ⟨handler, found, cases⟩
  · rw [missing, result]
    exact ⟨rfl, rfl⟩
  · have replies := meets_handler? replies_routes.standard found s session there
    have books := meets_handler? books_routes.standard found s session
    have tally : (handler s session request).2.metrics.tally = s.metrics.tally :=
      Ledger.Entries.tally books
    rw [found]
    dsimp only
    rcases cases with ⟨_, outcome, result⟩ | ⟨cause, outcome, result⟩ | ⟨_, outcome, -⟩
    · rw [outcome] at replies ⊢
      rw [result]
      exact ⟨replies, tally⟩
    · have report := refuse_report request cause (handler s session request).2.metrics
      rw [tally] at report
      rw [outcome, result]
      exact report
    · rw [outcome] at replies
      exact replies.elim

/-- A player logs in, and then asks for a game that is not there. -/
theorem Router.pairs_dispatch_login :
    let account : Account := ⟨⟨1, "a@b"⟩, "a@b", "word", "token"⟩
    let store : Store := ⟨.ofList [(1, account)], ∅, ∅, 2, true⟩
    let login : Packet :=
      .request Route.login 7 [.string Field.mail "a@b", .string Field.pass "word"]
    let change : Packet := .request Route.advanceGameState 8 [.nat Field.gid 5]
    let s := (start store).after (.connect none)
    let t := (standard.dispatch s 1 login).2
    (s.sessions.get? 1).isSome = true ∧ (t.sessions.get? 1).isSome = true ∧
      s.Pairs 1 login (standard.dispatch s 1 login) ∧
      t.Pairs 1 change (standard.dispatch t 1 change) ∧
      (standard.dispatch s 1 login).1.map (·.header) =
        [⟨0x1, 0x28, 0, .response, 7⟩, ⟨0x7802, 0x2, 0, .unique, 0⟩,
          ⟨0x7802, 0x1, 0, .unique, 0⟩] ∧
      (standard.dispatch t 1 change).1.map (·.header) = [⟨0x4, 0x3, 0x2, .error, 8⟩] := by
  intro account store login change s t
  have there : (s.sessions.get? 1).isSome = true := by decide +kernel
  have still : (t.sessions.get? 1).isSome = true := by decide +kernel
  exact ⟨there, still, pairs_dispatch s there login, pairs_dispatch t still change,
    by decide +kernel, by decide +kernel⟩

end Lobby
