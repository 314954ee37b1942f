import Lobby.Proofs.Request.Deeds
import Lobby.Proofs.Server.Joining

/-!
# Refused requests

A request that is refused changes nothing but one counter.  Most handlers check a request as a whole
before they act, and cannot refuse it afterwards.  Two of them act first, on what may still fail:
one leaves everything and then creates a game, the other leaves everything and then joins one.  A
session that has left everything is free and is logged in as before, so neither can fail in a way
that is refused.

A number that is out of range is found by the check, so it is never acted on.
-/

namespace Lobby

/-! ### Numbers in requests -/

/-- The numbers in the requests of a route, each with the limit that it must be below. -/
def Route.numbers (route : Route) : List (Label × Nat) :=
  if route = Route.silentLogin then [(Field.pid, UInt32.size)]
  else if route = Route.updateHardwareFlags then [(Field.hwfg, UInt16.size)]
  else if route = Route.createGame then [(Field.gset, UInt16.size)]
  else if route = Route.setGameAttributes then [(Field.gid, UInt32.size)]
  else if route = Route.updateMeshConnection then [(Field.gid, UInt32.size)]
  else if route = Route.advanceGameState then
    [(Field.gid, UInt32.size), (Field.gsta, UInt16.size)]
  else if route = Route.setGameSettings then [(Field.gid, UInt32.size), (Field.gset, UInt16.size)]
  else if route = Route.removePlayer then [(Field.gid, UInt32.size), (Field.pid, UInt32.size)]
  else []

/-- One of the two addresses in the content has a number that is out of range. -/
def Content.HasWildAddress (content : Content) : Prop :=
  ∃ d pair, (content.field? Field.addr).map Record.value =
      some (.union d (.mk Field.valu (.group pair))) ∧
    ∃ place ∈ [Field.inip, Field.exip], ∃ endpoint,
      Content.group? pair.fields place = some endpoint ∧
        (Content.Exceeds endpoint.fields Field.ip UInt32.size ∨
          Content.Exceeds endpoint.fields Field.port UInt16.size)

def Packet.Overflows (request : Packet) : Prop :=
  ∃ content, request.records = .ok content ∧
    ((∃ n ∈ request.header.route.numbers, content.Exceeds n.1 n.2) ∨
      request.header.route = Route.updateNetworkInfo ∧ content.HasWildAddress)

namespace Packet

variable {request : Packet} {route : Route}

theorem not_overflows (here : request.header.route = route)
    (other : route ≠ Route.updateNetworkInfo)
    {content : Content} (records : request.records = .ok content)
    (fits : ∀ n ∈ route.numbers, ¬content.Exceeds n.1 n.2) : ¬request.Overflows := by
  rintro ⟨_, same, ⟨n, hn, exceeds⟩ | ⟨route, -⟩⟩
  · rw [records] at same
    cases same
    rw [here] at hn
    exact fits n hn exceeds
  · exact other (here.symm.trans route)

/-- Without numbers there is nothing to be out of range. -/
theorem not_overflows_of_nil (here : request.header.route = route)
    (other : route ≠ Route.updateNetworkInfo) (none : route.numbers = []) :
    ¬request.Overflows := by
  rintro ⟨_, -, ⟨n, hn, -⟩ | ⟨route, -⟩⟩
  · rw [here, none] at hn
    cases hn
  · exact other (here.symm.trans route)

end Packet

namespace Network

theorem not_exceeds_of_read {pair : Content} {place : Label} {e : Endpoint} {endpoint : Group}
    (read : Endpoint.read pair place = .ok e) (found : pair.group? place = some endpoint) :
    ¬(Content.Exceeds endpoint.fields Field.ip UInt32.size ∨
      Content.Exceeds endpoint.fields Field.port UInt16.size) := by
  obtain ⟨group, required, h⟩ := bind_eq_ok read
  rw [Content.requireGroup, found] at required
  cases required
  obtain ⟨ip, ipRead, h⟩ := bind_eq_ok h
  obtain ⟨port, portRead, h⟩ := bind_eq_ok h
  exact not_or.2
    ⟨Content.not_exceeds_of_uint32 ipRead, Content.not_exceeds_of_uint16 portRead⟩

/-- Addresses that can be read have all numbers in range. -/
theorem not_wild_of_read {content : Content} {union : Option (Discriminant × Record)}
    {network : Network}
    (found : ((content.field? Field.addr).bind fun r => r.value.toUnion?) = some union)
    (read : Network.read union = .ok network) : ¬content.HasWildAddress := by
  rintro ⟨d, pair, value, place, inside, endpoint, group, wild⟩
  obtain ⟨r, field, value⟩ := Option.map_eq_some_iff.1 value
  rw [field, Option.bind_some, value] at found
  cases found
  rw [Network.read, if_pos rfl] at read
  obtain ⟨internal, inner, h⟩ := bind_eq_ok read
  obtain ⟨external, outer, h⟩ := bind_eq_ok h
  simp only [List.mem_cons, List.not_mem_nil, or_false] at inside
  rcases inside with rfl | rfl
  · exact not_exceeds_of_read inner group wild
  · exact not_exceeds_of_read outer group wild

end Network

/-! ### Free sessions are not refused -/

namespace Server

variable {s : Server}

/-- A session that is logged in and not in a game creates one. -/
theorem createGame_of_free {host : SessionId} (free : s.seating.seat host = none)
    (login : (s.session host).player.isSome = true) (attributes : Attributes) (setting : UInt16) :
    ∃ id, (s.createGame host attributes setting).1 = .ok id := by
  obtain ⟨player, login⟩ := Option.isSome_iff_exists.1 login
  have same : s.evict.session host = s.session host := rfl
  obtain ⟨linked, claimed⟩ := claim_of_free (s := s.evict) free ⟨1 + s.evict.created, 0⟩
  refine ⟨1 + s.created, ?_⟩
  simp only [createGame, same, login, claimed]
  rfl

/-- A session that is logged in is kept out of a game only by the game, or by another one. -/
theorem join_of_login {i : GameId} {session : SessionId} {context : JoinContext} {cause : Error}
    (login : (s.session session).player.isSome = true)
    (failed : (s.join i session context).1 = .error cause) :
    cause = .gameNotFound i ∨ cause = .gameFull i ∨
      ∃ other, cause = .alreadyInGame session other := by
  have refused : s.admission i session = .error cause := by
    rw [join] at failed
    split at failed
    · next granted =>
      cases failed
      exact granted
    · cases failed
    · cases failed
  rw [admission] at refused
  split at refused
  · next nobody =>
    rw [nobody] at login
    cases login
  · cases refused
    exact .inl rfl
  · split at refused
    · cases refused
      exact .inl rfl
    · split at refused
      · cases refused
      · split at refused
        · cases refused
          exact .inr (.inl rfl)
        · simp only at refused
          split at refused
          · cases refused
            exact .inr (.inr ⟨_, rfl⟩)
          · cases refused

end Server

/-! ### Handlers -/

/-- A request of a session that is there, in a coherent seating.  If it is refused nothing has
changed, and it is refused if one of its numbers is out of range. -/
def Server.Spares (s : Server) (session : SessionId) (request : Packet)
    (result : Outcome × Server) : Prop :=
  s.seating.Coherent → s.seating.present session = true →
    (∀ cause, result.1 = .refused cause → result.2 = s) ∧
      (request.Overflows → ∃ cause, result.1 = .refused cause)

abbrev Handler.Spares (route : Route) (h : Handler) : Prop := h.Meets Server.Spares route

open Server

namespace Handler

variable {route : Route}

theorem spares_refused (s : Server) (session : SessionId) (request : Packet) (cause : Refusal) :
    s.Spares session request (.refused cause, s) :=
  fun _ _ => ⟨fun _ _ => rfl, fun _ => ⟨cause, rfl⟩⟩

theorem spares_replied {s after : Server} {session : SessionId} {request : Packet}
    {replies : List Packet} (fits : ¬request.Overflows) :
    s.Spares session request (.replied replies, after) :=
  fun _ _ => ⟨nofun, fun wild => absurd wild fits⟩

theorem spares_acting {α : Type} {check : Check α} {act : Server → SessionId → α → Server}
    (fits : ∀ server session request found, request.header.route = route →
      check server session request = .ok found → ¬request.Overflows) :
    Spares route (acting check act) :=
  meets_acting spares_refused fun server session request found here passed =>
    spares_replied (fits server session request found here passed)

/-- Requests of routes without numbers. -/
theorem spares_acting_of_nil {α : Type} {check : Check α} {act : Server → SessionId → α → Server}
    (other : route ≠ Route.updateNetworkInfo) (none : route.numbers = []) :
    Spares route (acting check act) :=
  spares_acting fun _ _ _ _ here _ => Packet.not_overflows_of_nil here other none

theorem spares_answering_of_nil {check : Check Content} (other : route ≠ Route.updateNetworkInfo)
    (none : route.numbers = []) : Spares route (answering check) :=
  meets_answering spares_refused fun _ _ _ _ here _ =>
    spares_replied (Packet.not_overflows_of_nil here other none)

end Handler

open Handler

namespace Authentication

theorem spares_login : login.Spares Route.login :=
  meets_checked spares_refused fun _ _ _ _ here _ =>
    spares_replied (Packet.not_overflows_of_nil here (by decide) rfl)

theorem spares_silentLogin : silentLogin.Spares Route.silentLogin := by
  refine meets_checked spares_refused fun _ _ _ _ here passed => spares_replied ?_
  obtain ⟨content, id, records, number, -⟩ := checkToken_eq_ok passed
  refine Packet.not_overflows here (by decide) records fun n hn => ?_
  obtain rfl := List.mem_singleton.1 hn
  exact Content.not_exceeds_of_uint32 number

end Authentication

namespace Presence

theorem spares_updateNetworkInfo : updateNetworkInfo.Spares Route.updateNetworkInfo := by
  refine spares_acting fun _ _ _ network here passed => ?_
  obtain ⟨content, union, records, found, read⟩ := checkNetwork_eq_ok passed
  rintro ⟨_, same, ⟨n, hn, -⟩ | ⟨-, wild⟩⟩
  · rw [here] at hn
    cases hn
  · rw [records] at same
    cases same
    exact Network.not_wild_of_read found read wild

theorem spares_updateHardwareFlags : updateHardwareFlags.Spares Route.updateHardwareFlags := by
  refine spares_acting fun _ _ _ _ here passed => ?_
  obtain ⟨content, records, number⟩ := checkHardware_eq_ok passed
  refine Packet.not_overflows here (by decide) records fun n hn => ?_
  obtain rfl := List.mem_singleton.1 hn
  exact Content.not_exceeds_of_uint16 number

end Presence

theorem Utility.spares_ping : ping.Spares Route.ping :=
  fun _ _ _ here => spares_replied (Packet.not_overflows_of_nil here (by decide) rfl)

namespace Games

/-- After leaving everything the first try succeeds. -/
theorem leaveAndCreate_of_login {s : Server} (h : s.seating.Coherent) {session : SessionId}
    (login : (s.session session).player.isSome = true) (attributes : Attributes)
    (setting : UInt16) : ∃ id, (leaveAndCreate s session attributes setting).1 = .ok id := by
  have same := congrFun (player_leaveActivities h session leftReason) session
  have still : ((s.leaveActivities session leftReason).session session).player.isSome = true :=
    (congrArg Option.isSome same).trans login
  obtain ⟨id, created⟩ := createGame_of_free (idle_leaveActivities h session leftReason).1 still
    attributes setting
  refine ⟨id, ?_⟩
  rw [leaveAndCreate]
  split
  · next result =>
    rw [result] at created
    cases created
  · exact created

theorem spares_createGame : createGame.Spares Route.createGame := by
  refine meets_checked spares_refused ?_
  rintro s session request ⟨attributes, setting⟩ here passed h present
  obtain ⟨login, content, records, -, fits⟩ := checkCreation_eq_ok passed
  obtain ⟨id, created⟩ := leaveAndCreate_of_login h login attributes setting
  dsimp only
  split
  · next result =>
    rw [result] at created
    cases created
  · refine spares_replied (Packet.not_overflows here (by decide) records fun n hn => ?_) h present
    obtain rfl := List.mem_singleton.1 hn
    exact fits

theorem spares_setAttributes : setAttributes.Spares Route.setGameAttributes := by
  refine spares_acting fun _ _ _ ⟨id, a⟩ here passed => ?_
  obtain ⟨content, records, number, -⟩ := checkAttributes_eq_ok passed
  refine Packet.not_overflows here (by decide) records fun n hn => ?_
  obtain rfl := List.mem_singleton.1 hn
  exact Content.not_exceeds_of_uint32 number

/-- A game and a number of it. -/
theorem spares_number {route : Route} {label : Label} {act : Server → SessionId → GameId × UInt16 →
    Server} (other : route ≠ Route.updateNetworkInfo)
    (numbers : route.numbers = [(Field.gid, UInt32.size), (label, UInt16.size)]) :
    Handler.Spares route (Handler.acting (checkNumber label) act) := by
  refine spares_acting fun _ _ _ ⟨id, value⟩ here passed => ?_
  obtain ⟨content, records, game, number⟩ := checkNumber_eq_ok passed
  refine Packet.not_overflows here other records fun n hn => ?_
  rw [numbers] at hn
  rcases List.mem_pair.1 hn with rfl | rfl
  · exact Content.not_exceeds_of_uint32 game
  · exact Content.not_exceeds_of_uint16 number

theorem spares_removePlayer : removePlayer.Spares Route.removePlayer := by
  refine spares_acting fun _ _ _ ⟨id, player, reason⟩ here passed => ?_
  obtain ⟨content, records, game, removed⟩ := checkRemoval_eq_ok passed
  refine Packet.not_overflows here (by decide) records fun n hn => ?_
  rcases List.mem_pair.1 hn with rfl | rfl
  · exact Content.not_exceeds_of_uint32 game
  · exact Content.not_exceeds_of_uint32 removed

theorem spares_updateMeshConnection :
    updateMeshConnection.Spares Route.updateMeshConnection := by
  refine spares_acting fun _ _ _ joined here passed => ?_
  obtain ⟨content, id, records, number⟩ := checkMesh_eq_ok passed
  refine Packet.not_overflows here (by decide) records fun n hn => ?_
  obtain rfl := List.mem_singleton.1 hn
  exact Content.not_exceeds_of_uint32 number

theorem spares_startMatchmaking : startMatchmaking.Spares Route.startMatchmaking := by
  refine meets_checked spares_refused ?_
  intro s session request rules here passed h present
  have fits : ¬request.Overflows := Packet.not_overflows_of_nil here (by decide) rfl
  have same := congrFun (player_leaveActivities h session leftReason) session
  have login : ((s.leaveActivities session leftReason).session session).player.isSome = true :=
    (congrArg Option.isSome same).trans (checkSearch_eq_ok passed)
  have coherent := h.moves (moves_leaveActivities h session leftReason)
  have free := free_leaveActivities h present leftReason
  dsimp only
  generalize s.leaveActivities session leftReason = t at login coherent free
  obtain ⟨-, unchanged⟩ := moves_matchOrEnqueue coherent free rules
  split
  · exact spares_replied fits h present
  · next i u result =>
    have same : u = t := by
      have := unchanged i (congrArg Prod.fst result)
      rwa [result] at this
    subst same
    split
    · exact spares_replied fits h present
    · exact spares_replied fits h present
    · exact spares_replied fits h present
    · exact spares_replied fits h present
    · next cause v notFull notFound notElsewhere joined =>
      -- no cause is left
      rcases join_of_login login (congrArg Prod.fst joined) with rfl | rfl | ⟨other, rfl⟩
      · exact absurd rfl (notFound i)
      · exact absurd rfl (notFull i)
      · exact absurd rfl (notElsewhere session other)

end Games

/-! ### All routes -/

namespace Router

theorem spares_routes : OnRoutes Handler.Spares where
  login := Authentication.spares_login
  silentLogin := Authentication.spares_silentLogin
  logout := spares_acting_of_nil (by decide) rfl
  listEntitlements := spares_answering_of_nil (by decide) rfl
  preAuth := spares_answering_of_nil (by decide) rfl
  postAuth := spares_answering_of_nil (by decide) rfl
  ping := Utility.spares_ping
  fetchClientConfig := spares_answering_of_nil (by decide) rfl
  saveSetting := spares_acting_of_nil (by decide) rfl
  loadSettings := spares_answering_of_nil (by decide) rfl
  updateNetworkInfo := Presence.spares_updateNetworkInfo
  updateHardwareFlags := Presence.spares_updateHardwareFlags
  createGame := Games.spares_createGame
  setAttributes := Games.spares_setAttributes
  advanceState := Games.spares_number (by decide) rfl
  setSettings := Games.spares_number (by decide) rfl
  removePlayer := Games.spares_removePlayer
  startMatchmaking := Games.spares_startMatchmaking
  cancelMatchmaking := spares_acting_of_nil (by decide) rfl
  updateMeshConnection := Games.spares_updateMeshConnection

/-- No route serves a request, or its handler refuses it. -/
def Refuses (r : Router) (s : Server) (session : SessionId) (request : Packet) : Prop :=
  ∀ handler, r.handler? request.header.route = some handler →
    ∃ cause, (handler s session request).1 = .refused cause

def refusalCounters : List (Metrics → Metrics) :=
  [Metrics.unknownCommand, Metrics.authRejected, Metrics.domainError, Metrics.handlerFailure]

theorem refuse_counts (request : Packet) (cause : Refusal) :
    (refuse request cause).2 ∈ refusalCounters := by
  rw [refuse.eq_def]
  split
  · simp [refusalCounters]
  · split <;> simp [refusalCounters]

/-- **A refused request changes nothing but one counter, and numbers out of range are refused.** -/
theorem dispatch_of_refuses (store : Store) (events : List Event)
    (feasible : (start store).Feasible events) {session : SessionId}
    (there : (((start store).run events).findSession? session).isSome = true) (request : Packet) :
    let s := (start store).run events
    (standard.Refuses s session request →
      ∃ counter ∈ refusalCounters, (standard.dispatch s session request).2 = s.count counter) ∧
      (request.Overflows → standard.Refuses s session request) := by
  intro s
  have coherent : s.seating.Coherent := coherent_run (coherent_start store) feasible
  have spares {handler : Handler}
      (found : standard.handler? request.header.route = some handler) :=
    meets_handler? spares_routes.standard found s session coherent there
  refine ⟨fun refuses => ?_, fun wild handler found => (spares found).2 wild⟩
  rcases standard.dispatch_cases s session request with ⟨-, result⟩ | ⟨handler, found, cases⟩
  · exact ⟨Metrics.unknownCommand, by simp [refusalCounters], congrArg Prod.snd result⟩
  · obtain ⟨cause, refused⟩ := refuses handler found
    have same := (spares found).1 cause refused
    rw [refused, same] at cases
    rcases cases with ⟨_, replied, -⟩ | ⟨cause, -, result⟩ | ⟨_, crashed, -⟩
    · cases replied
    · exact ⟨_, refuse_counts request cause, congrArg Prod.snd result⟩
    · cases crashed

/-- A player asks for a state that no game can have. -/
theorem dispatch_of_refuses_wide :
    let account : Account := ⟨⟨1, "a@b"⟩, "a@b", "word", "token"⟩
    let store : Store := ⟨.ofList [(1, account)], ∅, ∅, 2, true⟩
    let login : Packet :=
      .request Route.login 0 [.string Field.mail "a@b", .string Field.pass "word"]
    let events : List Event :=
      [.connect none, .request 1 login, .request 1 (.request Route.createGame 0 [])]
    let wide : Packet :=
      .request Route.advanceGameState 0 [.nat Field.gid 1, .nat Field.gsta 65537]
    let s := (start store).run events
    (start store).Feasible events ∧ (s.findSession? 1).isSome = true ∧ wide.Overflows ∧
      (∃ counter ∈ refusalCounters, (standard.dispatch s 1 wide).2 = s.count counter) ∧
      (s.findGame? 1).map (·.state) = some 1 := by
  intro account store login events wide s
  have feasible : (start store).Feasible events :=
    ⟨by decide +kernel, by decide +kernel, by decide +kernel⟩
  have there : (s.findSession? 1).isSome = true := by decide +kernel
  have wild : wide.Overflows :=
    ⟨_, rfl, .inl ⟨(Field.gsta, UInt16.size), by decide +kernel, 65537, by decide +kernel,
      by decide +kernel⟩⟩
  have both := dispatch_of_refuses store events feasible there wide
  exact ⟨feasible, there, wild, both.1 (both.2 wild), by decide +kernel⟩

end Router

end Lobby
