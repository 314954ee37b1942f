import Lobby.Proofs.Request.Refusal
import Lobby.Proofs.Server.Ledger

/-!
# Requests in the ledger

Whatever state a server is in, a handler makes five kinds of entries in its ledger
(`Ledger.Entry`).  A game that is created or released is counted.  Only where sessions and games do
not fit each other may a game go out of the register without that.  The store is changed by the
requests of one route, and the failures of requests are counted by the router alone.
-/

namespace Lobby

/-- What is counted of requests that fail. -/
@[ext] structure Tally where
  /-- Requests that no route serves. -/
  unknown : UInt64
  unauthenticated : UInt64
  /-- Requests refused with a code. -/
  coded : UInt64
  /-- Requests that failed for another cause. -/
  failed : UInt64

/-- What is counted of games that come and go. -/
structure Turnover where
  created : UInt64
  released : UInt64

def Metrics.tally (m : Metrics) : Tally :=
  ⟨m.unknownCommands, m.authRejections, m.domainErrors, m.handlerFailures⟩

def Metrics.turnover (m : Metrics) : Turnover := ⟨m.gamesCreated, m.gamesReleased⟩

/-- A session that is there makes a request in a coherent seating, with room for a game. -/
structure Server.Tidy (s : Server) (session : SessionId) : Prop where
  coherent : s.seating.Coherent
  present : s.seating.present session = true
  room : s.created.toNat + 1 < UInt32.size

namespace Ledger

/-- The next game has an id of its own. -/
structure Roomy (l : Ledger) : Prop where
  unlisted : l.listed (1 + l.created) = false
  room : l.created.toNat + 1 < UInt32.size

/-- What a request of a route may enter in the ledger, if it is known whether the server is
tidy. -/
inductive Entry (tidy : Prop) (route : Route) : Ledger → Ledger → Prop
  | count {l : Ledger} {f : Metrics → Metrics}
      (own : ∀ m, (f m).tally = m.tally ∧ (f m).turnover = m.turnover) : Entry tidy route l (l.count f)
  | create {l : Ledger} (roomy : tidy → l.Roomy) :
      Entry tidy route l (l.enter.count Metrics.gameCreated)
  | release {l : Ledger} {i : GameId} (listed : l.listed i = true) :
      Entry tidy route l ((l.strike i).count Metrics.gameReleased)
  | evict (l : Ledger) (listed : GameId → Bool) (untidy : ¬tidy) :
      Entry tidy route l { l with listed }
  | save (l : Ledger) (store : Store) (saving : route = Route.saveSetting) :
      Entry tidy route l { l with store }

abbrev Entries (tidy : Prop) (route : Route) : Ledger → Ledger → Prop :=
  Relation.ReflTransGen (Entry tidy route)

namespace Entries

variable {tidy : Prop} {route : Route} {l k : Ledger}

/-- A request also counts what does not concern the ledger's games. -/
theorem counted {s : Server} (entries : Entries tidy route l s.ledger) (f : Metrics → Metrics)
    (own : ∀ m, (f m).tally = m.tally ∧ (f m).turnover = m.turnover) :
    Entries tidy route l (s.count f).ledger :=
  entries.tail (.count own)

/-- No entry counts a request that failed. -/
theorem tally (entries : Entries tidy route l k) : k.metrics.tally = l.metrics.tally := by
  induction entries with
  | refl => rfl
  | tail _ entry ih =>
    refine Eq.trans ?_ ih
    cases entry with
    | count own => exact (own _).1
    | create _ => rfl
    | release _ => rfl
    | evict _ _ => rfl
    | save _ _ => rfl

/-- The store is kept, unless settings are saved. -/
theorem store (entries : Entries tidy route l k) (other : route ≠ Route.saveSetting) :
    k.store = l.store := by
  induction entries with
  | refl => rfl
  | tail _ entry ih =>
    refine Eq.trans ?_ ih
    cases entry with
    | count _ => rfl
    | create _ => rfl
    | release _ => rfl
    | evict _ _ => rfl
    | save _ saving => exact absurd saving other

end Entries

end Ledger

namespace Server

variable {s : Server} {session : SessionId} {tidy : Prop} {route : Route}

namespace Tidy

theorem leave (h : s.Tidy session) (reason : Int64) :
    (s.leaveActivities session reason).Tidy session where
  coherent := h.coherent.moves (moves_leaveActivities h.coherent session reason)
  present := (free_leaveActivities h.coherent h.present reason).present
  room := by
    rw [created_leaveActivities h.coherent session reason]
    exact h.room

theorem evict (h : s.Tidy session) : s.evict.Tidy session := by
  have same := seating_evict h.coherent
  exact ⟨same ▸ h.coherent, same ▸ h.present, h.room⟩

theorem roomy (h : s.Tidy session) : s.ledger.Roomy := by
  refine ⟨?_, h.room⟩
  have next : (1 + s.created).toNat = s.created.toNat + 1 := by
    rw [UInt32.toNat_add, UInt32.toNat_one, Nat.add_comm]
    exact Nat.mod_eq_of_lt h.room
  have unused : s.seating.lineup (1 + s.created) = none :=
    h.coherent.created _ (UInt32.lt_iff_toNat_lt.2 (by show s.created.toNat < _; omega))
  show ((s.games.get? (1 + s.created)).filter (·.registered)).isSome = false
  rw [Option.map_eq_none_iff.1 unused]
  rfl

end Tidy

theorem entries_evict (h : tidy → s.Tidy session) :
    Ledger.Entries tidy route s.ledger s.evict.ledger := by
  by_cases tidied : tidy
  · rw [ledger_evict (h tidied).coherent]
  · exact .single (.evict _ _ tidied)

theorem entries_leaveActivities (s : Server) (session : SessionId) (reason : Int64) :
    Ledger.Entries tidy route s.ledger (s.leaveActivities session reason).ledger := by
  rcases s.ledger_leaveActivities session reason with same | ⟨i, listed, same⟩
  · rw [same]
  · rw [same]
    exact .single (.release listed)

/-- What a creation comes to, before it is counted. -/
def Enters (tidy : Prop) (route : Route) (l : Ledger) (r : Except Error GameId × Server) : Prop :=
  (∃ e, r.1 = .error e ∧ Ledger.Entries tidy route l r.2.ledger) ∨
    ∃ i k, r.1 = .ok i ∧ Ledger.Entries tidy route l k ∧ (tidy → k.Roomy) ∧ r.2.ledger = k.enter

theorem enters_createGame (h : tidy → s.Tidy session) (attributes : Attributes) (setting : UInt16) :
    Enters tidy route s.ledger (s.createGame session attributes setting) := by
  have evicted : Ledger.Entries tidy route s.ledger _ := entries_evict h
  rcases s.ledger_createGame session attributes setting with ⟨e, failed⟩ | ⟨made, entered⟩
  · rw [failed]
    exact .inl ⟨e, rfl, evicted⟩
  · exact .inr ⟨_, s.evict.ledger, made, evicted, fun tidied => (h tidied).evict.roomy, entered⟩

theorem Enters.after {l k : Ledger} {r : Except Error GameId × Server}
    (before : Ledger.Entries tidy route l k) (h : Enters tidy route k r) :
    Enters tidy route l r := by
  rcases h with ⟨e, failed, entries⟩ | ⟨i, k, made, entries, roomy, entered⟩
  · exact .inl ⟨e, failed, before.trans entries⟩
  · exact .inr ⟨i, k, made, before.trans entries, roomy, entered⟩

end Server

open Server

def Server.Books (s : Server) (session : SessionId) (request : Packet) (r : Outcome × Server) :
    Prop :=
  Ledger.Entries (s.Tidy session) request.header.route s.ledger r.2.ledger

theorem Server.Books.of_eq {s : Server} {session : SessionId} {request : Packet}
    {r : Outcome × Server} (same : r.2.ledger = s.ledger) : s.Books session request r := by
  rw [Books, same]

namespace Handler

variable {route : Route}

theorem books_checked {α : Type} {check : Check α}
    {act : Server → SessionId → Packet → α → Outcome × Server}
    (acted : ∀ s session request found, request.header.route = route →
      Books s session request (act s session request found)) :
    Meets Books route (checked check act) :=
  meets_checked (fun _ _ _ _ => .of_eq rfl)
    fun s session request found here _ => acted s session request found here

theorem books_answering {check : Check Content} : Meets Books route (answering check) :=
  books_checked fun _ _ _ _ _ => .of_eq rfl

theorem books_acting {α : Type} {check : Check α} {act : Server → SessionId → α → Server}
    (acted : ∀ s session found, (act s session found).ledger = s.ledger) :
    Meets Books route (acting check act) :=
  books_checked fun s session _ found _ => .of_eq (acted s session found)

end Handler

/-! ### Logging in and out -/

namespace Authentication

variable {route : Route}

theorem books_login : login.Meets Books route :=
  Handler.books_checked fun _ _ _ _ _ => .of_eq rfl

theorem books_silentLogin : silentLogin.Meets Books route :=
  Handler.books_checked fun _ _ _ _ _ => .of_eq rfl

theorem books_logout : logout.Meets Books route :=
  Handler.books_checked fun s session _ _ _ => entries_leaveActivities s session leftReason

end Authentication

/-! ### Reports and settings -/

namespace Presence

variable {route : Route}

theorem ledger_refresh (s : Server) (session : SessionId) :
    (refresh s session).ledger = s.ledger := by
  rw [refresh]
  split
  · rfl
  · dsimp only
    split
    · exact s.ledger_broadcast _ _ none
    · rfl

theorem books_updateNetworkInfo : updateNetworkInfo.Meets Books route :=
  Handler.books_acting fun _ session _ => ledger_refresh _ session

theorem books_updateHardwareFlags : updateHardwareFlags.Meets Books route :=
  Handler.books_acting fun _ session _ => ledger_refresh _ session

end Presence

namespace Utility

theorem books_ping {route : Route} : ping.Meets Books route :=
  fun _ _ _ _ => .of_eq rfl

theorem books_saveSetting : saveSetting.Meets Books Route.saveSetting :=
  Handler.books_checked fun s _ _ store here => .single (.save s.ledger store here)

end Utility

/-! ### Games -/

namespace Games

variable {route : Route}

theorem enters_leaveAndCreate {tidy : Prop} {s : Server} {session : SessionId}
    (h : tidy → s.Tidy session) (attributes : Attributes) (setting : UInt16) :
    Enters tidy route s.ledger (leaveAndCreate s session attributes setting) := by
  have left : Ledger.Entries tidy route s.ledger _ :=
    entries_leaveActivities s session leftReason
  have tidied (here : tidy) := (h here).leave leftReason
  rw [leaveAndCreate]
  generalize s.leaveActivities session leftReason = t at left tidied
  have created := (enters_createGame tidied attributes setting).after left
  split
  · next result =>
    -- the first try has failed, so the second one starts from what it has tidied
    have failed := createGame_error (congrArg Prod.fst result)
    rw [result] at failed
    cases failed
    have again : Ledger.Entries tidy route t.evict.ledger _ :=
      entries_leaveActivities t.evict session leftReason
    exact (enters_createGame (fun here => (tidied here).evict.leave leftReason) attributes
      setting).after ((left.trans (entries_evict tidied)).trans again)
  · exact created

theorem books_createGame : createGame.Meets Books route := by
  refine Handler.books_checked ?_
  rintro s session request ⟨attributes, setting⟩ -
  have enters : Enters (s.Tidy session) request.header.route s.ledger _ :=
    enters_leaveAndCreate id attributes setting
  dsimp only
  split
  · next cause t result =>
    rw [result] at enters
    rcases enters with ⟨_, -, entries⟩ | ⟨_, _, made, -⟩
    · exact entries
    · cases made
  · next i t result =>
    rw [result] at enters
    rcases enters with ⟨_, failed, -⟩ | ⟨_, l, -, entries, roomy, entered⟩
    · cases failed
    · have offered := (t.count Metrics.gameCreated).ledger_offer i
      rw [ledger_count, show t.ledger = l.enter from entered] at offered
      have opened := entries.tail (.create roomy)
      rw [← offered] at opened
      exact Ledger.Entries.counted opened _ fun _ => ⟨rfl, rfl⟩

theorem books_setAttributes : setAttributes.Meets Books route :=
  Handler.books_acting fun s _ found => by
    rw [ledger_broadcastAttributes, ledger_addAttributes]

theorem books_advanceState : advanceState.Meets Books route :=
  Handler.books_acting fun s _ found => s.ledger_setState found.1 found.2

theorem books_setSettings : setSettings.Meets Books route :=
  Handler.books_acting fun s _ found => s.ledger_setSetting found.1 found.2

theorem books_removePlayer : removePlayer.Meets Books route := by
  refine Handler.books_checked ?_
  rintro s session request ⟨i, player, reason⟩ -
  have struck := s.ledger_removePlayer i player reason
  rw [Books]
  dsimp only
  split
  · next result =>
    rw [result] at struck
    rcases struck with ⟨other, -⟩ | ⟨-, j, listed, same⟩
    · exact absurd rfl other
    · rw [ledger_count, same]
      exact .single (.release listed)
  · next outcome t other result =>
    rw [result] at struck
    rcases struck with ⟨-, same⟩ | ⟨emptied, -⟩
    · rw [same]
    · exact absurd emptied other

theorem books_updateMeshConnection : updateMeshConnection.Meets Books route := by
  refine Handler.books_acting fun s _ joined => ?_
  split
  · exact s.ledger_broadcast _ _ none
  · rfl

/-! ### Matchmaking -/

theorem books_startMatchmaking : startMatchmaking.Meets Books route := by
  refine Handler.books_checked fun s session request rules _ => ?_
  have left : Ledger.Entries (s.Tidy session) request.header.route s.ledger _ :=
    entries_leaveActivities s session leftReason
  rw [Books]
  dsimp only
  generalize s.leaveActivities session leftReason = t at left
  have searched := t.ledger_matchOrEnqueue session rules
  split
  · next result =>
    rw [result] at searched
    rw [← searched] at left
    exact left.counted _ fun _ => ⟨rfl, rfl⟩
  · next i u result =>
    rw [result] at searched
    have joined := u.ledger_join i session .matchmaking
    rw [← searched, ← joined] at left
    split <;> rename_i result <;> rw [result] at left
    · exact left.counted _ fun _ => ⟨rfl, rfl⟩
    · exact left.counted _ fun _ => ⟨rfl, rfl⟩
    · exact left.counted _ fun _ => ⟨rfl, rfl⟩
    · exact left
    · exact left

theorem books_cancelMatchmaking : cancelMatchmaking.Meets Books route := by
  refine Handler.books_acting fun s session player => ?_
  have same := s.ledger_withdraw session
  split <;> next result => exact (congrArg (fun r => ledger r.2) result).symm.trans same

end Games

/-! ### All routes -/

theorem Router.books_routes : Router.OnRoutes fun route h => h.Meets Books route where
  login := Authentication.books_login
  silentLogin := Authentication.books_silentLogin
  logout := Authentication.books_logout
  listEntitlements := Handler.books_answering
  preAuth := Handler.books_answering
  postAuth := Handler.books_answering
  ping := Utility.books_ping
  fetchClientConfig := Handler.books_answering
  saveSetting := Utility.books_saveSetting
  loadSettings := Handler.books_answering
  updateNetworkInfo := Presence.books_updateNetworkInfo
  updateHardwareFlags := Presence.books_updateHardwareFlags
  createGame := Games.books_createGame
  setAttributes := Games.books_setAttributes
  advanceState := Games.books_advanceState
  setSettings := Games.books_setSettings
  removePlayer := Games.books_removePlayer
  startMatchmaking := Games.books_startMatchmaking
  cancelMatchmaking := Games.books_cancelMatchmaking
  updateMeshConnection := Games.books_updateMeshConnection

/-- **A request makes the entries of its handler, and is counted at most once as a failure.** -/
theorem Router.entries_dispatch (s : Server) (session : SessionId) (request : Packet) :
    ∃ l, Ledger.Entries (s.Tidy session) request.header.route s.ledger l ∧
      ((standard.dispatch s session request).2.ledger = l ∨
        ∃ f ∈ refusalCounters, (standard.dispatch s session request).2.ledger = l.count f) := by
  rcases standard.dispatch_cases s session request with ⟨-, result⟩ | ⟨handler, found, cases⟩
  · rw [result]
    exact ⟨s.ledger, .refl, .inr ⟨Metrics.unknownCommand, by simp [refusalCounters], rfl⟩⟩
  · refine ⟨_, meets_handler? books_routes.standard found s session, ?_⟩
    rcases cases with ⟨_, -, result⟩ | ⟨cause, -, result⟩ | ⟨_, -, result⟩ <;> rw [result]
    · exact .inl rfl
    · exact .inr ⟨_, refuse_counts request cause, rfl⟩
    · exact .inr ⟨Metrics.handlerFailure, by simp [refusalCounters], rfl⟩

end Lobby
