import Lobby.Proofs.Request.Credentials
import Lobby.Proofs.Server.Settings

/-!
# Where a player comes from

In whatever run, a session is a player only by its last login, which had the credentials of an
account of that player in the store of that time (`Server.vouched_run`).  Logging in and out by
requests of its own is all that ever changes the player of a session; one that comes anew is none.
-/

namespace Lobby

/-- The accounts of the store change only by other stores of this kind. -/
def Event.Keyed : Event → Prop
  | .restock store => store.Keyed
  | _ => True

namespace Server

def identifies (s : Server) (id : SessionId) : Event → Bool
  | .request session packet =>
    session = id && decide (packet.header.route ∈ Route.identifying) &&
      Router.standard.grants s session packet
  | _ => false

def undisturbed (s : Server) (id : SessionId) : List Event → Bool
  | [] => true
  | e :: events => !s.identifies id e && (s.after e).undisturbed id events

variable {s : Server}

/-! ### One event -/

/-- A store keeps its accounts as long as it is the same store. -/
theorem keyed_after (h : s.store.Keyed) {e : Event} (keyed : e.Keyed) :
    (s.after e).store.Keyed := by
  cases e with
  | request session packet =>
    rw [after]
    by_cases here : packet.header.route = Route.saveSetting
    · rw [store_dispatch_save s session here]
      cases s.save? (.request session packet) <;> exact h
    · rw [Router.store_dispatch s session here]
      exact h
  | disconnect session =>
    have entries : Ledger.Entries True Route.logout s.ledger _ :=
      entries_leaveActivities s session disconnectedReason
    have same : (s.after (.disconnect session)).store = s.store := entries.store (by decide)
    rw [same]
    exact h
  | restock store => exact keyed
  | connect peer => exact h
  | close session => exact h
  | wait clock => exact h

/-- **An event that does not log a session in or out leaves its player alone.**  A session that
comes is none. -/
theorem players_after {e : Event} {id : SessionId} (idle : s.identifies id e = false) :
    (s.after e).players id = s.players id ∨
      (∃ peer, e = .connect peer) ∧ id = s.nextSession ∧ (s.after e).players id = none := by
  cases e with
  | connect peer =>
    by_cases new : id = s.nextSession
    · refine .inr ⟨⟨peer, rfl⟩, new, ?_⟩
      show ((s.connect peer).2.session id).player = none
      rw [session, connect, SortedMap.get?_insert, if_pos new.symm]
      rfl
    · refine .inl ?_
      show ((s.connect peer).2.session id).player = (s.session id).player
      rw [session, connect, SortedMap.get?_insert, if_neg fun same => new same.symm]
      rfl
  | request session packet =>
    obtain ⟨others, kept, -⟩ := Router.knows_dispatch s session packet
    refine .inl ?_
    by_cases own : id = session
    · subst own
      refine kept fun granted => ?_
      simp [identifies, granted] at idle
    · exact others id own
  | close session => exact .inl (congrFun (players_of_profile (s.profile_close session)) id)
  | disconnect session =>
    exact .inl (congrFun (players_of_profile (s.profile_disconnect session)) id)
  | wait clock => exact .inl rfl
  | restock store => exact .inl rfl

/-- **A session that an event has made a player showed the credentials of an account.** -/
theorem vouches_of_identifies (keyed : s.store.Keyed) {e : Event} {id : SessionId} {p : Player}
    (granted : s.identifies id e = true) (login : (s.after e).players id = some p) :
    ∃ request, e = .request id request ∧ s.Vouches request p := by
  cases e with
  | request session packet =>
    simp only [identifies, Bool.and_eq_true, decide_eq_true_eq] at granted
    obtain ⟨⟨rfl, route⟩, granted⟩ := granted
    obtain ⟨-, -, vouched⟩ := Router.knows_dispatch s session packet
    exact ⟨packet, rfl, vouched route granted keyed p login⟩
  | _ => cases granted

/-! ### Runs -/

/-- A player is one that the session was before, undisturbed since, or that of its last login. -/
theorem vouched_of_run {events : List Event} (keyed : s.store.Keyed)
    (restocked : ∀ e ∈ events, e.Keyed) {id : SessionId} {p : Player}
    (login : (s.run events).players id = some p) :
    s.players id = some p ∧ s.undisturbed id events = true ∨
      ∃ before request later, events = before ++ .request id request :: later ∧
        (s.run before).identifies id (.request id request) = true ∧
        (s.run before).Vouches request p ∧
        ((s.run before).after (.request id request)).undisturbed id later = true := by
  induction events generalizing s with
  | nil => exact .inl ⟨login, rfl⟩
  | cons e events ih =>
    obtain ⟨first, rest⟩ := List.forall_mem_cons.1 restocked
    rcases ih (keyed_after keyed first) rest login with
      ⟨still, undisturbed⟩ | ⟨before, request, later, rfl, granted, vouches, undisturbed⟩
    · cases granted : s.identifies id e with
      | true =>
        obtain ⟨request, rfl, vouches⟩ := vouches_of_identifies keyed granted still
        exact .inr ⟨[], request, events, rfl, granted, vouches, undisturbed⟩
      | false =>
        rcases players_after granted with same | ⟨-, -, none⟩
        · refine .inl ⟨same.symm.trans still, ?_⟩
          rw [Server.undisturbed, granted, undisturbed]
          rfl
        · rw [none] at still
          cases still
    · exact .inr ⟨e :: before, request, later, rfl, granted, vouches, undisturbed⟩

/-- **A session is a player only by its last login**, and that had the credentials of an account of
the player; nothing but a request of its own that succeeds in logging it in or out changes who it
is. -/
theorem vouched_run (store : Store) (events : List Event) (keyed : store.Keyed)
    (restocked : ∀ e ∈ events, e.Keyed) (id : SessionId) :
    let s := (start store).run events
    (∀ p, (s.session id).player = some p →
      ∃ before request later, events = before ++ .request id request :: later ∧
        let earlier := (start store).run before
        earlier.identifies id (.request id request) = true ∧ earlier.Vouches request p ∧
          (earlier.after (.request id request)).undisturbed id later = true) ∧
      ∀ e, s.identifies id e = false →
        ((s.after e).session id).player = (s.session id).player ∨
          (∃ peer, e = .connect peer) ∧ id = s.nextSession ∧
            ((s.after e).session id).player = none := by
  intro s
  refine ⟨fun p login => ?_, fun e idle => players_after idle⟩
  rcases vouched_of_run (s := start store) keyed restocked login with ⟨nobody, -⟩ | found
  · cases nobody
  · exact found

/-- A session logs in with another case of its email, logs out, and becomes the other player by a
token; then it fails to log in with a wrong password, and with an id that 32 bits do not hold. -/
theorem vouched_run_relogin :
    let first := Store.empty.addAccount (fun _ => "one") "a@b" "word" "Ann"
    let second := first.2.addAccount (fun _ => "two") "c@d" "pass" "Bob"
    let login (email password : String) : Packet :=
      .request Route.login 0 [.string Field.mail email, .string Field.pass password]
    let resume (id : Nat) (token : String) : Packet :=
      .request Route.silentLogin 0 [.nat Field.pid id, .string Field.auth token]
    let events : List Event :=
      [.connect none, .request 1 (login "A@B" "word"), .request 1 (.request Route.logout 0 []),
        .request 1 (resume 2 "two"), .request 1 (login "a@b" "Word"),
        .request 1 (resume 4294967297 "one")]
    let s := (start second.2).run events
    second.2.Keyed ∧ (∀ e ∈ events, e.Keyed) ∧ (s.session 1).player = some ⟨2, "Bob"⟩ ∧
      (∃ before request later, events = before ++ .request 1 request :: later ∧
        let earlier := (start second.2).run before
        earlier.identifies 1 (.request 1 request) = true ∧ earlier.Vouches request ⟨2, "Bob"⟩ ∧
          (earlier.after (.request 1 request)).undisturbed 1 later = true) ∧
      s.identifies 1 (.request 1 (login "A@B" "word")) = true ∧
      s.identifies 1 (.request 1 (login "A.B" "word")) = false := by
  intro first second login resume events s
  have keyed : second.2.Keyed := (Store.keyed_empty.addAccount _ _ _ _).addAccount _ _ _ _
  have restocked : ∀ e ∈ events, e.Keyed := by
    simp [events, Event.Keyed]
  have player : (s.session 1).player = some ⟨2, "Bob"⟩ := by decide +kernel
  exact ⟨keyed, restocked, player, (vouched_run second.2 events keyed restocked 1).1 _ player,
    by decide +kernel, by decide +kernel⟩

end Server

end Lobby
