import Lobby.Proofs.Record.Extension
import Lobby.Proofs.Request.Portrait
import Lobby.Proofs.Server.Run

/-!
# Addresses in a run

A session has the addresses of its last report.  A report carries them as bytes, and so do the
notices that are sent of the session from then on, until it reports others: whoever reads one finds
the addresses that were reported (`Server.network_run`).

An event issues the replies to a request and what is put into outboxes.  A notice among them shows
sessions as they looked at one moment of the event, when their addresses were already those after it
(`Server.poses_after`).
-/

namespace Lobby

/-! ### Reports -/

/-- Records among which the first one for addresses is one that was written report these. -/
theorem Packet.reports_received {header : Header} (here : header.route = Route.updateNetworkInfo)
    {front rest a b : Content} (before : decodeAll (encodeAll front) = .ok a)
    (others : ∀ r ∈ a, r.label ≠ Field.addr) (behind : decodeAll (encodeAll rest) = .ok b)
    (n : Network) :
    (received header (encodeAll (front ++ n.record Field.addr :: rest))).Reports n := by
  have written : decodeAll (encodeAll [n.record Field.addr]) = .ok [n.record Field.addr] := by
    rw [decodeAll_encodeAll_eq, if_pos]
    · exact Record.depthAll_le_iff.2 (List.forall_mem_singleton.2
        ((n.depth_record_le Field.addr).trans (by decide)))
    · exact List.forall_mem_singleton.2 (n.sound_record Field.addr)
  have records : (received header (encodeAll (front ++ n.record Field.addr :: rest))).records =
      .ok (a ++ n.record Field.addr :: b) := by
    show decodeAll (encodeAll (front ++ ([n.record Field.addr] ++ rest))) = _
    rw [encodeAll_append, decodeAll_append before, encodeAll_append, decodeAll_append written,
      behind]
    rfl
  refine ⟨here, _, records, Content.network?_eq_some_iff.1 (Content.network?_record ?_)⟩
  rw [Content.field?, List.find?_append, List.find?_eq_none.2 (by simpa using others),
    Option.none_or, List.find?_cons_of_pos]
  simp

def Event.Reports (e : Event) (id : SessionId) (n : Network) : Prop :=
  ∃ request, e = .request id request ∧ request.Reports n

namespace Server

variable {s : Server} {id : SessionId} {n : Network}

/-- **A report that succeeds is answered, and the session has the addresses.** -/
theorem updateNetworkInfo_of_reports (present : (s.findSession? id).isSome) {request : Packet}
    (reports : request.Reports n) :
    ∃ t, Presence.updateNetworkInfo s id request = (.replied [request.emptyResponse], t) ∧
      Router.standard.dispatch s id request = ([request.emptyResponse], t) ∧ t.networks id = n := by
  obtain ⟨here, reported⟩ := reports
  have passed : Presence.checkNetwork s id request = .ok n :=
    Presence.checkNetwork_eq_ok_iff.2 reported
  have done : Presence.updateNetworkInfo s id request =
      (.replied [request.emptyResponse], Presence.refresh (s.setNetwork id n) id) := by
    rw [Presence.updateNetworkInfo, Handler.acting, Handler.checked, passed]
  have found : Router.standard.handler? request.header.route =
      some Presence.updateNetworkInfo := by
    rw [here]
    rfl
  refine ⟨_, done, ?_, ?_⟩
  · rw [Router.dispatch, found]
    dsimp only
    rw [done]
  · rw [networks_of_profile (Presence.profile_refresh _ id), networks_setNetwork, if_pos]
    refine ⟨rfl, ?_⟩
    cases found : s.sessions.get? id with
    | none => simp [findSession?, found] at present
    | some x => rfl

/-- **A report that fails changes nothing but a counter.** -/
theorem updateNetworkInfo_of_not_reports {request : Packet}
    (here : request.header.route = Route.updateNetworkInfo) (none : ∀ m, ¬request.Reports m) :
    ∃ cause, Presence.updateNetworkInfo s id request = (.refused cause, s) ∧
      Router.standard.dispatch s id request =
        ([request.emptyResponse], s.count Metrics.handlerFailure) := by
  cases failed : Presence.checkNetwork s id request with
  | ok m => exact absurd ⟨here, Presence.checkNetwork_eq_ok_iff.1 failed⟩ (none m)
  | error cause =>
    have done : Presence.updateNetworkInfo s id request = (.refused cause, s) := by
      rw [Presence.updateNetworkInfo, Handler.acting, Handler.checked, failed]
    have found : Router.standard.handler? request.header.route =
        some Presence.updateNetworkInfo := by
      rw [here]
      rfl
    refine ⟨cause, done, ?_⟩
    rw [Router.dispatch, found]
    dsimp only
    rw [done]
    dsimp only
    rw [Presence.refuse_of_checkNetwork failed]

/-! ### One event -/

/-- An event issues a packet, as a reply or into an outbox. -/
def Issues (s : Server) (e : Event) (p : Packet) : Prop :=
  (∃ session request, e = .request session request ∧
    p ∈ (Router.standard.dispatch s session request).1) ∨
  ∃ id new, ((s.after e).session id).heard = (s.session id).heard ++ new ∧ p ∈ new

/-- After an event a session has some addresses, and every notice that shows the session, whether
sent by the event or made after it, shows these. -/
structure Exhibits (s : Server) (id : SessionId) (n : Network) (e : Event) : Prop where
  network : ((s.after e).session id).network = n
  /-- What is made of the sessions as they are. -/
  made : ∀ (p : Packet) (place : Place), p.Shows (s.after e).session id place →
    p.contents.length ≤ maxLength → p.shown? place = some n
  /-- What is sent shows sessions as they were before the event or as they are after it. -/
  issued : ∀ p : Packet, s.Issues e p → p.IsShowing → ∃ look : SessionId → Session,
    ((∀ i, (look i).profile = s.profile i) ∨ ∀ i, (look i).profile = (s.after e).profile i) ∧
    (look id).network = n ∧ (∃ i place, p.Shows look i place) ∧
    ∀ i place, p.Shows look i place → p.contents.length ≤ maxLength →
      p.shown? place = some (look i).network

/-- An event that is no request and puts nothing into outboxes issues nothing. -/
theorem not_issues {e : Event} (idle : ∀ session request, e ≠ .request session request)
    (silent : ∀ id, ((s.after e).session id).heard = (s.session id).heard ∨
      ((s.after e).session id).heard = []) (p : Packet) : ¬s.Issues e p := by
  rintro (⟨session, request, same, -⟩ | ⟨id, new, heard, hp⟩)
  · exact idle session request same
  · have none : new = [] := by
      rcases silent id with same | empty
      · rw [same] at heard
        simpa using heard.symm
      · rw [empty] at heard
        exact (List.nil_eq_append_iff.1 heard).2
    rw [none] at hp
    cases hp

/-- What is put into outboxes is what is told. -/
theorem Tells.drawn {e : Event} {profiles : SessionId → Profile}
    (tells : s.Tells profiles (s.after e))
    (replies : ∀ session request, e = .request session request →
      ∀ p ∈ (Router.standard.dispatch s session request).1, p.Drawn profiles) {p : Packet}
    (issued : s.Issues e p) : p.Drawn profiles := by
  rcases issued with ⟨session, request, same, hp⟩ | ⟨id, new, heard, hp⟩
  · exact replies session request same p hp
  · obtain ⟨told, same, drawn⟩ := tells id
    rw [heard] at same
    exact drawn p (List.append_cancel_left same ▸ hp)

/-- All that an event issues is drawn from the profiles before it or from those after it, and in
these the addresses are those after it. -/
def Poses (s : Server) (e : Event) : Prop :=
  ∃ profiles, (profiles = s.profile ∨ profiles = (s.after e).profile) ∧
    (∀ id, (profiles id).network = (s.after e).networks id) ∧
      ∀ p, s.Issues e p → p.Drawn profiles

/-- **Whatever happens, notices show the addresses that sessions have after it.** -/
theorem poses_after (s : Server) (e : Event) : s.Poses e := by
  have silent (idle : ∀ session request, e ≠ .request session request)
      (same : ∀ id, ((s.after e).session id).heard = (s.session id).heard ∨
        ((s.after e).session id).heard = []) : s.Poses e :=
    ⟨_, .inr rfl, fun _ => rfl, fun p issued => absurd issued (not_issues idle same p)⟩
  cases e with
  | request session request =>
    obtain ⟨⟨profiles, moment, network, tells, replies⟩, -⟩ :=
      Router.portrays_dispatch s session request
    refine ⟨profiles, moment, network, fun p issued => tells.drawn ?_ issued⟩
    rintro _ _ ⟨⟩
    exact replies
  | disconnect session =>
    have left := s.recounts_leaveActivities session disconnectedReason
    have gone : s.Recounts (s.after (.disconnect session)) :=
      left.trans ⟨profile_deregister _ session, tells_of_stage (stage_deregister _ session)⟩
    exact ⟨_, .inl rfl, fun id => congrFun (networks_of_profile gone.profile).symm id,
      fun p issued => gone.tells.drawn (fun _ _ same => nomatch same) issued⟩
  | connect peer =>
    refine silent nofun fun id => ?_
    have heard : ((s.after (.connect peer)).session id).heard =
        if id = s.nextSession then [] else (s.session id).heard :=
      congrFun (congrArg Stage.heard (s.stage_connect peer)) id
    rw [heard]
    split
    · exact .inr rfl
    · exact .inl rfl
  | close session =>
    refine silent nofun fun id => ?_
    have heard : ((s.after (.close session)).session id).heard =
        if id = session then [] else (s.session id).heard :=
      congrFun (congrArg Stage.heard (s.stage_close session)) id
    rw [heard]
    split
    · exact .inr rfl
    · exact .inl rfl
  | wait clock => exact silent nofun fun _ => .inl rfl
  | restock store => exact silent nofun fun _ => .inl rfl

/-- **A session gets other addresses by a report of its own alone.**  One that comes is another. -/
theorem networks_after (e : Event) (known : id < s.nextSession) :
    (s.after e).networks id = s.networks id ∨ e.Reports id ((s.after e).networks id) := by
  cases e with
  | request session request =>
    obtain ⟨-, networks⟩ := Router.portrays_dispatch s session request
    rcases networks id with same | ⟨rfl, reports⟩
    · exact .inl same
    · exact .inr ⟨request, rfl, reports⟩
  | connect peer =>
    refine .inl ?_
    have other : ¬s.nextSession = id := fun same => UInt32.lt_irrefl _ (same ▸ known)
    show ((s.connect peer).2.session id).network = (s.session id).network
    rw [session, connect, SortedMap.get?_insert, if_neg other]
    rfl
  | close session => exact .inl (congrFun (networks_of_profile (s.profile_close session)) id)
  | disconnect session =>
    exact .inl (congrFun (networks_of_profile (s.profile_disconnect session)) id)
  | wait clock => exact .inl rfl
  | restock store => exact .inl rfl

/-- What is issued and made shows the addresses that the session has after the event. -/
theorem exhibits_after {e : Event} (has : (s.after e).networks id = n) : s.Exhibits id n e where
  network := has
  made p place shows fits := by
    rw [shows.shown?_eq fits]
    exact congrArg some has
  issued p issued showing := by
    obtain ⟨profiles, moment, network, drawn⟩ := poses_after s e
    obtain ⟨look, same, shown⟩ := drawn p issued showing
    refine ⟨look, ?_, ?_, shown, fun i place shows fits => shows.shown?_eq fits⟩
    · rcases moment with rfl | rfl
      · exact .inl same
      · exact .inr same
    · rw [← has, ← network id, ← same id]
      rfl

/-! ### Runs -/

theorem Feasible.nextSession_le (h : s.seating.Coherent) {e : Event} {events : List Event}
    (feasible : s.Feasible (e :: events)) : s.nextSession ≤ (s.after e).nextSession := by
  obtain ⟨admitted, sessions, games⟩ := feasible
  rw [gamesCreated] at games
  have fewer : sessionsCreated [e] ≤ sessionsCreated (e :: events) :=
    ((List.singleton_sublist.2 List.mem_cons_self).filter _).length_le
  obtain ⟨-, next⟩ := coherent_after h (Bool.and_eq_true_iff.1 admitted).1 (by omega) (by omega)
  exact UInt32.le_iff_toNat_le.2 (by omega)

/-- **Until it reports others, a session has its addresses, and they are what notices show.** -/
theorem exhibits_run {before after : List Event} {e : Event} (h : s.seating.Coherent)
    (known : id < s.nextSession) (has : s.networks id = n)
    (feasible : s.Feasible (before ++ e :: after))
    (quiet : ∀ x ∈ before ++ e :: after, ∀ m, ¬x.Reports id m) :
    (s.run before).Exhibits id n e := by
  induction before generalizing s with
  | nil =>
    refine exhibits_after ?_
    rcases networks_after e known with same | reports
    · exact same.trans has
    · exact absurd reports (quiet e List.mem_cons_self _)
  | cons first before ih =>
    obtain ⟨coherent, rest⟩ := feasible.after h
    obtain ⟨silent, quiet⟩ := List.forall_mem_cons.1 quiet
    refine ih coherent (UInt32.lt_of_lt_of_le known (feasible.nextSession_le h)) ?_ rest quiet
    rcases networks_after first known with same | reports
    · exact same.trans has
    · exact absurd reports (silent _)

theorem lt_nextSession_of_present (h : s.seating.Coherent)
    (present : (s.findSession? id).isSome = true) : id < s.nextSession := by
  by_contra beyond
  have absent := h.nextSession id (UInt32.not_lt.1 beyond)
  exact absurd present (by rw [show (s.findSession? id).isSome = false from absent]; decide)

/-- **Addresses survive the report and the notices.**  Whatever addresses a session reports of
itself, written among other records, are those it has from then on, and those that are read back
from the bytes of every notice that shows the session, until it reports others.  The addresses that
content reports are taken as they are; content that reports none is refused, and the session keeps
those it has. -/
theorem network_run (store : Store) (events : List Event) (feasible : (start store).Feasible events)
    (id : SessionId) (present : (((start store).run events).findSession? id).isSome) (n : Network) :
    let s := (start store).run events
    (∀ (header : Header) (front rest a b : Content), header.route = Route.updateNetworkInfo →
      decodeAll (encodeAll front) = .ok a → (∀ r ∈ a, r.label ≠ Field.addr) →
      decodeAll (encodeAll rest) = .ok b →
      (Packet.received header (encodeAll (front ++ n.record Field.addr :: rest))).Reports n) ∧
    (∀ request : Packet, request.Reports n →
      ∃ t, Presence.updateNetworkInfo s id request = (.replied [request.emptyResponse], t) ∧
        Router.standard.dispatch s id request = ([request.emptyResponse], t) ∧
        (t.session id).network = n) ∧
    (∀ request : Packet, request.header.route = Route.updateNetworkInfo →
      (∀ m, ¬request.Reports m) →
      ∃ cause, Presence.updateNetworkInfo s id request = (.refused cause, s) ∧
        Router.standard.dispatch s id request =
          ([request.emptyResponse], s.count Metrics.handlerFailure)) ∧
    ∀ (request : Packet) (later : List Event), request.Reports n →
      s.Feasible (.request id request :: later) → (∀ e ∈ later, ∀ m, ¬e.Reports id m) →
      ∀ before e after, .request id request :: later = before ++ e :: after →
        (s.run before).Exhibits id n e := by
  intro s
  have coherent : s.seating.Coherent := coherent_run (coherent_start store) feasible
  refine ⟨fun _ _ _ _ _ here before others behind =>
      Packet.reports_received here before others behind n,
    fun _ reports => updateNetworkInfo_of_reports present reports,
    fun _ here none => updateNetworkInfo_of_not_reports here none, ?_⟩
  intro request later reports feasible quiet before e after split
  obtain ⟨t, -, dispatched, has⟩ := updateNetworkInfo_of_reports present reports
  have has : (s.after (.request id request)).networks id = n := by
    rw [Server.after, dispatched]
    exact has
  cases before with
  | nil =>
    cases split
    exact exhibits_after has
  | cons first before =>
    obtain ⟨rfl, rfl⟩ := List.cons.inj split
    obtain ⟨next, rest⟩ := feasible.after coherent
    have known := lt_nextSession_of_present coherent present
    show ((s.after (.request id request)).run before).Exhibits id n e
    exact exhibits_run next (UInt32.lt_of_lt_of_le known (feasible.nextSession_le coherent)) has
      rest quiet

/-- The host of a game reports its addresses after something else, and a second player finds the
game: it is told of the host as a user, as a member and as the host.  What cannot be read is no
report. -/
theorem network_run_matched :
    let account (id : PlayerId) (email : String) : Account := ⟨⟨id, email⟩, email, "word", "token"⟩
    let store : Store := ⟨.ofList [(1, account 1 "a@b"), (2, account 2 "c@d")], ∅, ∅, 3, true⟩
    let login (email : String) : Packet :=
      .request Route.login 0 [.string Field.mail email, .string Field.pass "word"]
    let events : List Event :=
      [.connect none, .connect none, .request 1 (login "a@b"), .request 2 (login "c@d"),
        .request 1 (.request Route.createGame 0 [])]
    let s := (start store).run events
    let n : Network := ⟨⟨0x0a000001, 3659⟩, ⟨0xc6336401, 50000⟩⟩
    let other : Content := [.nat Field.hwfg 2]
    let report : Packet := .received (.request Route.updateNetworkInfo 5)
      (encodeAll (other ++ n.record Field.addr :: []))
    let unreadable : Packet := .received (.request Route.updateNetworkInfo 6) [1, 2]
    let search : Event := .request 2 (.request Route.startMatchmaking 0 [])
    let t := s.run [.request 1 report, search]
    (start store).Feasible events ∧ report.Reports n ∧
      (∃ cause, Presence.updateNetworkInfo s 1 unreadable = (.refused cause, s)) ∧
      s.Feasible [.request 1 report, search] ∧ (s.run [.request 1 report]).Exhibits 1 n search ∧
      (t.session 2).heard.map (fun p => [Place.user, .member 1, .host].map p.shown?) =
        [[some n, none, none], [none, some n, some n]] := by
  intro account store login events s n other report unreadable search t
  have feasible : (start store).Feasible events :=
    ⟨by decide +kernel, by decide +kernel, by decide +kernel⟩
  have more : s.Feasible [.request 1 report, search] :=
    ⟨by decide +kernel, by decide +kernel, by decide +kernel⟩
  have quiet : ∀ e ∈ [search], ∀ m, ¬e.Reports 1 m := by
    rintro e listed m ⟨request, rfl, -⟩
    exact absurd (List.mem_singleton.1 listed) (by simp [search])
  have missing : ∀ m, ¬unreadable.Reports m := by
    rintro m ⟨-, content, records, -⟩
    have malformed : unreadable.records = .error .unexpectedEnd := by rfl
    rw [malformed] at records
    cases records
  obtain ⟨written, -, refused, exhibits⟩ :=
    network_run store events feasible 1 (by decide +kernel) n
  have reports : report.Reports n :=
    written _ other [] other [] rfl (by rfl) (by decide) (by rfl)
  obtain ⟨cause, failed, -⟩ := refused unreadable rfl missing
  exact ⟨feasible, reports, ⟨cause, failed⟩, more,
    exhibits report [search] reports more quiet [.request 1 report] search [] rfl,
    by decide +kernel⟩

end Server

end Lobby
