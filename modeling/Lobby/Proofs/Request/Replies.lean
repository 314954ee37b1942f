import Lobby.Proofs.Server.Modest

/-!
# Replies are of moderate size

A reply says little but for the texts of an account, a section of the client configuration, or the
settings of a player.  Only the last can make it too large: `Router.moderate_dispatch`.
-/

namespace Lobby

theorem Packet.moderate_response (request : Packet) {records : Content} {n : Nat}
    (size : Record.sizeAll records ≤ n) (small : n ≤ leastLimit) :
    (request.response records).Moderate :=
  .of_le ((length_response request records).le.trans size) small

/-- A reply of one number. -/
theorem Packet.moderate_number (request : Packet) (label : Label) (n : Int64) :
    (request.response [.varint label n]).Moderate :=
  moderate_response request (Record.size_varint_le label n) (by decide)

theorem Packet.moderate_empty {p : Packet} (empty : p.contents = []) : p.Moderate := by
  refine .of_le (n := 0) ?_ (Nat.zero_le _)
  rw [empty]
  exact Nat.le_refl 0

/-- A session that is there gets moderate replies, as long as texts are short. -/
def Server.Answers (s : Server) (session : SessionId) (_ : Packet) (result : Outcome × Server) :
    Prop :=
  s.stage.Modest → s.seating.present session = true →
    ∀ replies, result.1 = .replied replies → ∀ p ∈ replies, p.Moderate

namespace Handler

abbrev Answers (route : Route) (h : Handler) : Prop := h.Meets Server.Answers route

variable {route : Route}

theorem answers_refused (s : Server) (session : SessionId) (request : Packet) (cause : Refusal) :
    s.Answers session request (.refused cause, s) := nofun

theorem answers_one {s t : Server} {session : SessionId} {request reply : Packet}
    (moderate : s.stage.Modest → reply.Moderate) :
    s.Answers session request (.replied [reply], t) := by
  rintro modest - replies ⟨⟩ p hp
  rw [List.mem_singleton.1 hp]
  exact moderate modest

theorem answers_acting {α : Type} {check : Check α} {act : Server → SessionId → α → Server} :
    Answers route (acting check act) :=
  meets_acting answers_refused fun _ _ _ _ _ _ => answers_one fun _ => Packet.moderate_empty rfl

theorem answers_answering {check : Check Content}
    (moderate : ∀ (s : Server) session request records, s.stage.Modest →
      check s session request = .ok records → (request.response records).Moderate) :
    Answers route (answering check) :=
  meets_answering answers_refused fun s session request records _ passed =>
    answers_one fun modest => moderate s session request records modest passed

end Handler

open Handler

variable {route : Route}

/-! ### Logging in and out -/

namespace Authentication

theorem sizeAll_loginRecords_le (a : Account) :
    Record.sizeAll (loginRecords a) ≤ 2 * a.textSize + 512 := by
  have empty : (Bytes.ofString "").length = 0 := rfl
  simp only [loginRecords, Record.size_group, Record.sizeAll_cons, Record.sizeAll_nil,
    Account.textSize, Player.nameSize]
  grind

theorem answers_complete {s : Server} {session : SessionId} {request : Packet} {a : Account}
    (account : a ∈ s.store.accounts.values) :
    s.Answers session request (complete s session request a) := by
  rintro modest present replies ⟨⟩ p hp
  have login : ((s.setPlayer session (some a.player)).session session).player = some a.player :=
    (congrFun (congrArg Stage.player (Server.stage_setPlayer present _)) session).trans (if_pos rfl)
  rcases List.mem_cons.1 hp with rfl | hp
  · have texts := modest.store.account a account
    refine Packet.moderate_response request (sizeAll_loginRecords_le a) ?_
    rw [maxText] at texts
    rw [leastLimit]
    omega
  · rcases List.mem_append.1 hp with hp | hp
    · exact Session.moderate_added? login (modest.store.short account) (Option.mem_toList.1 hp)
    · exact Packet.Minor.moderate (.updated (Option.mem_toList.1 hp))

theorem answers_login : login.Answers route :=
  meets_checked answers_refused fun _ _ _ _ _ passed =>
    answers_complete (mem_of_checkPassword passed)

theorem answers_silentLogin : silentLogin.Answers route :=
  meets_checked answers_refused fun _ _ _ _ _ passed =>
    answers_complete (mem_of_checkToken passed)

theorem answers_listEntitlements : listEntitlements.Answers route := by
  refine answers_answering fun s session request records _ passed => ?_
  obtain ⟨player, -, found⟩ := bind_eq_ok passed
  cases found
  exact Packet.moderate_response request (n := 16) (by decide +kernel) (by decide)

end Authentication

/-! ### Connections and settings -/

namespace Utility

theorem answers_preAuth : preAuth.Answers route := by
  refine answers_answering ?_
  rintro s session request _ - ⟨⟩
  exact Packet.moderate_response request (n := 512) (by decide +kernel) (by decide)

theorem answers_postAuth : postAuth.Answers route := by
  refine answers_answering fun s session request records _ passed => ?_
  obtain ⟨player, -, found⟩ := bind_eq_ok passed
  cases found
  refine Packet.moderate_response request (n := 512) ?_ (by decide)
  have empty : (Bytes.ofString "").length = 0 := rfl
  simp only [Record.size_group, Record.sizeAll_cons, Record.sizeAll_nil]
  grind

theorem answers_ping : ping.Answers route := fun _ _ request _ =>
  answers_one fun _ => request.moderate_number _ _

theorem answers_fetchClientConfig : fetchClientConfig.Answers route := by
  refine answers_answering fun s session request records modest passed => ?_
  obtain ⟨content, -, passed⟩ := bind_eq_ok passed
  obtain ⟨name, -, passed⟩ := bind_eq_ok passed
  obtain ⟨config, stored, found⟩ := bind_eq_ok passed
  cases found
  have texts : Record.textSize (config.getD ∅) ≤ maxText := by
    have search := Check.stored_ask_eq_ok stored
    cases config with
    | none => exact Nat.zero_le _
    | some a => exact modest.store.clientConfig a (SortedMap.mem_values_of_get? search)
  refine Packet.moderate_response request (Record.size_attributes_le Field.conf _) ?_
  rw [maxText] at texts
  rw [leastLimit]
  omega

theorem answers_loadSettings : loadSettings.Answers route := by
  refine answers_answering fun s session request records _ passed => ?_
  obtain ⟨player, -, passed⟩ := bind_eq_ok passed
  obtain ⟨settings, -, found⟩ := bind_eq_ok passed
  cases found
  refine .inr ⟨settings, .settings request settings, ?_⟩
  have size : (Record.attributes Field.smap settings).size =
      (Record.attributes Field.attr settings).size := by
    rw [Record.size_attributes, Record.size_attributes]
  rw [Packet.length_response, Record.sizeAll_cons, Record.sizeAll_nil, size]
  exact Nat.le_add_left _ _

end Utility

/-! ### Games -/

namespace Games

theorem answers_createGame : createGame.Answers route := by
  refine meets_checked answers_refused ?_
  rintro s session request ⟨attributes, setting⟩ - -
  dsimp only
  split
  · exact nofun
  · exact answers_one fun _ => request.moderate_number _ _

theorem answers_startMatchmaking : startMatchmaking.Answers route := by
  refine meets_checked answers_refused ?_
  intro s session request rules _ _
  have reply : (request.response [.nat Field.msid session.toNat]).Moderate :=
    request.moderate_number _ _
  dsimp only
  split
  · exact answers_one fun _ => reply
  · split
    · exact answers_one fun _ => reply
    · exact answers_one fun _ => reply
    · exact answers_one fun _ => reply
    · exact answers_one fun _ => reply
    · exact nofun

end Games

/-! ### All routes -/

theorem Router.answers_routes : OnRoutes Handler.Answers where
  login := Authentication.answers_login
  silentLogin := Authentication.answers_silentLogin
  logout := answers_acting
  listEntitlements := Authentication.answers_listEntitlements
  preAuth := Utility.answers_preAuth
  postAuth := Utility.answers_postAuth
  ping := Utility.answers_ping
  fetchClientConfig := Utility.answers_fetchClientConfig
  saveSetting := answers_acting
  loadSettings := Utility.answers_loadSettings
  updateNetworkInfo := answers_acting
  updateHardwareFlags := answers_acting
  createGame := Games.answers_createGame
  setAttributes := answers_acting
  advanceState := answers_acting
  setSettings := answers_acting
  removePlayer := answers_acting
  startMatchmaking := Games.answers_startMatchmaking
  cancelMatchmaking := answers_acting
  updateMeshConnection := answers_acting

/-- A refusal has no content. -/
theorem Router.refuse_eq (request : Packet) (cause : Refusal) :
    ∃ reply, (refuse request cause).1 = [reply] ∧ reply.contents = [] := by
  unfold refuse
  split
  · exact ⟨_, rfl, rfl⟩
  · split <;> exact ⟨_, rfl, rfl⟩

/-- **Replies are of moderate size.** -/
theorem Router.moderate_dispatch {s : Server} (modest : s.stage.Modest) {session : SessionId}
    (present : s.seating.present session = true) (request : Packet) :
    ∀ p ∈ (standard.dispatch s session request).1, p.Moderate := by
  have empty {reply : Packet} (contents : reply.contents = []) : ∀ p ∈ [reply], p.Moderate := by
    intro p hp
    rw [List.mem_singleton.1 hp]
    exact Packet.moderate_empty contents
  rcases standard.dispatch_cases s session request with ⟨-, result⟩ | ⟨handler, found, cases⟩
  · rw [result]
    exact empty rfl
  · rcases cases with ⟨replies, outcome, result⟩ | ⟨cause, -, result⟩ | ⟨text, -, result⟩
    · rw [result]
      exact meets_handler? answers_routes.standard found s session modest present replies outcome
    · rw [result]
      obtain ⟨reply, replies, contents⟩ := refuse_eq request cause
      rw [replies]
      exact empty contents
    · rw [result]
      exact empty rfl

end Lobby
