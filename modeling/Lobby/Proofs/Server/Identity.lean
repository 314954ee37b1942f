import Lobby.Proofs.Server.History

/-!
# Who the members of a game are

A roster keeps the player that a member was logged in as when it came in.  Logging out takes a
session out of its game first, so every member is logged in.  Logging in again does not, so a member
may be logged in as another player than its roster says: `Server.member_run_relogin`.  But the
roster is right about every session that no login has made another player since it was in no game,
whatever other sessions do.
-/

namespace Lobby

namespace Stage

variable {e : Event} {g k : Stage}

/-- Whoever is a member after a deed was one before, or has come in as the player it is. -/
theorem Deed.member (deed : Deed e g k) {i : GameId} {y : Game} (found : k.game i = some y)
    {m : Member} (member : m ∈ y.roster) :
    (∃ x, g.game i = some x ∧ m ∈ x.roster) ∨
      e.login? = none ∧ k.player m.session = some m.player := by
  -- a game that is set is the one that is asked for, or that one is as before
  have set {j : GameId} {x : Game} {told : SessionId → List Packet}
      (found : ((g.setGame j x).tell told).game i = some y) :
      i = j ∧ x = y ∨ g.game i = some y := by
    by_cases same : i = j
    · exact .inl ⟨same, Option.some.inj ((if_pos same).symm.trans found)⟩
    · exact .inr ((if_neg same).symm.trans found)
  cases deed with
  | change stored c _ =>
    rcases set found with ⟨rfl, rfl⟩ | old
    · rw [Change.roster_apply] at member
      exact .inl ⟨_, stored, member⟩
    · exact .inl ⟨y, old, member⟩
  | @host _ _ newcomer _ other _ _ player slot _ =>
    rcases set found with ⟨rfl, rfl⟩ | old
    · rw [show m = ⟨newcomer.session, newcomer.player, 0⟩ from List.mem_singleton.1 member]
      exact .inr ⟨other, player⟩
    · exact .inl ⟨y, old, member⟩
  | join other stored _ _ _ _ player _ _ _ _ _ =>
    rcases set found with ⟨rfl, rfl⟩ | old
    · rcases List.mem_cons.1 ((Lineup.seatIn_perm _ _).mem_iff.1 member) with rfl | member
      · exact .inr ⟨other, player⟩
      · exact .inl ⟨_, stored, member⟩
    · exact .inl ⟨y, old, member⟩
  | leave stored _ removed _ _ _ =>
    rcases set found with ⟨rfl, rfl⟩ | old
    · dsimp only at member
      rw [Game.roster_remove? removed] at member
      exact .inl ⟨_, stored, List.mem_of_mem_eraseP member⟩
    · exact .inl ⟨y, old, member⟩
  | _ => exact .inl ⟨y, found, member⟩

/-- Only a login makes a session another player, and only one that is in no game is logged out. -/
theorem Deed.player (deed : Deed e g k) (id : SessionId) :
    k.player id = g.player id ∨ e.login? = some id ∧ (k.player id).isSome = true ∨ g.Idle id := by
  cases deed with
  | @enter other idle =>
    by_cases same : id = other
    · exact .inr (.inr (same ▸ idle))
    · exact .inl (if_neg same)
  | @logIn other a _ asked =>
    by_cases same : id = other
    · refine .inr (.inl ⟨same ▸ asked, ?_⟩)
      simp [setPlayer, same]
    · exact .inl (if_neg same)
  | @logOut other idle =>
    by_cases same : id = other
    · exact .inr (.inr (same ▸ idle))
    · exact .inl (if_neg same)
  | _ => exact .inl rfl

def LoggedIn (g : Stage) : Prop :=
  ∀ i x, g.game i = some x → ∀ m ∈ x.roster, (g.player m.session).isSome = true

theorem LoggedIn.deed (h : g.LoggedIn) (deed : Deed e g k) : k.LoggedIn := by
  intro i y found m member
  rcases deed.member found member with ⟨x, stored, old⟩ | ⟨-, player⟩
  · rcases deed.player m.session with same | ⟨-, some⟩ | idle
    · rw [same]
      exact h i x stored m old
    · exact some
    · exact absurd rfl (idle i x stored m old)
  · rw [player]
    rfl

/-- A session is logged in as the player that rosters have it as. -/
def Faithful (g : Stage) (id : SessionId) : Prop :=
  ∀ i x, g.game i = some x → ∀ m ∈ x.roster, m.session = id → g.player id = some m.player

theorem Faithful.deed {id : SessionId} (h : g.Faithful id) (other : e.login? ≠ some id)
    (deed : Deed e g k) : k.Faithful id := by
  rintro i y found m member rfl
  rcases deed.member found member with ⟨x, stored, old⟩ | ⟨-, player⟩
  · rcases deed.player m.session with same | ⟨asked, -⟩ | idle
    · exact same.trans (h i x stored m old rfl)
    · exact absurd asked other
    · exact absurd rfl (idle i x stored m old)
  · exact player

/-- A login gets nobody into a game. -/
theorem Deeds.member_of_login {id : SessionId} (asked : e.login? = some id) (deeds : Deeds e g k)
    {i : GameId} {y : Game} (found : k.game i = some y) {m : Member} (member : m ∈ y.roster) :
    ∃ x, g.game i = some x ∧ m ∈ x.roster := by
  refine deeds.keep (P := fun k => ∀ i y, k.game i = some y → ∀ m ∈ y.roster,
    ∃ x, g.game i = some x ∧ m ∈ x.roster) ?_ (fun i y found m member => ⟨y, found, member⟩)
    i y found m member
  intro g k _ before deed i y found m member
  rcases deed.member found member with ⟨x, stored, old⟩ | ⟨other, -⟩
  · exact before i x stored m old
  · rw [asked] at other
    cases other

end Stage

namespace Server

variable {s : Server} {id : SessionId}

/-! ### Sessions that stay the players they are -/

/-- An event does not make a session another player while it is in a game. -/
def steady (s : Server) (id : SessionId) (e : Event) : Bool :=
  e.login? ≠ some id || (s.session id).seat.isNone ||
    ((s.after e).session id).player = (s.session id).player

def steadyAll (s : Server) (id : SessionId) : List Event → Bool
  | [] => true
  | e :: events => s.steady id e && (s.after e).steadyAll id events

/-- **An event that is steady for a session keeps rosters right about it.** -/
theorem faithful_after (h : s.seating.Coherent) (faithful : s.stage.Faithful id) {e : Event}
    (deeds : Stage.Deeds e s.stage (s.after e).stage) (steady : s.steady id e = true) :
    (s.after e).stage.Faithful id := by
  by_cases asked : e.login? = some id
  · -- whoever is a member after the login was one before, and so has a seat
    rintro i y found m member rfl
    obtain ⟨x, stored, old⟩ := deeds.member_of_login asked found member
    have seated : (s.session m.session).seat = some ⟨i, m.slot⟩ :=
      h.seat (s.lineup_seating stored) m old
    have same : ((s.after e).session m.session).player = (s.session m.session).player := by
      simpa [Server.steady, asked, seated] using steady
    exact same.trans (faithful i x stored m old rfl)
  · exact deeds.keep (P := (·.Faithful id)) (fun _ right deed => right.deed asked deed) faithful

theorem faithful_run {events : List Event} (h : s.seating.Coherent) (feasible : s.Feasible events)
    (steady : s.steadyAll id events = true) (faithful : s.stage.Faithful id) :
    (s.run events).stage.Faithful id := by
  induction events generalizing s with
  | nil => exact faithful
  | cons e events ih =>
    obtain ⟨coherent, rest⟩ := feasible.after h
    obtain ⟨first, others⟩ := Bool.and_eq_true_iff.1 steady
    exact ih coherent rest others (faithful_after h faithful (feasible.deeds h) first)

/-- **Members are logged in**, and as the players that rosters say if no login has made them others
while they were in a game.  For each this counts from any moment at which it was in none. -/
theorem member_run (store : Store) (events : List Event)
    (feasible : (start store).Feasible events) :
    let s := (start store).run events
    ∀ i g, s.findGame? i = some g → ∀ m ∈ g.roster,
      (s.session m.session).isLoggedIn = true ∧
        ∀ before later, events = before ++ later →
          let t := (start store).run before
          (t.session m.session).seat = none → t.steadyAll m.session later = true →
            (s.session m.session).player = some m.player := by
  intro s i g registered m member
  obtain ⟨found, -⟩ := Option.filter_eq_some_iff.1 registered
  have coherent := coherent_start store
  have loggedIn : s.stage.LoggedIn :=
    keep_run (fun _ _ _ _ _ h deed => h.deed deed) coherent feasible nofun
  refine ⟨loggedIn i g found m member, ?_⟩
  rintro before later rfl t free steady
  obtain ⟨coherent, rest⟩ := feasible.run coherent
  have outside : t.stage.Faithful m.session := fun i x stored o old here =>
    absurd here (idle_stage coherent free i x stored o old)
  have now : s = t.run later := run_append (start store) before later
  rw [now] at found ⊢
  exact faithful_run coherent rest steady outside i g found m member rfl

/-- A player logs in as another one in its own game and logs out; then it finds the game of a second
player, who does the same there. -/
theorem member_run_pair :
    let account (id : PlayerId) (email : String) : Account := ⟨⟨id, email⟩, email, "word", "token"⟩
    let store : Store :=
      ⟨.ofList [(1, account 1 "a@b"), (2, account 2 "c@d"), (3, account 3 "e@f")], ∅, ∅, 4, true⟩
    let login (email : String) : Packet :=
      .request Route.login 0 [.string Field.mail email, .string Field.pass "word"]
    let before : List Event :=
      [.connect none, .connect none, .request 1 (login "a@b"), .request 2 (login "c@d"),
        .request 2 (.request Route.createGame 0 []), .request 2 (login "e@f"),
        .request 2 (.request Route.logout 0 [])]
    let later : List Event :=
      [.request 1 (.request Route.createGame 0 []), .request 2 (login "c@d"),
        .request 2 (.request Route.startMatchmaking 0 []), .request 1 (login "e@f")]
    let t := (start store).run before
    let s := (start store).run (before ++ later)
    (start store).Feasible (before ++ later) ∧ (t.session 2).seat = none ∧
      t.steadyAll 2 later = true ∧ (start store).steadyAll 2 before = false ∧
      (∀ i g, s.findGame? i = some g → ∀ m ∈ g.roster, m.session = 2 →
        (s.session 2).player = some m.player) ∧
      (s.findGame? 2).map (·.sessions) = some [1, 2] := by
  intro account store login before later t s
  have feasible : (start store).Feasible (before ++ later) :=
    ⟨by decide +kernel, by decide +kernel, by decide +kernel⟩
  have free : (t.session 2).seat = none := by decide +kernel
  have steady : t.steadyAll 2 later = true := by decide +kernel
  refine ⟨feasible, free, steady, by decide +kernel, fun i g found m member here => ?_,
    by decide +kernel⟩
  obtain ⟨-, right⟩ := member_run store (before ++ later) feasible i g found m member
  rw [here] at right
  exact right before later rfl free steady

/-- A player creates a game and logs in as another one: the roster still has the first. -/
theorem member_run_relogin :
    let account (id : PlayerId) (email : String) : Account := ⟨⟨id, email⟩, email, "word", "token"⟩
    let store : Store := ⟨.ofList [(1, account 1 "a@b"), (2, account 2 "c@d")], ∅, ∅, 3, true⟩
    let login (email : String) : Packet :=
      .request Route.login 0 [.string Field.mail email, .string Field.pass "word"]
    let events : List Event :=
      [.connect none, .request 1 (login "a@b"), .request 1 (.request Route.createGame 0 []),
        .request 1 (login "c@d")]
    let s := (start store).run events
    (start store).Feasible events ∧
      ¬∀ i g, s.findGame? i = some g → ∀ m ∈ g.roster,
        (s.session m.session).player = some m.player := by
  intro account store login events s
  refine ⟨⟨by decide +kernel, by decide +kernel, by decide +kernel⟩, fun right => ?_⟩
  have wrong : ((s.findGame? 1).any fun g => g.roster.any fun m =>
      (s.session m.session).player ≠ some m.player) = true := by decide +kernel
  obtain ⟨g, found, wrong⟩ := (Option.any_eq_true _ _).1 wrong
  obtain ⟨m, member, wrong⟩ := List.any_eq_true.1 wrong
  exact of_decide_eq_true wrong (right 1 g found m member)

end Server

end Lobby
