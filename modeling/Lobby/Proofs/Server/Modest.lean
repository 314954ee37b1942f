import Lobby.Proofs.Game.Size
import Lobby.Proofs.Server.Crew

/-!
# What is told is of moderate size

As long as the texts in the store are short, so are the names of players.  Then nothing but the
attributes of a game makes a notice large (`Stage.Modest.deed`).
-/

namespace Lobby

/-! ### Short texts -/

/-- The number of bytes that the texts of an account, or of a section of the client configuration,
have together at most. -/
def maxText : Nat := 1024

def Account.textSize (a : Account) : Nat :=
  a.player.nameSize + (Bytes.ofString a.email).length + (Bytes.ofString a.password).length +
    (Bytes.ofString a.token).length

def Player.Short (p : Player) : Prop := p.nameSize ≤ maxText

/-- The texts of accounts and of the client configuration are short. -/
structure Store.Modest (s : Store) : Prop where
  account : ∀ a ∈ s.accounts.values, a.textSize ≤ maxText
  clientConfig : ∀ a ∈ s.clientConfigs.values, Record.textSize a ≤ maxText

theorem Store.Modest.short {s : Store} (h : s.Modest) {a : Account}
    (account : a ∈ s.accounts.values) : a.player.Short := by
  have texts := h.account a account
  rw [Account.textSize] at texts
  rw [Player.Short]
  omega

/-! ### Moderate packets -/

/-- The packet carries attributes that players have piled up: those of a game, or the settings of a
player. -/
inductive Packet.Bears : Attributes → Packet → Prop
  | setup (setup : GameSetup) (context : JoinContext) :
      Bears setup.attributes (Notice.gameSetup setup context)
  | changed (i : GameId) (a : Attributes) : Bears a (Notice.gameAttributesChanged i a)
  | settings (request : Packet) (a : Attributes) :
      Bears a (request.response [.attributes Field.smap a])

/-- The content that every limit allows. -/
def leastLimit : Nat := 0xffff

/-- What a packet takes at most beside the attributes that it bears. -/
def overhead : Nat := 8192

/-- Only attributes that a packet bears make it too large. -/
def Packet.Moderate (p : Packet) : Prop :=
  p.contents.length ≤ leastLimit ∨
    ∃ a, p.Bears a ∧ p.contents.length ≤ overhead + (Record.attributes Field.attr a).size

theorem Packet.Moderate.of_le {p : Packet} {n : Nat} (size : p.contents.length ≤ n)
    (small : n ≤ leastLimit) : p.Moderate := .inl (size.trans small)

namespace Notice

theorem moderate_numbers (route : Route) {rs : Content} (numbers : ∀ r ∈ rs, r.size ≤ 14)
    (few : rs.length ≤ 4) : (Packet.notification route rs).Moderate :=
  .of_le (n := 56) ((length_numbers_le route numbers).trans (Nat.mul_le_mul_right 14 few))
    (by decide)

theorem moderate_playerRemoved (i : GameId) (player : PlayerId) (reason : Int64) :
    (playerRemoved i player reason).Moderate := by
  refine moderate_numbers _ ?_ (Nat.le_refl 4)
  simp only [List.forall_mem_cons]
  exact ⟨Record.size_nat_le _ _, Record.size_nat_le _ _, Record.size_nat_le _ _,
    Record.size_varint_le _ _, nofun⟩

theorem moderate_setup {g : Game} (few : g.count ≤ gameCapacity)
    (names : ∀ m ∈ g.roster, m.player.Short) {host : Member} (hostName : host.player.Short)
    (network : SessionId → Network) (context : JoinContext) :
    (gameSetup (g.setup network host) context).Moderate := by
  have members : (g.setup network host).members.length ≤ gameCapacity := by
    rw [Game.setup, List.length_map]
    exact few
  have short : ∀ p ∈ (g.setup network host).members, p.member.player.nameSize ≤ maxText := by
    simp only [Game.setup, List.forall_mem_map]
    exact names
  have size := length_gameSetup_le context members hostName short
  exact .inr ⟨g.attributes, .setup (g.setup network host) context,
    size.trans (Nat.add_le_add_right (by decide) _)⟩

end Notice

theorem Packet.Minor.moderate {p : Packet} (minor : p.Minor) : p.Moderate := by
  cases minor with
  | updated updated => exact .of_le (Session.length_updated?_le updated) (by decide)
  | completed i player =>
    refine Notice.moderate_numbers _ ?_ (Nat.le_of_ble_eq_true rfl)
    simp only [List.forall_mem_cons]
    exact ⟨Record.size_nat_le _ _, Record.size_nat_le _ _, nofun⟩
  | failed session player =>
    refine Notice.moderate_numbers _ ?_ (Nat.le_refl 4)
    simp only [List.forall_mem_cons]
    exact ⟨Record.size_nat_le _ _, Record.size_nat_le _ _, Record.size_nat_le _ _,
      Record.size_nat_le _ _, nofun⟩

theorem Change.moderate_notice (c : Change) (i : GameId) (g : Game) : (c.notice i g).Moderate := by
  have pair {r r' : Record} (first : r.size ≤ 14) (second : r'.size ≤ 14) :
      ∀ s ∈ [r, r'], s.size ≤ 14 := by
    simp only [List.forall_mem_cons]
    exact ⟨first, second, nofun⟩
  cases c with
  | attributes a =>
    refine .inr ⟨g.attributes, .changed i _, (Notice.length_gameAttributesChanged_le i _).trans ?_⟩
    rw [Nat.add_comm]
    exact Nat.add_le_add_right (by decide) _
  | state v =>
    exact Notice.moderate_numbers _ (pair (Record.size_nat_le _ _) (Record.size_nat_le _ _))
      (Nat.le_of_ble_eq_true rfl)
  | setting v =>
    exact Notice.moderate_numbers _ (pair (Record.size_nat_le _ _) (Record.size_nat_le _ _))
      (Nat.le_of_ble_eq_true rfl)

theorem Session.moderate_added? {x : Session} {player : Player} (login : x.player = some player)
    (name : player.Short) {p : Packet} (added : x.added? = some p) : p.Moderate :=
  .of_le ((length_added?_le login added).trans (Nat.add_le_add_right name 256)) (by decide)

namespace Server

variable {s : Server} {i : GameId} {g : Game}

theorem eq_of_setup? {setup : GameSetup} (found : s.games.get? i = some g)
    (described : s.setup? i = some setup) :
    ∃ host ∈ g.roster, setup = g.setup (fun id => (s.session id).network) host := by
  cases member : g.hostMember? with
  | none =>
    rw [setup?, found] at described
    simp [member] at described
  | some host =>
    rw [setup?_eq found member, Option.some.injEq] at described
    exact ⟨host, List.mem_of_find?_eq_some member, described.symm⟩

/-- A newcomer and the members before it are introduced by names, and to the whole game. -/
theorem moderate_introduction (found : s.games.get? i = some g) (few : g.count ≤ gameCapacity)
    (names : ∀ m ∈ g.roster, m.player.Short) {newcomer : Member} (member : newcomer ∈ g.roster)
    (players : ∀ id p, (s.session id).player = some p → p.Short) {context : JoinContext}
    {others : List SessionId} {id : SessionId} :
    ∀ p ∈ s.introduction i newcomer context others id, p.Moderate := by
  have added (id : SessionId) {p : Packet} (hp : (s.session id).added? = some p) : p.Moderate := by
    obtain ⟨player, login, -⟩ := Option.map_eq_some_iff.1 hp
    exact Session.moderate_added? login (players id player login) hp
  intro p hp
  rw [introduction] at hp
  split at hp
  · cases hp
  · next setup described =>
    obtain ⟨host, hosts, rfl⟩ := eq_of_setup? found described
    split at hp
    · rcases List.mem_append.1 hp with hp | hp
      · obtain ⟨other, -, hp⟩ := List.mem_filterMap.1 hp
        exact added other hp
      · rw [List.mem_singleton.1 hp]
        exact Notice.moderate_setup few names (names host hosts) _ context
    · split at hp
      · rw [arrival] at hp
        rcases List.mem_append.1 hp with hp | hp
        · rcases List.mem_append.1 hp with hp | hp
          · exact added newcomer.session (Option.mem_toList.1 hp)
          · exact Packet.Minor.moderate (.updated (Option.mem_toList.1 hp))
        · split at hp
          · rw [List.mem_singleton.1 hp]
            refine .of_le ((Notice.length_playerJoining_le _ _).trans
              (Nat.add_le_add_right (names newcomer member) 300)) (by decide)
          · cases hp
      · cases hp

end Server

/-! ### The invariant -/

namespace Stage

variable {e : Event} {g k : Stage}

/-- Names are short, and everything that was said is of moderate size. -/
structure Modest (g : Stage) : Prop where
  store : g.store.Modest
  player : ∀ id p, g.player id = some p → p.Short
  member : ∀ i x, g.game i = some x → ∀ m ∈ x.roster, m.player.Short
  heard : ∀ id, ∀ p ∈ g.heard id, p.Moderate

theorem Modest.setPlayer (h : g.Modest) (id : SessionId) {player : Option Player}
    (short : ∀ p, player = some p → p.Short) : (g.setPlayer id player).Modest where
  store := h.store
  player other p login := by
    by_cases same : other = id
    · exact short p ((if_pos same).symm.trans login)
    · exact h.player other p ((if_neg same).symm.trans login)
  member := h.member
  heard := h.heard

theorem Modest.setGame (h : g.Modest) (i : GameId) {x : Game}
    (short : ∀ m ∈ x.roster, m.player.Short) : (g.setGame i x).Modest where
  store := h.store
  player := h.player
  member j y found := by
    by_cases same : j = i
    · obtain rfl := Option.some.inj ((if_pos same).symm.trans found)
      exact short
    · exact h.member j y ((if_neg same).symm.trans found)
  heard := h.heard

theorem Modest.tell (h : g.Modest) {told : SessionId → List Packet}
    (moderate : ∀ id, ∀ p ∈ told id, p.Moderate) : (g.tell told).Modest where
  store := h.store
  player := h.player
  member := h.member
  heard id p hp := by
    rcases mem_heard_tell hp with old | new
    · exact h.heard id p old
    · exact moderate id p new

/-- Some sessions are told the same. -/
theorem Modest.tell_if (h : g.Modest) {test : SessionId → Prop} [DecidablePred test] {p : Packet}
    (moderate : p.Moderate) : (g.tell fun id => if test id then [p] else []).Modest := by
  refine h.tell fun id q hq => ?_
  split at hq
  · rwa [List.mem_singleton.1 hq]
  · cases hq

theorem Modest.deed (h : g.Modest) (restocked : ∀ store, e = .restock store → store.Modest)
    (deed : Deed e g k) : k.Modest := by
  cases deed with
  | @enter id _ =>
    refine ⟨h.store, fun other p login => ?_, h.member, fun other p hp => ?_⟩
    · by_cases same : other = id
      · cases (if_pos same).symm.trans login
      · exact h.player other p ((if_neg same).symm.trans login)
    · simp only [Stage.enter] at hp
      split at hp
      · cases hp
      · exact h.heard other p hp
  | close id =>
    refine ⟨h.store, h.player, h.member, fun other p hp => ?_⟩
    simp only [Stage.close] at hp
    split at hp
    · cases hp
    · exact h.heard other p hp
  | @restock store event => exact ⟨restocked store event, h.player, h.member, h.heard⟩
  | save settings => exact ⟨⟨h.store.account, h.store.clientConfig⟩, h.player, h.member, h.heard⟩
  | @logIn id a account _ =>
    refine h.setPlayer id ?_
    rintro _ ⟨⟩
    exact h.store.short account
  | @logOut id _ => exact h.setPlayer id nofun
  | tell minor => exact h.tell fun id p hp => (minor id p hp).moderate
  | @change i x found c _ =>
    refine (h.setGame i ?_).tell_if (c.moderate_notice i _)
    rw [Change.roster_apply]
    exact h.member i x found
  | @host i mid m setting _ _ _ player _ network =>
    have name := h.player m.session m.player player
    have names : ∀ o ∈ (Game.hosted i mid m.session m.player e.attributes setting).roster,
        o.player.Short := by
      intro o ho
      rw [List.mem_singleton.1 ho]
      exact name
    exact (h.setGame i names).tell_if
      (Notice.moderate_setup (Nat.le_of_ble_eq_true rfl) names name network .created)
  | @join i x m t _ found _ room _ _ player _ game players _ context =>
    have name := h.player m.session m.player player
    have names : ∀ o ∈ (x.seat m).roster, o.player.Short := by
      intro o ho
      rcases List.mem_cons.1 ((Lineup.seatIn_perm m x.roster).mem_iff.1 ho) with rfl | old
      · exact name
      · exact h.member i x found o old
    have few : (x.seat m).count ≤ gameCapacity := by
      rw [Game.count_seat]
      exact room
    have newcomer : m ∈ (x.seat m).roster :=
      (Lineup.seatIn_perm m x.roster).mem_iff.2 List.mem_cons_self
    refine (h.setGame i names).tell fun id => ?_
    refine Server.moderate_introduction game few names newcomer fun id p login => ?_
    exact h.player id p ((congrFun players id).symm.trans login)
  | @leave i x rest m removal found _ removed registered reason updates minor =>
    refine (h.setGame i (x := { rest with registered }) ?_).tell fun id p hp => ?_
    · intro o ho
      dsimp only at ho
      rw [Game.roster_remove? removed] at ho
      exact h.member i x found o (List.mem_of_mem_eraseP ho)
    · have removal := Notice.moderate_playerRemoved i m.player.id reason
      rcases List.mem_append.1 hp with hp | hp
      · split at hp
        · rwa [List.mem_singleton.1 hp]
        · cases hp
      · split at hp
        · rcases List.mem_cons.1 hp with rfl | hp
          · exact removal
          · exact (minor p hp).moderate
        · cases hp

end Stage

end Lobby
