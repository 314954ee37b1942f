import Lobby.Proofs.Request.Ledger

/-!
# The balance of games

In every state of a run the games that were created are those that were released and those that are
registered (`Ledger.Balanced`).  A creation is counted when the game is entered, and an eviction is
not counted at all; but in a coherent seating there is nothing to evict, and a game that is struck
out was listed, so none is struck out twice.

A game that is out of the register is out of it for good (`Seating.Gone`): nobody sits down in a
game that is inactive, and the next game to be created has an id of its own.
-/

namespace Lobby

/-! ### Counting the register -/

/-- A list of the games of a register, each of them once. -/
structure Lists (listed : GameId → Bool) (ids : List GameId) : Prop where
  distinct : ids.Nodup
  listed : ∀ i, i ∈ ids ↔ listed i = true

namespace Ledger

/-- Every game that was created was counted, and was either released and counted as released, or is
registered. -/
structure Balanced (l : Ledger) : Prop where
  created : l.metrics.gamesCreated.toNat = l.created.toNat
  released : ∃ ids, Lists l.listed ids ∧ l.metrics.gamesReleased.toNat + ids.length = l.created.toNat

variable {tidy : Prop} {route : Route} {l k : Ledger} {ids : List GameId}

theorem length_eq {others : List GameId} (h : Lists l.listed ids) (h' : Lists l.listed others) :
    ids.length = others.length := by
  refine ((List.perm_ext_iff_of_nodup h.distinct h'.distinct).2 fun i => ?_).length_eq
  rw [h.listed, h'.listed]

theorem lists_enter (h : Lists l.listed ids) (unlisted : l.listed (1 + l.created) = false) :
    Lists l.enter.listed ((1 + l.created) :: ids) where
  distinct := by
    refine List.nodup_cons.2 ⟨fun mem => ?_, h.distinct⟩
    rw [h.listed, unlisted] at mem
    cases mem
  listed := by
    intro i
    rw [List.mem_cons, h.listed, Ledger.enter]
    by_cases e : i = 1 + l.created <;> simp [e]

theorem lists_strike (h : Lists l.listed ids) (i : GameId) :
    Lists (l.strike i).listed (ids.erase i) where
  distinct := h.distinct.erase i
  listed := by
    intro j
    rw [h.distinct.mem_erase_iff, h.listed, Ledger.strike]
    by_cases e : j = i <;> simp [e]

/-- The counters of games do not run over, since the number of games does not. -/
theorem toNat_succ {a : UInt64} {b : UInt32} (le : a.toNat ≤ b.toNat) :
    (a + 1).toNat = a.toNat + 1 := by
  have bound := b.toNat_lt
  rw [UInt64.toNat_add]
  exact Nat.mod_eq_of_lt (by simp only [UInt64.toNat_one]; omega)

theorem Balanced.count (h : l.Balanced) {f : Metrics → Metrics}
    (same : (f l.metrics).turnover = l.metrics.turnover) : (l.count f).Balanced := by
  have created : (f l.metrics).gamesCreated = l.metrics.gamesCreated :=
    congrArg Turnover.created same
  have released : (f l.metrics).gamesReleased = l.metrics.gamesReleased :=
    congrArg Turnover.released same
  obtain ⟨ids, lists, balance⟩ := h.released
  refine ⟨?_, ids, lists, ?_⟩
  · rw [Ledger.count, created]
    exact h.created
  · rw [Ledger.count, released]
    exact balance

theorem Balanced.create (h : l.Balanced) (roomy : l.Roomy) :
    (l.enter.count Metrics.gameCreated).Balanced := by
  obtain ⟨ids, lists, balance⟩ := h.released
  have raised : (l.created + 1).toNat = l.created.toNat + 1 := by
    rw [UInt32.toNat_add, UInt32.toNat_one]
    exact Nat.mod_eq_of_lt roomy.room
  refine ⟨?_, _, lists_enter lists roomy.unlisted, ?_⟩
  · show (l.metrics.gamesCreated + 1).toNat = (l.created + 1).toNat
    rw [raised, toNat_succ (Nat.le_of_eq h.created), h.created]
  · show l.metrics.gamesReleased.toNat + (ids.length + 1) = (l.created + 1).toNat
    omega

theorem Balanced.release (h : l.Balanced) {i : GameId} (listed : l.listed i = true) :
    ((l.strike i).count Metrics.gameReleased).Balanced := by
  obtain ⟨ids, lists, balance⟩ := h.released
  have mem : i ∈ ids := (lists.listed i).2 listed
  have length := List.length_erase_of_mem mem
  have positive := List.length_pos_of_mem mem
  have bound : l.metrics.gamesReleased.toNat ≤ l.created.toNat := by omega
  refine ⟨h.created, ids.erase i, lists_strike lists i, ?_⟩
  show (l.metrics.gamesReleased + 1).toNat + (ids.erase i).length = l.created.toNat
  rw [toNat_succ bound, length]
  omega

/-- **The entries of a tidy server keep the balance.** -/
theorem Entries.balanced (entries : Entries tidy route l k) (tidied : tidy) (h : l.Balanced) :
    k.Balanced := by
  induction entries with
  | refl => exact h
  | tail _ entry ih =>
    cases entry with
    | count own => exact ih.count (own _).2
    | create roomy => exact ih.create (roomy tidied)
    | release listed => exact ih.release listed
    | evict _ untidy => exact absurd tidied untidy
    | save _ _ => exact ⟨ih.created, ih.released⟩

end Ledger

namespace Server

variable {s : Server}

/-- The register lists as many games as it counts. -/
theorem lists_registeredGames (s : Server) :
    Lists s.ledger.listed (s.registeredGames.map (·.1)) where
  distinct := s.games.nodup_keys.sublist (List.filter_sublist.map _)
  listed := by
    intro i
    show _ ↔ (s.findGame? i).isSome = true
    constructor
    · intro mem
      obtain ⟨e, he, rfl⟩ := List.mem_map.1 mem
      obtain ⟨he, registered⟩ := List.mem_filter.1 he
      rw [findGame?, s.games.get?_of_mem he, Option.filter_some, if_pos registered]
      rfl
    · intro found
      obtain ⟨g, found⟩ := Option.isSome_iff_exists.1 found
      obtain ⟨stored, registered⟩ := Option.filter_eq_some_iff.1 found
      have entry : (i, g) ∈ s.registeredGames :=
        List.mem_filter.2 ⟨SortedMap.mem_of_find? stored, registered⟩
      exact List.mem_map.2 ⟨(i, g), entry, rfl⟩

theorem gameCount_of_balanced (h : s.ledger.Balanced) :
    s.metrics.gamesCreated.toNat = s.metrics.gamesReleased.toNat + s.gameCount := by
  obtain ⟨ids, lists, balance⟩ := h.released
  have count := Ledger.length_eq lists s.lists_registeredGames
  rw [List.length_map] at count
  show s.ledger.metrics.gamesCreated.toNat =
    s.ledger.metrics.gamesReleased.toNat + s.registeredGames.length
  rw [h.created, ← count, balance]

theorem balanced_start (store : Store) : (start store).ledger.Balanced where
  created := rfl
  released :=
    ⟨[], ⟨List.nodup_nil, fun _ => ⟨by simp, fun listed => absurd listed Bool.false_ne_true⟩⟩, rfl⟩

/-- **An event keeps the balance.** -/
theorem balanced_after (h : s.seating.Coherent) {e : Event} (admitted : s.admits e = true)
    (room : s.created.toNat + 1 < UInt32.size) (balanced : s.ledger.Balanced) :
    (s.after e).ledger.Balanced := by
  cases e with
  | request session packet =>
    obtain ⟨l, entries, result⟩ := Router.entries_dispatch s session packet
    have kept := entries.balanced ⟨h, admitted, room⟩ balanced
    rcases result with same | ⟨f, counter, same⟩
    · rw [after, same]
      exact kept
    · rw [after, same]
      refine kept.count ?_
      simp only [Router.refusalCounters, List.mem_cons, List.not_mem_nil, or_false] at counter
      rcases counter with rfl | rfl | rfl | rfl <;> rfl
  | disconnect session =>
    have entries : Ledger.Entries True Route.logout s.ledger _ :=
      entries_leaveActivities s session disconnectedReason
    exact entries.balanced trivial balanced
  | restock store => exact ⟨balanced.created, balanced.released⟩
  | connect peer => exact balanced
  | close session => exact balanced
  | wait clock => exact balanced

end Server

/-! ### Games that are gone -/

namespace Seating

variable {t u : Seating} {i : GameId}

/-- A game was created once and is out of the register. -/
def Gone (t : Seating) (i : GameId) : Prop := ∃ l, t.lineup i = some l ∧ l.registered = false

theorem Gone.empty (h : t.Coherent) (gone : t.Gone i) :
    ∃ l, t.lineup i = some l ∧ l.roster = [] ∧ l.active = false := by
  obtain ⟨l, found, unregistered⟩ := gone
  have sound := h.lineup found
  have inactive : l.active = false := sound.registered.symm.trans unregistered
  refine ⟨l, found, ?_, inactive⟩
  by_contra members
  rw [sound.active.2 members] at inactive
  cases inactive

/-- A move keeps every lineup, or puts another one in its place. -/
theorem Move.lineup (step : Move t u) (known : t.lineup i ≠ none) : u.lineup i ≠ none := by
  cases step with
  | queue _ _ => exact known
  | host _ _ _ | sit _ _ _ _ | unseat _ _ =>
    show (if i = _ then some _ else t.lineup i) ≠ none
    split
    · exact Option.some_ne_none _
    · exact known

/-- **No move brings a game back.** -/
theorem Gone.move (h : t.Coherent) (gone : t.Gone i) (step : Move t u) : u.Gone i := by
  obtain ⟨k, there, empty, inactive⟩ := gone.empty h
  have kept (j : GameId) (ne : i ≠ j) (l : Lineup) : (t.setLineup j l).Gone i := by
    obtain ⟨l, found, unregistered⟩ := gone
    exact ⟨l, (if_neg ne).trans found, unregistered⟩
  cases step with
  | queue _ _ => exact gone
  | host player free room =>
    refine kept t.nextGame ?_ (.hosted t.nextGame ⟨_, player, 0⟩)
    -- the next game has no lineup yet
    rintro rfl
    have next : t.nextGame.toNat = t.created.toNat + 1 := by
      rw [nextGame, UInt32.toNat_add, UInt32.toNat_one, Nat.add_comm]
      exact Nat.mod_eq_of_lt room
    rw [h.created _ (UInt32.lt_iff_toNat_lt.2 (by omega))] at there
    cases there
  | @sit j l m found active free player =>
    refine kept j ?_ (l.seat m)
    rintro rfl
    obtain rfl : k = l := Option.some.inj (there.symm.trans found)
    rw [inactive] at active
    cases active
  | @unseat j l m found member =>
    refine kept j ?_ (l.without m.player.id)
    rintro rfl
    obtain rfl : k = l := Option.some.inj (there.symm.trans found)
    rw [empty] at member
    cases member

end Seating

namespace Server

variable {s : Server} {i : GameId}

/-- An event changes lineups by moves only. -/
theorem moves_after (h : s.seating.Coherent) {e : Event} (admitted : s.admits e = true)
    (room : s.created.toNat + 1 < UInt32.size) :
    ∃ u, Seating.Moves s.seating u ∧ (s.after e).seating.lineup = u.lineup := by
  cases e with
  | request session packet => exact ⟨_, Router.moves_dispatch h admitted room packet, rfl⟩
  | disconnect session =>
    refine ⟨_, moves_leaveActivities h session disconnectedReason, ?_⟩
    rw [after, disconnect, seating_deregister]
    rfl
  | connect peer => exact ⟨s.seating, .refl, rfl⟩
  | close session => exact ⟨s.seating, .refl, rfl⟩
  | wait clock => exact ⟨s.seating, .refl, rfl⟩
  | restock store => exact ⟨s.seating, .refl, rfl⟩

/-- What moves keep of the lineups, a run keeps. -/
theorem keep_lineup {P : (GameId → Option Lineup) → Prop}
    (step : ∀ {t u : Seating}, t.Coherent → Seating.Move t u → P t.lineup → P u.lineup)
    {events : List Event} (h : s.seating.Coherent) (feasible : s.Feasible events)
    (start : P s.seating.lineup) : P (s.run events).seating.lineup := by
  refine feasible.keep (P := fun s => P s.seating.lineup) ?_ h start
  intro s e h admitted room start
  obtain ⟨u, moves, same⟩ := moves_after h admitted room
  rw [same]
  clear same
  induction moves with
  | refl => exact start
  | tail before move kept => exact step (h.moves before) move kept

/-- A game that is not found, but has a lineup, is gone. -/
theorem gone_iff (s : Server) (i : GameId) :
    s.seating.Gone i ↔ s.findGame? i = none ∧ s.seating.lineup i ≠ none := by
  show (∃ l, (s.games.get? i).map Game.lineup = some l ∧ l.registered = false) ↔
    (s.games.get? i).filter (·.registered) = none ∧ (s.games.get? i).map Game.lineup ≠ none
  cases s.games.get? i with
  | none => simp
  | some g => simp [Game.lineup]

/-- **The games created are those released and those registered, in every state of every run.**  A
game that has been released has nobody in it, is inactive, and is never registered again. -/
theorem balance_run (store : Store) (events : List Event)
    (feasible : (start store).Feasible events) :
    let s := (start store).run events
    s.metrics.gamesCreated.toNat = s.metrics.gamesReleased.toNat + s.gameCount ∧
      ∀ past i, past <+: events → (((start store).run past).findGame? i).isSome = true →
        s.findGame? i = none →
          (∃ g, s.games.get? i = some g ∧ g.roster = [] ∧ g.active = false) ∧
            ∀ more, (start store).Feasible (events ++ more) →
              ((start store).run (events ++ more)).findGame? i = none := by
  intro s
  have h := coherent_start store
  have coherent : s.seating.Coherent := coherent_run h feasible
  have balanced : s.ledger.Balanced :=
    feasible.keep (P := fun s => s.ledger.Balanced) (fun h => balanced_after h) h
      (balanced_start store)
  refine ⟨gameCount_of_balanced balanced, ?_⟩
  rintro past i ⟨rest, rfl⟩ registered missing
  have known : ((start store).run past).seating.lineup i ≠ none := by
    obtain ⟨g, found⟩ := Option.isSome_iff_exists.1 registered
    rw [(lineup_of_findGame? found).1]
    exact Option.some_ne_none _
  obtain ⟨before, later⟩ := feasible.run h
  have still : s.seating.lineup i ≠ none := by
    show ((start store).run (past ++ rest)).seating.lineup i ≠ none
    rw [run_append]
    exact keep_lineup (P := fun lineup => lineup i ≠ none) (fun _ move kept => move.lineup kept)
      before later known
  have gone : s.seating.Gone i := (s.gone_iff i).2 ⟨missing, still⟩
  constructor
  · obtain ⟨l, found, empty, inactive⟩ := gone.empty coherent
    obtain ⟨g, stored, rfl⟩ := Option.map_eq_some_iff.1 found
    exact ⟨g, stored, empty, inactive⟩
  · intro more feasible
    rw [run_append]
    refine ((gone_iff _ i).1 ?_).1
    exact keep_lineup (P := fun lineup => ∃ l, lineup i = some l ∧ l.registered = false)
      (fun {t u} (h : t.Coherent) move kept => Seating.Gone.move h kept move) coherent
      (feasible.run h).2 gone

/-- Two players create games, and the host of the first one disconnects. -/
theorem balance_run_released :
    let account (id : PlayerId) (email : String) : Account := ⟨⟨id, email⟩, email, "word", "token"⟩
    let store : Store := ⟨.ofList [(1, account 1 "a@b"), (2, account 2 "c@d")], ∅, ∅, 3, true⟩
    let login (email : String) : Packet :=
      .request Route.login 0 [.string Field.mail email, .string Field.pass "word"]
    let past : List Event :=
      [.connect none, .connect none, .request 1 (login "a@b"), .request 2 (login "c@d"),
        .request 1 (.request Route.createGame 0 [])]
    let events : List Event := past ++ [.request 2 (.request Route.createGame 0 []), .disconnect 1]
    let more : List Event := [.request 2 (.request Route.createGame 1 [])]
    let s := (start store).run events
    (start store).Feasible events ∧ (start store).Feasible (events ++ more) ∧
      (s.metrics.gamesCreated, s.metrics.gamesReleased, s.gameCount) = (2, 1, 1) ∧
      s.metrics.gamesCreated.toNat = s.metrics.gamesReleased.toNat + s.gameCount ∧
      (∃ g, s.games.get? 1 = some g ∧ g.roster = [] ∧ g.active = false) ∧
      ((start store).run (events ++ more)).findGame? 1 = none := by
  intro account store login past events more s
  have feasible : (start store).Feasible events :=
    ⟨by decide +kernel, by decide +kernel, by decide +kernel⟩
  have goes : (start store).Feasible (events ++ more) :=
    ⟨by decide +kernel, by decide +kernel, by decide +kernel⟩
  have balance := balance_run store events feasible
  have gone := balance.2 past 1 (List.prefix_append _ _) (by decide +kernel) (by decide +kernel)
  exact ⟨feasible, goes, by decide +kernel, balance.1, gone.1, gone.2 more goes⟩

end Server

end Lobby
