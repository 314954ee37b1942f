import Lobby.Proofs.Server.Seating
import Mathlib.Data.List.Perm.Subperm

/-!
# Rosters in order

`Game.Tidy` is what the roster, the host and the activity of a game say together: there is an entry
for each of at most four slots, in their order, no player has two, and the game is active exactly as
long as it has members, of whom one is the host.  The same session may have several entries, if it
logged in as another player in between.

* `lowestFree_nextSlot`: a newcomer gets the lowest slot that nobody has.
* `remove?_cases`: what is left when a member goes, and who is the host then.
* `Tidy.seat`, `Tidy.remove?`: joining and leaving keep a game tidy.
-/

namespace Lobby.Game

/-- Nobody has the slot, and somebody has every lower one. -/
structure LowestFree (g : Game) (slot : Nat) : Prop where
  bound : slot < 4
  free : ∀ m ∈ g.roster, m.slot ≠ slot
  lowest : ∀ lower < slot, ∃ m ∈ g.roster, m.slot = lower

/-- The roster is in the order of its slots, and agrees with the host and the activity. -/
structure Tidy (g : Game) : Prop where
  count : g.roster.length ≤ 4
  slots : g.roster.Pairwise (·.slot < ·.slot)
  bound : ∀ m ∈ g.roster, m.slot < 4
  players : (g.roster.map (·.player.id)).Nodup
  active : g.active = true ↔ g.roster ≠ []
  host : g.active = true → ∃ m ∈ g.roster, m.session = g.host

variable {g rest : Game} {m : Member} {player : PlayerId} {removal : Removal}

/-! ### Slots -/

/-- If everybody's slot is taken off, one of the four is left. -/
theorem exists_free_slot (room : g.count < gameCapacity) :
    ∃ slot < gameCapacity, ∀ m ∈ g.roster, m.slot ≠ slot := by
  refine Decidable.byContradiction fun full => ?_
  have taken : List.range gameCapacity ⊆ g.roster.map (·.slot) := by
    intro slot inside
    refine Decidable.byContradiction fun absent => full ⟨slot, List.mem_range.1 inside, ?_⟩
    intro m hm same
    exact absent (same ▸ List.mem_map_of_mem hm)
  have few := (List.subperm_of_subset List.nodup_range taken).length_le
  rw [List.length_range, List.length_map] at few
  exact absurd room (Nat.not_lt_of_le few)

theorem lowestFree_nextSlot (room : g.count < gameCapacity) : g.LowestFree g.nextSlot := by
  obtain ⟨slot, bound, free⟩ := exists_free_slot room
  have found : ((List.range gameCapacity).find? fun slot => g.roster.all (·.slot ≠ slot)).isSome :=
    List.find?_isSome.2 ⟨slot, List.mem_range.2 bound, by simpa using free⟩
  obtain ⟨least, found⟩ := Option.isSome_iff_exists.1 found
  obtain ⟨free, inside, lower⟩ := List.find?_range_eq_some.1 found
  rw [nextSlot, found, Option.getD_some]
  refine ⟨List.mem_range.1 inside, by simpa using free, fun slot hs => ?_⟩
  simpa using lower slot hs

/-- A newcomer gets to the place of its slot. -/
theorem pairwise_seatIn {r : List Member} (slots : r.Pairwise (·.slot < ·.slot))
    (free : ∀ o ∈ r, o.slot ≠ m.slot) : (seatIn m r).Pairwise (·.slot < ·.slot) := by
  induction r with
  | nil => exact List.pairwise_singleton _ _
  | cons other r ih =>
    obtain ⟨above, slots⟩ := List.pairwise_cons.1 slots
    obtain ⟨ne, free⟩ := List.forall_mem_cons.1 free
    rw [seatIn]
    split
    · next before =>
      refine List.pairwise_cons.2 ⟨fun o ho => ?_, ih slots free⟩
      rcases List.mem_cons.1 ((Lineup.seatIn_perm m r).mem_iff.1 ho) with rfl | ho
      · exact before
      · exact above o ho
    · next after =>
      have before : m.slot < other.slot := Nat.lt_of_le_of_ne (Nat.le_of_not_lt after) ne.symm
      refine List.pairwise_cons.2 ⟨?_, List.pairwise_cons.2 ⟨above, slots⟩⟩
      exact List.forall_mem_cons.2 ⟨before, fun o ho => Nat.lt_trans before (above o ho)⟩

/-! ### Joining and leaving -/

/-- The first member with a player goes, and nothing else but the activity and the host changes.
The last one leaves an inactive game; a host leaves the game to the first of the others. -/
theorem remove?_cases (removed : g.remove? player = some (m, removal, rest)) :
    g.memberOf? player = some m ∧ rest.roster = g.roster.eraseP (·.player.id = player) ∧
      rest = { g with roster := rest.roster, active := rest.active, host := rest.host } ∧
      (rest.roster = [] ∧ rest.active = false ∧ rest.host = g.host ∨
        rest.roster ≠ [] ∧ rest.active = g.active ∧
          (m.session ≠ g.host ∧ rest.host = g.host ∨
            m.session = g.host ∧ (rest.roster.head?.map (·.session)) = some rest.host)) := by
  rw [remove?] at removed
  split at removed
  · cases removed
  · next gone found =>
    split at removed
    · next empty =>
      cases removed
      exact ⟨found, empty.symm, rfl, .inl ⟨rfl, rfl, rfl⟩⟩
    · next first others left =>
      split at removed
      · next isHost =>
        cases removed
        exact ⟨found, left.symm, rfl, .inr ⟨List.cons_ne_nil _ _, rfl, .inr ⟨isHost, rfl⟩⟩⟩
      · next other =>
        cases removed
        exact ⟨found, left.symm, rfl, .inr ⟨List.cons_ne_nil _ _, rfl, .inl ⟨other, rfl⟩⟩⟩

theorem emptied_remove? (removed : g.remove? player = some (m, removal, rest)) :
    removal = .emptied ↔ rest.roster = [] := by
  rw [remove?] at removed
  split at removed
  · cases removed
  · split at removed
    · cases removed
      simp
    · split at removed <;> cases removed <;> simp

theorem ne_notMember_of_remove? (removed : g.remove? player = some (m, removal, rest)) :
    removal ≠ .notMember := by
  rw [remove?] at removed
  split at removed
  · cases removed
  · split at removed
    · cases removed
      nofun
    · split at removed <;> cases removed <;> nofun

theorem roster_remove? (removed : g.remove? player = some (m, removal, rest)) :
    rest.roster = g.roster.eraseP (·.player.id = player) :=
  (remove?_cases removed).2.1

/-- Whoever is left was a member before, and of the members before only the one with the player is
not left. -/
theorem mem_remove? (tidy : g.Tidy) (removed : g.remove? player = some (m, removal, rest))
    (o : Member) : o ∈ rest.roster ↔ o ∈ g.roster ∧ o ≠ m := by
  obtain ⟨found, roster, -, -⟩ := remove?_cases removed
  have member : m ∈ g.roster := List.mem_of_find?_eq_some found
  obtain rfl : m.player.id = player := by simpa using List.find?_some found
  rw [roster]
  exact Lineup.mem_eraseP_iff tidy.players member o

/-- A host that leaves the game to others leaves it to the one in the lowest slot. -/
theorem host_of_remove? (tidy : g.Tidy) (removed : g.remove? player = some (m, removal, rest))
    (isHost : m.session = g.host) (members : rest.roster ≠ []) :
    ∃ first ∈ rest.roster, rest.host = first.session ∧ ∀ o ∈ rest.roster, first.slot ≤ o.slot := by
  obtain ⟨-, roster, -, ⟨empty, -⟩ | ⟨-, -, ⟨other, -⟩ | ⟨-, host⟩⟩⟩ := remove?_cases removed
  · exact absurd empty members
  · exact absurd isHost other
  · have slots : rest.roster.Pairwise (·.slot < ·.slot) := by
      rw [roster]
      exact tidy.slots.sublist List.eraseP_sublist
    cases left : rest.roster with
    | nil => exact absurd left members
    | cons first others =>
      rw [left] at slots host
      refine ⟨first, List.mem_cons_self, (Option.some.inj host).symm, ?_⟩
      refine List.forall_mem_cons.2 ⟨Nat.le_refl _, fun o ho => Nat.le_of_lt ?_⟩
      exact (List.pairwise_cons.1 slots).1 o ho

theorem host_eq_of_remove? (removed : g.remove? player = some (m, removal, rest))
    (other : m.session ≠ g.host) : rest.host = g.host := by
  obtain ⟨-, -, -, ⟨-, -, same⟩ | ⟨-, -, ⟨-, same⟩ | ⟨isHost, -⟩⟩⟩ := remove?_cases removed
  · exact same
  · exact same
  · exact absurd isHost other

/-! ### Tidy games -/

theorem tidy_hosted (id : GameId) (mid : UInt32) (host : SessionId) (player : Player)
    (attributes : Attributes) (setting : UInt16) :
    (hosted id mid host player attributes setting).Tidy where
  count := by simp [hosted]
  slots := List.pairwise_singleton _ _
  bound := by simp [hosted]
  players := by simp [hosted]
  active := by simp [hosted]
  host _ := ⟨_, List.mem_singleton_self _, rfl⟩

/-- What is neither roster nor host nor activity does not matter. -/
theorem Tidy.congr {x : Game} (h : g.Tidy) (roster : x.roster = g.roster) (host : x.host = g.host)
    (active : x.active = g.active) : x.Tidy := by
  obtain ⟨count, slots, bound, players, alive, hosted⟩ := h
  rw [← roster] at count slots bound players alive hosted
  rw [← active] at alive hosted
  rw [← host] at hosted
  exact ⟨count, slots, bound, players, alive, hosted⟩

theorem Tidy.seat (h : g.Tidy) (active : g.active = true) (room : g.count < gameCapacity)
    (new : g.memberOf? m.player.id = none) (slot : g.LowestFree m.slot) : (g.seat m).Tidy := by
  have perm : (g.seat m).roster.Perm (m :: g.roster) := Lineup.seatIn_perm m g.roster
  have absent : ∀ o ∈ g.roster, o.player.id ≠ m.player.id := by
    intro o ho
    simpa using List.find?_eq_none.1 new o ho
  refine ⟨?_, pairwise_seatIn h.slots slot.free, ?_, ?_, ?_, fun _ => ?_⟩
  · rw [perm.length_eq]
    exact room
  · intro o ho
    rcases List.mem_cons.1 (perm.mem_iff.1 ho) with rfl | ho
    · exact slot.bound
    · exact h.bound o ho
  · refine ((perm.map _).nodup_iff).2 (List.nodup_cons.2 ⟨fun hm => ?_, h.players⟩)
    obtain ⟨o, ho, same⟩ := List.mem_map.1 hm
    exact absent o ho same
  · have members : (g.seat m).roster ≠ [] := List.ne_nil_of_mem (perm.mem_iff.2 List.mem_cons_self)
    exact ⟨fun _ => members, fun _ => active⟩
  · obtain ⟨o, ho, host⟩ := h.host active
    exact ⟨o, perm.mem_iff.2 (List.mem_cons_of_mem _ ho), host⟩

theorem Tidy.remove? (h : g.Tidy) (removed : g.remove? player = some (m, removal, rest)) :
    rest.Tidy := by
  obtain ⟨found, roster, -, kept⟩ := remove?_cases removed
  have active : g.active = true := h.active.2 (List.ne_nil_of_mem (List.mem_of_find?_eq_some found))
  have sub : rest.roster.Sublist g.roster := by
    rw [roster]
    exact List.eraseP_sublist
  refine ⟨Nat.le_trans sub.length_le h.count, h.slots.sublist sub, fun o ho => ?_,
    h.players.sublist (sub.map _), ?_, fun alive => ?_⟩
  · exact h.bound o (sub.subset ho)
  · rcases kept with ⟨empty, inactive, -⟩ | ⟨members, same, -⟩
    · simp [empty, inactive]
    · simp [members, same, active]
  · have members : rest.roster ≠ [] := by
      rcases kept with ⟨-, inactive, -⟩ | ⟨members, -⟩
      · rw [inactive] at alive
        cases alive
      · exact members
    by_cases isHost : m.session = g.host
    · obtain ⟨first, member, host, -⟩ := host_of_remove? h removed isHost members
      exact ⟨first, member, host.symm⟩
    · -- the host is another member, and stays one
      obtain ⟨o, ho, host⟩ := h.host active
      have ne : o ≠ m := by
        rintro rfl
        exact isHost host
      refine ⟨o, (mem_remove? h removed o).2 ⟨ho, ne⟩, ?_⟩
      rw [host, host_eq_of_remove? removed isHost]

end Lobby.Game
