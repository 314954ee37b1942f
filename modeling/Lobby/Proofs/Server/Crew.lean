import Lobby.Proofs.Server.History

/-!
# Hosts and full games

As long as a game has members, one of them is the host, and it never has more of them than slots.
-/

namespace Lobby

/-- The host is a member, if there are members, and there are not too many of them. -/
structure Game.Crewed (g : Game) : Prop where
  host : g.roster ≠ [] → g.host ∈ g.sessions
  count : g.count ≤ gameCapacity

namespace Game

variable {g rest : Game}

theorem sessions_seat (g : Game) (m : Member) :
    (g.seat m).sessions.Perm (m.session :: g.sessions) :=
  (Lineup.seatIn_perm m g.roster).map _

theorem count_seat (g : Game) (m : Member) : (g.seat m).count = g.count + 1 :=
  (Lineup.seatIn_perm m g.roster).length_eq

theorem Crewed.seat (h : g.Crewed) (m : Member) (members : g.roster ≠ [])
    (room : g.count < gameCapacity) : (g.seat m).Crewed where
  host _ := (g.sessions_seat m).mem_iff.2 (List.mem_cons_of_mem _ (h.host members))
  count := by
    rw [count_seat]
    exact room

/-- What is left of a game when a member has been removed. -/
theorem Crewed.remove? (h : g.Crewed) {i : GameId} (sound : g.lineup.Sound i) {player : PlayerId}
    {m : Member} {removal : Removal} (removed : g.remove? player = some (m, removal, rest)) :
    rest.Crewed := by
  obtain ⟨found, active, host, rfl, kept⟩ := eq_of_remove? removed
  have member : m ∈ g.roster := List.mem_of_find?_eq_some found
  obtain rfl : m.player.id = player := by simpa using List.find?_some found
  refine ⟨fun members => ?_, Nat.le_trans List.length_eraseP_le h.count⟩
  rcases kept with ⟨other, rfl⟩ | empty | first
  · -- the host is another member, and stays one
    obtain ⟨o, ho, session⟩ := List.mem_map.1 (h.host (List.ne_nil_of_mem member))
    have ne : o ≠ m := by
      rintro rfl
      exact other session
    exact session ▸ List.mem_map_of_mem ((Lineup.mem_eraseP_iff sound.players member o).2 ⟨ho, ne⟩)
  · exact absurd empty members
  · exact first

end Game

namespace Stage

def Crewed (g : Stage) : Prop := ∀ i x, g.game i = some x → x.Crewed

theorem Crewed.deed {e : Event} {g k : Stage} (orderly : g.Orderly) (h : g.Crewed)
    (deed : Deed e g k) : k.Crewed := by
  -- a game that is set must be crewed, and the others are as before
  have set {j : GameId} {x : Game} {told : SessionId → List Packet} (crewed : x.Crewed) :
      ((g.setGame j x).tell told).Crewed := by
    intro i y found
    by_cases same : i = j
    · obtain rfl := Option.some.inj ((if_pos same).symm.trans found)
      exact crewed
    · exact h i y ((if_neg same).symm.trans found)
  cases deed with
  | change found c _ =>
    have before := h _ _ found
    refine set ⟨fun members => ?_, ?_⟩
    · rw [Game.sessions, Change.roster_apply, Change.host_apply]
      rw [Change.roster_apply] at members
      exact before.host members
    · rw [Game.count, Change.roster_apply]
      exact before.count
  | host => exact set ⟨fun _ => List.mem_singleton_self _, Nat.le_of_ble_eq_true rfl⟩
  | join _ found active room =>
    exact set ((h _ _ found).seat _ ((orderly.sound found).active.1 active) room)
  | leave found _ removed =>
    have rest := (h _ _ found).remove? (orderly.sound found) removed
    exact set ⟨rest.host, rest.count⟩
  | _ => exact h

end Stage

/-- **A game with members has its host among them**, and never too many members. -/
theorem Server.crewed_run {events : List Event} {store : Store}
    (feasible : (start store).Feasible events) : ((start store).run events).stage.Crewed :=
  keep_run (fun _ _ _ _ orderly h deed => h.deed orderly deed) (coherent_start store) feasible nofun

end Lobby
