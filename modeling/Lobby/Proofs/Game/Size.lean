import Lobby.Game.Notice
import Lobby.Proofs.Record.Size

/-!
# Sizes of notices

The names of players and the attributes of a game are what makes a notice large.  Everything else in
it is a few records of bounded size.
-/

namespace Lobby

def Player.nameSize (p : Player) : Nat := (Bytes.ofString p.name).length

open Record

theorem Packet.length_notification (route : Route) (rs : Content) :
    (notification route rs).contents.length = sizeAll rs := length_encodeAll rs

theorem Packet.length_response (request : Packet) (rs : Content) :
    (request.response rs).contents.length = sizeAll rs := length_encodeAll rs

theorem Endpoint.size_record_le (label : Label) (e : Endpoint) : (e.record label).size ≤ 33 := by
  simp only [record, size_group, sizeAll_cons, sizeAll_nil]
  grind

theorem Network.size_record_le (label : Label) (n : Network) : (n.record label).size ≤ 76 := by
  have external := n.external.size_record_le Field.exip
  have internal := n.internal.size_record_le Field.inip
  rw [record]
  split
  · exact Nat.le_of_ble_eq_true rfl
  · simp only [size_union, size_group, sizeAll_cons, sizeAll_nil]
    omega

grind_pattern Network.size_record_le => (n.record label).size

namespace Session

theorem size_extendedData_le (x : Session) : x.extendedData.size ≤ 140 := by
  have seats : x.seat.toList.length ≤ 1 := by
    cases x.seat <;> simp
  have list := size_triples_le Field.ulst (x.seat.toList.map fun seat => membership seat.game)
  rw [List.length_map] at list
  simp only [extendedData, size_group, sizeAll_cons, sizeAll_nil]
  grind

/-- A session is introduced by the name of its player. -/
theorem length_added?_le {x : Session} {player : Player} (login : x.player = some player)
    {p : Packet} (added : x.added? = some p) : p.contents.length ≤ player.nameSize + 256 := by
  have data := x.size_extendedData_le
  rw [added?, login, Option.map_some, Option.some.injEq] at added
  rw [← added, Packet.length_notification]
  simp only [size_group, sizeAll_cons, sizeAll_nil, Player.nameSize]
  grind

theorem length_updated?_le {x : Session} {p : Packet} (updated : x.updated? = some p) :
    p.contents.length ≤ 256 := by
  have data := x.size_extendedData_le
  rw [updated?, Option.map_eq_some_iff] at updated
  obtain ⟨player, -, rfl⟩ := updated
  rw [Packet.length_notification]
  simp only [sizeAll_cons, sizeAll_nil]
  grind

end Session

namespace Notice

/-- A notice of nothing but numbers. -/
theorem length_numbers_le (route : Route) {rs : Content} (numbers : ∀ r ∈ rs, r.size ≤ 14) :
    (Packet.notification route rs).contents.length ≤ rs.length * 14 := by
  rw [Packet.length_notification]
  induction rs with
  | nil => exact Nat.le_refl 0
  | cons r rs ih =>
    have first := numbers r List.mem_cons_self
    have others := ih fun r hr => numbers r (List.mem_cons_of_mem _ hr)
    rw [sizeAll_cons, List.length_cons]
    omega

theorem size_participant_le (i : GameId) (p : Participant) :
    sizeAll (participant i p) ≤ p.member.player.nameSize + 256 := by
  simp only [participant, sizeAll_cons, sizeAll_nil, Player.nameSize]
  grind

theorem length_playerJoining_le (i : GameId) (p : Participant) :
    (playerJoining i p).contents.length ≤ p.member.player.nameSize + 300 := by
  have part := size_participant_le i p
  rw [playerJoining, Packet.length_notification]
  simp only [size_group, sizeAll_cons, sizeAll_nil]
  grind

theorem length_gameAttributesChanged_le (i : GameId) (a : Attributes) :
    (gameAttributesChanged i a).contents.length ≤ (attributes Field.attr a).size + 14 := by
  rw [gameAttributesChanged, Packet.length_notification]
  simp only [sizeAll_cons, sizeAll_nil]
  grind

theorem size_setupReason_le (setup : GameSetup) (context : JoinContext) :
    (setupReason setup context).size ≤ 64 := by
  cases context <;> simp only [setupReason, size_union, size_group, sizeAll_cons, sizeAll_nil] <;>
    grind

/-- The setup notice of a game takes what its attributes take and five names: those of the members
and, once more, that of the host. -/
theorem length_gameSetup_le {setup : GameSetup} (context : JoinContext) {n : Nat}
    (few : setup.members.length ≤ gameCapacity) (host : setup.host.member.player.nameSize ≤ n)
    (names : ∀ p ∈ setup.members, p.member.player.nameSize ≤ n) :
    (gameSetup setup context).contents.length ≤
      5 * n + 2048 + (attributes Field.attr setup.attributes).size := by
  have admins := size_varints_le Field.admn (administrators setup)
  have members : (administrators setup).length ≤ setup.members.length := by
    rw [administrators, List.length_map]
    exact List.length_filter_le _ _
  have participants := size_groups_le (n := n + 257) Field.pros
    (setup.members.map fun p => .mk false (participant setup.game p)) (by
      simp only [List.forall_mem_map]
      intro p hp
      exact Nat.succ_le_succ ((size_participant_le setup.game p).trans
        (Nat.add_le_add_right (names p hp) 256)))
  rw [List.length_map] at participants
  have four : setup.members.length * (n + 257) ≤ gameCapacity * (n + 257) :=
    Nat.mul_le_mul_right _ few
  have reason := size_setupReason_le setup context
  rw [gameCapacity] at few four
  rw [gameSetup, Packet.length_notification]
  simp only [size_group, sizeAll_cons, sizeAll_nil, Player.nameSize] at host ⊢
  grind

theorem le_length_gameSetup (setup : GameSetup) (context : JoinContext) :
    (attributes Field.attr setup.attributes).size + 45 ≤
      (gameSetup setup context).contents.length := by
  rw [gameSetup, Packet.length_notification]
  simp only [size_group, sizeAll_cons, sizeAll_nil]
  grind [five_le_size]

end Notice

end Lobby
