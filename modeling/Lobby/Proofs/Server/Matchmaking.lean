import Lobby.Proofs.Server.Membership

/-!
# Matchmaking as moves

The queue only ever takes in free sessions: one that asks for a game has left everything before, and
a seeker that is put back has stayed free since it was taken off.  So whoever is offered a game is
free when its turn comes, because the joins before it seat other sessions (`Placed`).
-/

namespace Lobby.Server

variable {s : Server}

/-! ### The queue -/

theorem seating_filterQueue (s : Server) (session : SessionId) :
    (s.setQueue (s.queue.filter (·.session ≠ session))).seating =
      s.seating.setQueue (s.seating.queue.filter (· ≠ session)) := by
  have queue : (s.queue.filter (·.session ≠ session)).map (·.session) =
      (s.queue.map (·.session)).filter (· ≠ session) := by
    rw [List.filter_map]
    rfl
  rw [seating_setQueue, queue]
  rfl

theorem seating_withdraw (s : Server) (session : SessionId) :
    (s.withdraw session).2.seating =
      s.seating.setQueue (s.seating.queue.filter (· ≠ session)) := by
  rw [withdraw, seating_setSeeking, seating_filterQueue]

theorem moves_withdraw (h : s.seating.Coherent) (session : SessionId) :
    Seating.Moves s.seating (s.withdraw session).2.seating := by
  rw [seating_withdraw]
  refine .single (.queue (h.distinct.filter _) ?_)
  intro id hid
  exact .inl (List.mem_filter.1 hid).1

theorem seating_enqueue (s : Server) (session : SessionId) (rules : RuleSet) :
    (s.enqueue session rules).seating =
      s.seating.setQueue (s.seating.queue.filter (· ≠ session) ++ [session]) := by
  have queue := congrArg Seating.queue (s.seating_filterQueue session)
  rw [enqueue, seating_setSeeking, seating_setQueue, List.map_append]
  exact congrArg (fun q => s.seating.setQueue (q ++ [session])) queue

theorem moves_enqueue (h : s.seating.Coherent) {session : SessionId}
    (free : s.seating.Free session) (rules : RuleSet) :
    Seating.Moves s.seating (s.enqueue session rules).seating := by
  rw [seating_enqueue]
  refine .single (.queue ?_ ?_)
  · refine List.nodup_append.2 ⟨h.distinct.filter _, List.nodup_singleton session, ?_⟩
    intro a ha b hb e
    rw [List.mem_singleton.1 hb] at e
    simpa [e] using (List.mem_filter.1 ha).2
  · intro id hid
    rcases List.mem_append.1 hid with hid | hid
    · exact .inl (List.mem_filter.1 hid).1
    · exact .inr (List.mem_singleton.1 hid ▸ free)

/-! ### Leaving -/

/-- A session is withdrawn and removed, and a game that this empties is counted. -/
theorem leaveActivities_cases (s : Server) (session : SessionId) (reason : Int64) :
    let r := (s.withdraw session).2.removeSession session reason
    r.1 ≠ .emptied ∧ s.leaveActivities session reason = r.2 ∨
      r.1 = .emptied ∧ s.leaveActivities session reason = r.2.count Metrics.gameReleased := by
  rw [leaveActivities]
  dsimp only
  generalize (s.withdraw session).2.removeSession session reason = r
  obtain ⟨removal, t⟩ := r
  cases removal with
  | emptied => exact .inr ⟨rfl, rfl⟩
  | _ => exact .inl ⟨nofun, rfl⟩

theorem seating_leaveActivities (s : Server) (session : SessionId) (reason : Int64) :
    (s.leaveActivities session reason).seating =
      ((s.withdraw session).2.removeSession session reason).2.seating := by
  rcases s.leaveActivities_cases session reason with ⟨-, result⟩ | ⟨-, result⟩
  · rw [result]
  · rw [result, seating_count]

theorem moves_leaveActivities (h : s.seating.Coherent) (session : SessionId) (reason : Int64) :
    Seating.Moves s.seating (s.leaveActivities session reason).seating := by
  have first := moves_withdraw h session
  rw [seating_leaveActivities]
  rcases seating_removeSession (h.moves first) session reason with
    ⟨-, same⟩ | ⟨i, l, m, found, member, -, result⟩
  · rw [same]
    exact first
  · rw [result]
    exact first.tail (.unseat found member)

/-- A session that has left everything has neither a seat nor a place in the queue. -/
theorem idle_leaveActivities (h : s.seating.Coherent) (session : SessionId) (reason : Int64) :
    (s.leaveActivities session reason).seating.seat session = none ∧
      session ∉ (s.leaveActivities session reason).seating.queue := by
  have off : session ∉ (s.withdraw session).2.seating.queue := by
    rw [seating_withdraw]
    intro hid
    simpa using (List.mem_filter.1 hid).2
  rw [seating_leaveActivities]
  rcases seating_removeSession (h.moves (moves_withdraw h session)) session reason with
    ⟨free, same⟩ | ⟨i, l, m, -, -, rfl, result⟩
  · rw [same]
    exact ⟨free, off⟩
  · rw [result]
    exact ⟨if_pos rfl, off⟩

theorem free_leaveActivities (h : s.seating.Coherent) {session : SessionId}
    (present : s.seating.present session = true) (reason : Int64) :
    (s.leaveActivities session reason).seating.Free session := by
  obtain ⟨seat, queue⟩ := idle_leaveActivities h session reason
  exact ⟨(moves_leaveActivities h session reason).present ▸ present, seat, queue⟩

theorem created_leaveActivities (h : s.seating.Coherent) (session : SessionId) (reason : Int64) :
    (s.leaveActivities session reason).created = s.created := by
  show (s.leaveActivities session reason).seating.created = s.seating.created
  rw [seating_leaveActivities]
  rcases seating_removeSession (h.moves (moves_withdraw h session)) session reason with
    ⟨-, same⟩ | ⟨i, l, m, -, -, -, result⟩
  · rw [same]
    rfl
  · rw [result]
    rfl

theorem coherent_disconnect (h : s.seating.Coherent) (session : SessionId) :
    (s.disconnect session).seating.Coherent := by
  obtain ⟨seat, queue⟩ := idle_leaveActivities h session disconnectedReason
  rw [disconnect, seating_deregister]
  exact (h.moves (moves_leaveActivities h session disconnectedReason)).depart seat queue

/-! ### Offering a game -/

theorem split_perm (suited : Seeker → Bool) (limit : Nat) (queue : List Seeker) :
    ((split suited limit queue).1 ++ (split suited limit queue).2).Perm queue := by
  fun_induction split suited limit queue with
  | case1 queue => exact .refl _
  | case2 limit => exact .refl _
  | case3 limit seeker queue suited taken kept result ih =>
    rw [result] at ih
    exact ih.cons seeker
  | case4 limit seeker queue suited taken kept result ih =>
    rw [result] at ih
    exact List.perm_middle.trans (ih.cons seeker)

/-- What a join leaves alone: the queue, and the seats of the other sessions. -/
theorem frame_join (i : GameId) {session : SessionId} (present : s.seating.present session = true)
    (context : JoinContext) :
    (s.join i session context).2.seating.queue = s.seating.queue ∧
      ∀ other, other ≠ session →
        (s.join i session context).2.seating.seat other = s.seating.seat other := by
  rcases seating_join i present context with same | ⟨l, m, -, -, rfl, -, result⟩
  · rw [same]
    exact ⟨rfl, fun _ _ => rfl⟩
  · rw [result]
    exact ⟨rfl, fun other ne => if_neg ne⟩

/-- A join leaves another free session free. -/
theorem free_join (i : GameId) {session other : SessionId} (own : s.seating.Free session)
    (free : s.seating.Free other) (ne : other ≠ session) (context : JoinContext) :
    (s.join i session context).2.seating.Free other := by
  obtain ⟨queue, seats⟩ := frame_join i own.present context
  have moves := moves_join i own context
  exact ⟨moves.present ▸ free.present, (seats other ne).trans free.seat, queue ▸ free.queue⟩

/-- The first seeker joins and is settled, and the rest go on from there; or it is refused, and
nothing has happened. -/
theorem place_cons (s : Server) (i : GameId) (k : Seeker) (rest : List Seeker) :
    ∃ t : Server, (s.place i (k :: rest)).2 = (t.place i rest).2 ∧
      (t = (s.join i k.session .matchmaking).2.settle k.session ∧
          (s.place i (k :: rest)).1.refused = (t.place i rest).1.refused ∨
        (s.join i k.session .matchmaking).2 = s ∧ t = s ∧
          (s.place i (k :: rest)).1.refused = k :: (t.place i rest).1.refused) := by
  rw [place]
  split
  next outcome t joined =>
    rw [joined]
    split
    · exact ⟨t.settle k.session, rfl, .inl ⟨rfl, rfl⟩⟩
    · have failed := join_error (congrArg Prod.fst joined)
      rw [joined] at failed
      exact ⟨t, rfl, .inr ⟨failed, failed, rfl⟩⟩
    · have failed := join_error (congrArg Prod.fst joined)
      rw [joined] at failed
      exact ⟨t, rfl, .inr ⟨failed, failed, rfl⟩⟩
    · exact ⟨t.settle k.session, rfl, .inl ⟨rfl, rfl⟩⟩

/-- What has become of a server that has offered a game to some seekers. -/
structure Placed (s : Server) (seekers : List Seeker) (r : Placement × Server) : Prop where
  moves : Seating.Moves s.seating r.2.seating
  queue : r.2.seating.queue = s.seating.queue
  seat : ∀ id, id ∉ seekers.map (·.session) → r.2.seating.seat id = s.seating.seat id
  /-- Whoever was refused still has no seat. -/
  refused : ∀ k ∈ r.1.refused, k ∈ seekers ∧ r.2.seating.seat k.session = none

theorem placed_place (i : GameId) {seekers : List Seeker} (h : s.seating.Coherent)
    (free : ∀ k ∈ seekers, s.seating.Free k.session)
    (distinct : (seekers.map (·.session)).Nodup) : Placed s seekers (s.place i seekers) := by
  induction seekers generalizing s with
  | nil => exact ⟨.refl, rfl, fun _ _ => rfl, fun _ hk => absurd hk List.not_mem_nil⟩
  | cons k rest ih =>
    obtain ⟨head, tail⟩ : k.session ∉ rest.map (·.session) ∧ (rest.map (·.session)).Nodup :=
      List.nodup_cons.1 distinct
    have own := free k List.mem_cons_self
    have moves := moves_join i own .matchmaking
    obtain ⟨queue, seats⟩ := frame_join i own.present .matchmaking
    obtain ⟨t, server, refused⟩ := s.place_cons i k rest
    have same : t.seating = (s.join i k.session .matchmaking).2.seating := by
      rcases refused with ⟨rfl, -⟩ | ⟨unchanged, rfl, -⟩
      · exact seating_settle _ _
      · rw [unchanged]
    rw [← same] at moves queue seats
    -- the other seekers are as free as before
    have later : ∀ o ∈ rest, t.seating.Free o.session := by
      intro o ho
      rw [same]
      refine free_join i own (free o (List.mem_cons_of_mem k ho)) ?_ .matchmaking
      intro e
      rw [← e] at head
      exact head (List.mem_map_of_mem ho)
    have placed := ih (h.moves moves) later tail
    refine ⟨?_, ?_, ?_, ?_⟩
    · rw [server]
      exact moves.trans placed.moves
    · rw [server]
      exact placed.queue.trans queue
    · intro id hid
      rw [List.map_cons, List.mem_cons, not_or] at hid
      rw [server]
      exact (placed.seat id hid.2).trans (seats id hid.1)
    · intro o ho
      rw [server]
      rcases refused with ⟨-, refused⟩ | ⟨unchanged, -, refused⟩
      · rw [refused] at ho
        obtain ⟨mem, seat⟩ := placed.refused o ho
        exact ⟨List.mem_cons_of_mem k mem, seat⟩
      · rw [refused] at ho
        rcases List.mem_cons.1 ho with rfl | ho
        · refine ⟨List.mem_cons_self, ?_⟩
          rw [placed.seat _ head, same, unchanged]
          exact own.seat
        · obtain ⟨mem, seat⟩ := placed.refused o ho
          exact ⟨List.mem_cons_of_mem k mem, seat⟩

/-- Putting seekers back changes no seat. -/
theorem seat_putBack (s : Server) (seekers : List Seeker) :
    (seekers.foldr putBack s).seating.seat = s.seating.seat := by
  induction seekers with
  | nil => rfl
  | cons k rest ih =>
    rw [List.foldr_cons, putBack]
    split <;> exact ih

theorem moves_putBack {seekers : List Seeker} (h : s.seating.Coherent)
    (idle : ∀ k ∈ seekers, s.seating.present k.session = true ∧ s.seating.seat k.session = none) :
    Seating.Moves s.seating (seekers.foldr putBack s).seating := by
  induction seekers with
  | nil => exact .refl
  | cons k rest ih =>
    have moves := ih fun o ho => idle o (List.mem_cons_of_mem k ho)
    obtain ⟨present, seat⟩ := idle k List.mem_cons_self
    rw [List.foldr_cons, putBack]
    split
    · next again =>
      simp only [Bool.and_eq_true, Bool.not_eq_true', Bool.eq_false_iff, ne_eq, isQueued_iff]
        at again
      have free : (rest.foldr putBack s).seating.Free k.session :=
        ⟨moves.present ▸ present, (congrFun (s.seat_putBack rest) _).trans seat, again.2⟩
      refine moves.tail (.queue (List.nodup_cons.2 ⟨free.queue, (h.moves moves).distinct⟩) ?_)
      intro id hid
      rcases List.mem_cons.1 hid with rfl | hid
      · exact .inr free
      · exact .inl hid
    · exact moves

/-- Taking seekers off the queue is a move, after which they are free. -/
theorem free_of_split (h : s.seating.Coherent) {suited : Seeker → Bool} {limit : Nat}
    {taken kept : List Seeker} (divided : split suited limit s.queue = (taken, kept)) :
    Seating.Moves s.seating (s.setQueue kept).seating ∧
      (∀ k ∈ taken, (s.setQueue kept).seating.Free k.session) ∧
      (taken.map (·.session)).Nodup := by
  have perm := split_perm suited limit s.queue
  rw [divided] at perm
  have sessions := perm.map (·.session)
  rw [List.map_append] at sessions
  obtain ⟨distinct, kept_distinct, apart⟩ :=
    List.nodup_append.1 (sessions.nodup_iff.2 h.distinct)
  have old (id : SessionId) (hid : id ∈ kept.map (·.session)) : id ∈ s.seating.queue :=
    sessions.mem_iff.1 (List.mem_append_right _ hid)
  refine ⟨.single (.queue kept_distinct fun id hid => .inl (old id hid)), ?_, distinct⟩
  intro k hk
  have mem := List.mem_map_of_mem (f := (·.session)) hk
  obtain ⟨present, seat⟩ := h.queued k.session (sessions.mem_iff.1 (List.mem_append_left _ mem))
  exact ⟨present, seat, fun hid => apart _ mem _ hid rfl⟩

theorem moves_offer (h : s.seating.Coherent) (i : GameId) :
    Seating.Moves s.seating (s.offer i).2.seating := by
  rw [offer]
  split
  · exact .refl
  · next g _ =>
    split
    next taken kept divided =>
      obtain ⟨first, free, distinct⟩ := free_of_split h divided
      have placed := placed_place i (h.moves first) free distinct
      split
      next placement t result =>
        rw [result] at placed
        have moves := first.trans placed.moves
        refine moves.trans (moves_putBack (h.moves moves) ?_)
        intro k hk
        obtain ⟨mem, seat⟩ := placed.refused k hk
        exact ⟨placed.moves.present ▸ (free k mem).present, seat⟩

end Lobby.Server
