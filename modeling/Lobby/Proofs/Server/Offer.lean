import Lobby.Proofs.Server.Joining
import Lobby.Proofs.Server.Search
import Lobby.Proofs.Server.Unmarked

/-!
# Offering a game to the queue

An offer takes the first suited seekers off the queue, as many as the game has free slots, and lets
them join in order.  Whoever was turned away because the game was full or gone is put back in front;
everybody else keeps its place.  Nothing but the queue and the marks tells an offer from the joins
it makes (`Server.offered_offer`).
-/

namespace Lobby

namespace Server

/-- The game was full or gone. -/
def turnedAway : Except Error Nat → Bool
  | .error (.gameFull _) | .error (.gameNotFound _) => true
  | _ => false

/-- Sessions join a game one after the other.  Gives what became of each. -/
def joinAll (s : Server) (i : GameId) : List Seeker → List (Seeker × Except Error Nat) × Server
  | [] => ([], s)
  | k :: rest =>
    let (outcome, s) := s.join i k.session .matchmaking
    let (outcomes, s) := s.joinAll i rest
    ((k, outcome) :: outcomes, s)

/-- Who got in, and who was turned away, in order. -/
def placement (outcomes : List (Seeker × Except Error Nat)) : Placement where
  placed := (outcomes.filter fun o => o.2.isOk).map (·.1.session)
  refused := (outcomes.filter fun o => turnedAway o.2).map (·.1)

variable {s t : Server} {i : GameId} {g : Game}

/-! ### Taking seekers off the queue -/

theorem taken_split (suited : Seeker → Bool) (limit : Nat) (queue : List Seeker) :
    (split suited limit queue).1 = (queue.filter suited).take limit := by
  fun_induction split suited limit queue with
  | case1 queue => simp
  | case2 limit => simp
  | case3 limit seeker queue suits taken kept result ih =>
    rw [result] at ih
    rw [List.filter_cons_of_pos suits, List.take_succ_cons, ← ih]
  | case4 limit seeker queue suits taken kept result ih =>
    rw [result] at ih
    rw [List.filter_cons_of_neg suits, ← ih]

theorem mem_of_taken {suited : Seeker → Bool} {limit : Nat} {queue : List Seeker} {k : Seeker}
    (taken : k ∈ (split suited limit queue).1) : k ∈ queue := by
  rw [taken_split] at taken
  exact List.mem_of_mem_filter (List.mem_of_mem_take taken)

/-- Whoever is not taken keeps its place. -/
theorem kept_split (suited : Seeker → Bool) (limit : Nat) {queue : List Seeker}
    (distinct : queue.Nodup) : (split suited limit queue).2 =
      queue.filter fun k => k ∉ (split suited limit queue).1 := by
  fun_induction split suited limit queue with
  | case1 queue => simp
  | case2 limit => simp
  | case3 limit seeker queue suits taken kept result ih =>
    obtain ⟨new, distinct⟩ := List.nodup_cons.1 distinct
    have ih := ih distinct
    rw [result] at ih
    rw [List.filter_cons_of_neg (by simp), ih]
    refine List.filter_congr fun k queued => ?_
    have ne : k ≠ seeker := fun e => new (e ▸ queued)
    simp [ne]
  | case4 limit seeker queue suits taken kept result ih =>
    obtain ⟨new, distinct⟩ := List.nodup_cons.1 distinct
    have ih := ih distinct
    have within (k : Seeker) : k ∈ (split suited (limit + 1) queue).1 → k ∈ queue := mem_of_taken
    rw [result] at ih within
    have untaken : seeker ∉ taken := fun mem => new (within seeker mem)
    rw [List.filter_cons_of_pos (by simpa using untaken), ← ih]

/-! ### Joining one after the other -/

/-- Letting seekers join is joining, apart from who waits. -/
theorem place_eq_joinAll (same : s.unmarked = t.unmarked) (i : GameId) (seekers : List Seeker) :
    (s.place i seekers).1 = placement (t.joinAll i seekers).1 ∧
      (s.place i seekers).2.unmarked = (t.joinAll i seekers).2.unmarked := by
  induction seekers generalizing s t with
  | nil => exact ⟨rfl, same⟩
  | cons k rest ih =>
    obtain ⟨outcome, joined⟩ := join_congr same i k.session .matchmaking
    rw [place, joinAll]
    generalize s.join i k.session .matchmaking = r, t.join i k.session .matchmaking = q
      at outcome joined
    obtain ⟨first, u⟩ := r
    obtain ⟨_, v⟩ := q
    obtain rfl : first = _ := outcome
    dsimp only at joined ⊢
    have kept := ih joined
    have settled := ih ((u.unmarked_settle k.session).trans joined)
    split
    · rw [settled.1, settled.2]
      exact ⟨rfl, rfl⟩
    · rw [kept.1, kept.2]
      exact ⟨rfl, rfl⟩
    · rw [kept.1, kept.2]
      exact ⟨rfl, rfl⟩
    · next cause notFull notFound =>
      have away : turnedAway (.error cause) = false := by
        cases cause <;> first | rfl | exact absurd rfl (notFull _) | exact absurd rfl (notFound _)
      rw [settled.1, settled.2]
      simp [placement, away, Except.isOk, Except.toBool]

theorem seat_joinAll {seekers : List Seeker} {id : SessionId}
    (other : id ∉ seekers.map (·.session)) (i : GameId) :
    (s.joinAll i seekers).2.seating.seat id = s.seating.seat id := by
  induction seekers generalizing s with
  | nil => rfl
  | cons k rest ih =>
    rw [List.map_cons, List.mem_cons, not_or] at other
    rw [joinAll]
    exact (ih other.2).trans (seat_join_of_ne other.1 i .matchmaking)

theorem count_joinAll (found : s.games.get? i = some g) (few : g.count ≤ gameCapacity)
    (seekers : List Seeker) :
    ∃ x, (s.joinAll i seekers).2.games.get? i = some x ∧ x.count ≤ gameCapacity := by
  induction seekers generalizing s g with
  | nil => exact ⟨g, found, few⟩
  | cons k rest ih =>
    obtain ⟨x, now, few⟩ := count_join found few k.session .matchmaking
    exact ih now few

/-! ### The offer -/

/-- What an offer of a game to some of the queue comes to. -/
structure Offered (s : Server) (i : GameId) (g : Game) (taken : List Seeker)
    (r : List SessionId × Server) : Prop where
  /-- The offer gives those who got in, in the order they were queued. -/
  placed : r.1 = (placement (s.joinAll i taken).1).placed
  /-- Those who were turned away come before those who were not taken. -/
  queue : r.2.queue = (placement (s.joinAll i taken).1).refused ++ s.queue.filter (· ∉ taken)
  /-- Apart from who waits, nothing happens but the joins. -/
  joins : r.2.unmarked = (s.joinAll i taken).2.unmarked
  settled : ∀ k ∈ taken, k ∉ (placement (s.joinAll i taken).1).refused →
    (r.2.session k.session).seeking = false
  untaken : ∀ id, id ∉ taken.map (·.session) →
    (r.2.session id).seeking = (s.session id).seeking ∧ (r.2.session id).seat = (s.session id).seat
  tracked : r.2.waiting.Tracked
  /-- No join overfills the game. -/
  room : g.count ≤ gameCapacity → ∀ n, ∃ x,
    (s.joinAll i (taken.take n)).2.games.get? i = some x ∧ x.count ≤ gameCapacity

theorem seat_of_unmarked (same : s.unmarked = t.unmarked) (id : SessionId) :
    (s.session id).seat = (t.session id).seat := by
  have session := congrArg (fun u : Server => (u.session id).seat) same
  rw [session_unmarked, session_unmarked] at session
  exact session

/-- **An offer loses, doubles and overtakes nobody.**  It takes the first suited seekers off the
queue, as many as the game has free slots. -/
theorem offered_offer (tracked : s.waiting.Tracked) (found : s.games.get? i = some g) :
    let taken := (s.queue.filter fun k =>
      (s.session k.session).listening && k.rules.accepts g.attributes).take g.freeSlots
    s.Offered i g taken (s.offer i) := by
  intro taken
  have distinct : s.queue.Nodup := .of_map (·.session) tracked.distinct
  have first := taken_split (s.suits g.attributes) g.freeSlots s.queue
  have others := kept_split (s.suits g.attributes) g.freeSlots distinct
  cases divided : split (s.suits g.attributes) g.freeSlots s.queue with
  | mk chosen kept =>
    rw [divided] at first others
    obtain rfl : chosen = taken := first
    obtain ⟨result, placed, waiting⟩ := waiting_offer tracked found divided
    obtain ⟨outcomes, joins⟩ := place_eq_joinAll (s.unmarked_setQueue kept) i taken
    rw [outcomes] at result placed waiting
    have joins : (s.offer i).2.unmarked = (s.joinAll i taken).2.unmarked := by
      rw [result, unmarked_putBack, joins]
    have marks (id : SessionId) : ((s.offer i).2.session id).seeking = true ↔
        (s.session id).seeking = true ∧ (id ∈ taken.map (·.session) →
          id ∈ (placement (s.joinAll i taken).1).refused.map (·.session)) := by
      show (s.offer i).2.waiting.seeking id = true ↔ _
      rw [waiting]
      exact placed.seeking id
    refine ⟨congrArg Prod.fst result, ?_, joins, ?_, ?_, (tracked_offer tracked i).1, ?_⟩
    · rw [← others]
      exact congrArg Waiting.queue waiting
    · intro k hk away
      refine Bool.eq_false_iff.2 fun marked => away ?_
      obtain ⟨o, refused, same⟩ := List.mem_map.1 (((marks k.session).1 marked).2
        (List.mem_map_of_mem hk))
      have within (x : Seeker) (hx : x ∈ taken) : x ∈ s.queue :=
        List.mem_of_mem_filter (List.mem_of_mem_take hx)
      have one : o = k := List.inj_on_of_nodup_map tracked.distinct
        (within o (placed.order.subset refused)) (within k hk) same
      exact one ▸ refused
    · intro id other
      refine ⟨Bool.eq_iff_iff.2 ((marks id).trans (and_iff_left fun mem => absurd mem other)), ?_⟩
      rw [seat_of_unmarked joins]
      exact seat_joinAll other i
    · intro few n
      exact count_joinAll found few (taken.take n)

theorem tracked_of_idle (idle : ∀ x ∈ s.sessions.values, x.seeking = false)
    (empty : s.queue = []) : s.waiting.Tracked := by
  have unmarked (id : SessionId) : s.waiting.seeking id = false := by
    show (s.session id).seeking = false
    rw [session]
    cases found : s.sessions.get? id with
    | none => rfl
    | some x => exact idle x (SortedMap.mem_values_of_get? found)
  have queue : s.waiting.queue = [] := empty
  exact ⟨by rw [queue]; exact List.nodup_nil, fun id => by simp [queue, unmarked]⟩

/-- Six seekers wait: one that no longer listens, one that gets in, one with other wishes, one that
is not logged in, one that hosts a game of its own, and one that comes too late.  A game with three
free slots is offered to them; a game that is emptied would put back all but one of four. -/
theorem offered_offer_mixed :
    let wishes : RuleSet := ⟨some "map", none, none⟩
    let calls : List Matchmaking.Call :=
      [.setPlayer 1 (some ⟨1, "a"⟩), .setPlayer 2 (some ⟨2, "b"⟩), .setPlayer 3 (some ⟨3, "c"⟩),
        .setPlayer 4 (some ⟨4, "d"⟩), .setPlayer 6 (some ⟨6, "f"⟩), .setPlayer 7 (some ⟨7, "g"⟩),
        .enqueue 2 .empty, .enqueue 3 .empty, .enqueue 4 wishes, .enqueue 5 .empty,
        .enqueue 6 .empty, .enqueue 7 .empty, .close 2, .createGame 6 ∅ 0, .createGame 1 ∅ 0,
        .dismiss 2 1 leftReason, .createGame 1 ∅ 0]
    let s := Matchmaking.run ((start .empty).run (List.replicate 7 (.connect none))) calls
    s.waiting.Tracked ∧
      (∃ g, s.games.get? 3 = some g ∧
        s.Offered 3 g [⟨3, .empty⟩, ⟨5, .empty⟩, ⟨6, .empty⟩] (s.offer 3)) ∧
      (s.offer 3).1 = [3] ∧ (s.offer 3).2.queue = [⟨2, .empty⟩, ⟨4, wishes⟩, ⟨7, .empty⟩] ∧
      (∃ g, s.games.get? 2 = some g ∧
        s.Offered 2 g [⟨3, .empty⟩, ⟨5, .empty⟩, ⟨6, .empty⟩, ⟨7, .empty⟩] (s.offer 2)) ∧
      (s.offer 2).1 = [] ∧ (s.offer 2).2.queue =
        [⟨3, .empty⟩, ⟨6, .empty⟩, ⟨7, .empty⟩, ⟨2, .empty⟩, ⟨4, wishes⟩] := by
  intro wishes calls s
  let first : Server := (start .empty).run (List.replicate 7 (.connect none))
  have there : (calls.all fun call => call.seeker?.all fun id => first.waiting.known id) =
      true := by
    decide +kernel
  have begun : first.waiting.Tracked := tracked_of_idle (by decide +kernel) rfl
  have tracked : s.waiting.Tracked := Matchmaking.tracked_foldl begun fun call mem id seeks => by
    have known := List.all_eq_true.1 there call mem
    rw [seeks] at known
    exact known
  have offered (i : GameId) (taken : List Seeker) (chosen : (s.games.get? i).map (fun g =>
      (s.queue.filter fun k => (s.session k.session).listening &&
        k.rules.accepts g.attributes).take g.freeSlots) = some taken) :
      ∃ g, s.games.get? i = some g ∧ s.Offered i g taken (s.offer i) := by
    obtain ⟨g, found, rfl⟩ := Option.map_eq_some_iff.1 chosen
    exact ⟨g, found, offered_offer tracked found⟩
  exact ⟨tracked, offered 3 _ (by decide +kernel), by decide +kernel, by decide +kernel,
    offered 2 _ (by decide +kernel), by decide +kernel, by decide +kernel⟩

end Server

end Lobby
