import Lobby.Proofs.Server.Stage

/-!
# Who waits for a game

A session is marked as seeking exactly as long as it is in the queue (`Waiting.Tracked`).  Only
matchmaking marks a session; joins, games and packets leave the marks and the queue alone.

While a game is offered the two differ: the seekers that were taken off the queue are still marked.
Whoever joins, or cannot join any game, loses its mark (`Waiting.Placed`), and whoever was refused
by this game gets its place in front back, because it is still listening and nobody has queued it
again meanwhile (`Server.waiting_putBack`).
-/

namespace Lobby

/-- What a server says of who waits for a game. -/
@[ext] structure Waiting where
  known : SessionId → Bool
  seeking : SessionId → Bool
  listening : SessionId → Bool
  queue : List Seeker

namespace Waiting

def setQueue (w : Waiting) (queue : List Seeker) : Waiting := { w with queue }

def mark (w : Waiting) (id : SessionId) (seeking : Bool) : Waiting :=
  { w with seeking := fun other => if other = id then seeking else w.seeking other }

/-- A session comes to the end of the queue, in the place of an earlier entry of its own. -/
def enqueue (w : Waiting) (id : SessionId) (rules : RuleSet) : Waiting :=
  (w.setQueue (w.queue.filter (·.session ≠ id) ++ [⟨id, rules⟩])).mark id true

def withdraw (w : Waiting) (id : SessionId) : Waiting :=
  (w.setQueue (w.queue.filter (·.session ≠ id))).mark id false

/-- **The queue has every session at most once, and exactly those that are marked.** -/
structure Tracked (w : Waiting) : Prop where
  distinct : (w.queue.map (·.session)).Nodup
  flag : ∀ id, w.seeking id = true ↔ id ∈ w.queue.map (·.session)

/-- What has become of who waits, once some seekers were offered a game and some of them refused. -/
structure Placed (w : Waiting) (seekers refused : List Seeker) (u : Waiting) : Prop where
  known : u.known = w.known
  listening : u.listening = w.listening
  queue : u.queue = w.queue
  order : refused.Sublist seekers
  /-- Of the seekers only those that were refused are still marked. -/
  seeking : ∀ id, u.seeking id = true ↔ w.seeking id = true ∧
    (id ∈ seekers.map (·.session) → id ∈ refused.map (·.session))

variable {w : Waiting} {id : SessionId}

theorem sessions_withdraw (w : Waiting) (id : SessionId) :
    (w.withdraw id).queue.map (·.session) = (w.queue.map (·.session)).filter (· ≠ id) := by
  rw [List.filter_map]
  rfl

theorem sessions_enqueue (w : Waiting) (id : SessionId) (rules : RuleSet) :
    (w.enqueue id rules).queue.map (·.session) =
      (w.queue.map (·.session)).filter (· ≠ id) ++ [id] := by
  rw [← sessions_withdraw]
  exact List.map_append

theorem Tracked.enqueue (h : w.Tracked) (id : SessionId) (rules : RuleSet) :
    (w.enqueue id rules).Tracked where
  distinct := by
    rw [sessions_enqueue]
    refine List.nodup_append.2 ⟨h.distinct.filter _, List.nodup_singleton id, ?_⟩
    intro a ha b hb e
    rw [List.mem_singleton.1 hb] at e
    simpa [e] using (List.mem_filter.1 ha).2
  flag := by
    intro other
    rw [sessions_enqueue, List.mem_append, List.mem_filter, List.mem_singleton]
    show (if other = id then true else w.seeking other) = true ↔ _
    by_cases own : other = id
    · simp [own]
    · simp [own, h.flag other]

theorem Tracked.withdraw (h : w.Tracked) (id : SessionId) : (w.withdraw id).Tracked where
  distinct := by
    rw [sessions_withdraw]
    exact h.distinct.filter _
  flag := by
    intro other
    rw [sessions_withdraw, List.mem_filter]
    show (if other = id then false else w.seeking other) = true ↔ _
    by_cases own : other = id
    · simp [own]
    · simp [own, h.flag other]

/-- The seekers that were taken off the queue are marked without being queued.  Once those that were
refused are put back, nobody is. -/
theorem Tracked.offer (h : w.Tracked) {taken kept refused : List Seeker} {u : Waiting}
    (divided : (taken ++ kept).Perm w.queue) (placed : (w.setQueue kept).Placed taken refused u) :
    (u.setQueue (refused ++ kept)).Tracked := by
  have sessions := divided.map (·.session)
  rw [List.map_append] at sessions
  have distinct := sessions.nodup_iff.2 h.distinct
  obtain ⟨-, -, apart⟩ := List.nodup_append.1 distinct
  have subset := placed.order.map (·.session)
  constructor
  · show ((refused ++ kept).map (·.session)).Nodup
    rw [List.map_append]
    exact distinct.sublist (subset.append (.refl _))
  · intro id
    show u.seeking id = true ↔ id ∈ (refused ++ kept).map (·.session)
    rw [placed.seeking id, List.map_append, List.mem_append]
    show w.seeking id = true ∧ _ ↔ _
    rw [h.flag id, ← sessions.mem_iff, List.mem_append]
    constructor
    · rintro ⟨taken | kept, refused⟩
      · exact .inl (refused taken)
      · exact .inr kept
    · rintro (refused | kept)
      · exact ⟨.inl (subset.subset refused), fun _ => refused⟩
      · exact ⟨.inr kept, fun taken => absurd rfl (apart _ taken _ kept)⟩

end Waiting

namespace Session

@[simp] theorem seeking_deliver (x : Session) (entry : Outbound) :
    (x.deliver entry).seeking = x.seeking := by
  rw [deliver]
  split <;> rfl

/-- What a session is marked as, and whether it is listening, stay as they are. -/
structure SameWaiting (x y : Session) : Prop where
  seeking : y.seeking = x.seeking
  listening : y.listening = x.listening

theorem sameWaiting_deliver (x : Session) (entry : Outbound) : x.SameWaiting (x.deliver entry) :=
  ⟨x.seeking_deliver entry, x.listening_deliver entry⟩

theorem sameWaiting_pushAll (x : Session) (ps : List Packet) : x.SameWaiting (x.pushAll ps) := by
  rw [pushAll]
  split
  · exact ⟨rfl, rfl⟩
  · exact x.sameWaiting_deliver _

theorem sameWaiting_leave (x : Session) (i : GameId) : x.SameWaiting (x.leave i) := by
  rw [leave]
  split <;> exact ⟨rfl, rfl⟩

end Session

namespace Server

def waiting (s : Server) : Waiting where
  known id := (s.sessions.get? id).isSome
  seeking id := (s.session id).seeking
  listening id := (s.session id).listening
  queue := s.queue

variable {s : Server}

theorem known_updateSession (s : Server) (id : SessionId) (f : Session → Session) :
    (s.updateSession id f).waiting.known = s.waiting.known := by
  funext other
  show ((s.updateSession id f).sessions.get? other).isSome = (s.sessions.get? other).isSome
  rw [get?_updateSession]
  split
  · exact Option.isSome_map
  · rfl

/-- A change of a session that leaves its mark alone. -/
theorem waiting_updateSession (s : Server) (id : SessionId) {f : Session → Session}
    (same : ∀ x, s.sessions.get? id = some x → x.SameWaiting (f x)) :
    (s.updateSession id f).waiting = s.waiting := by
  have session (other : SessionId) :
      (s.session other).SameWaiting ((s.updateSession id f).session other) := by
    rw [Server.session, Server.session, get?_updateSession]
    split
    · next e =>
      subst e
      cases found : s.sessions.get? other with
      | none => exact ⟨rfl, rfl⟩
      | some x => exact same x found
    · exact ⟨rfl, rfl⟩
  exact Waiting.ext (s.known_updateSession id f) (funext fun other => (session other).seeking)
    (funext fun other => (session other).listening) rfl

/-- Marking a session that is there, or taking the mark off one. -/
theorem waiting_setSeeking {id : SessionId} {seeking : Bool}
    (known : seeking = true → s.waiting.known id = true) :
    (s.setSeeking id seeking).waiting = s.waiting.mark id seeking := by
  refine Waiting.ext (s.known_updateSession id _) (funext fun other => ?_) (funext fun other => ?_)
    rfl
  · show ((s.updateSession id fun x => { x with seeking }).session other).seeking =
      if other = id then seeking else (s.session other).seeking
    rw [session, session, get?_updateSession]
    split
    · next e =>
      subst e
      cases found : s.sessions.get? other with
      | none =>
        cases seeking with
        | false => rfl
        | true =>
          have there : (s.sessions.get? other).isSome = true := known rfl
          rw [found] at there
          cases there
      | some x => rfl
    · rfl
  · show ((s.updateSession id fun x => { x with seeking }).session other).listening =
      (s.session other).listening
    rw [session, session, get?_updateSession]
    split
    · cases s.sessions.get? other <;> rfl
    · rfl

@[simp] theorem waiting_push (s : Server) (id : SessionId) (p : Packet) :
    (s.push id p).waiting = s.waiting :=
  s.waiting_updateSession id fun x _ => x.sameWaiting_deliver _

@[simp] theorem waiting_pushAll (s : Server) (id : SessionId) (ps : List Packet) :
    (s.pushAll id ps).waiting = s.waiting :=
  s.waiting_updateSession id fun x _ => x.sameWaiting_pushAll ps

/-- Doing something for several sessions leaves the marks alone if doing it for one does. -/
theorem waiting_foldl {f : Server → SessionId → Server}
    (one : ∀ s id, (f s id).waiting = s.waiting) (s : Server) (ids : List SessionId) :
    (ids.foldl f s).waiting = s.waiting := by
  induction ids generalizing s with
  | nil => rfl
  | cons id ids ih => rw [List.foldl_cons, ih, one]

@[simp] theorem waiting_setPlayer (s : Server) (id : SessionId) (player : Option Player) :
    (s.setPlayer id player).waiting = s.waiting :=
  s.waiting_updateSession id fun _ _ => ⟨rfl, rfl⟩

@[simp] theorem waiting_deregister (s : Server) (id : SessionId) :
    (s.deregister id).waiting = s.waiting :=
  s.waiting_updateSession id fun _ _ => ⟨rfl, rfl⟩

@[simp] theorem waiting_unlink (s : Server) (id : SessionId) (i : GameId) :
    (s.unlink id i).waiting = s.waiting :=
  s.waiting_updateSession id fun x _ => x.sameWaiting_leave i

/-- A connection that lets go of the outbox of its session leaves the mark alone. -/
theorem waiting_close (s : Server) (id : SessionId) :
    ∃ listening, (s.close id).waiting = { s.waiting with listening } := by
  refine ⟨(s.close id).waiting.listening,
    Waiting.ext (s.known_updateSession id _) (funext fun other => ?_) rfl rfl⟩
  show ((s.updateSession id Session.close).session other).seeking = (s.session other).seeking
  rw [session, session, get?_updateSession]
  split
  · cases s.sessions.get? other <;> rfl
  · rfl

theorem waiting_claim {t : Server} {id : SessionId} {seat : Seat} (h : s.claim id seat = .ok t) :
    t.waiting = s.waiting := by
  rw [eq_of_claim h]
  refine s.waiting_updateSession id fun x found => ?_
  rw [session, found]
  exact ⟨rfl, rfl⟩

/-! ### Games -/

@[simp] theorem waiting_updateGame (s : Server) (i : GameId) (f : Game → Game) :
    (s.updateGame i f).waiting = s.waiting := rfl

@[simp] theorem waiting_introduce (s : Server) (i : GameId) (newcomer : Member)
    (context : JoinContext) (others : List SessionId) :
    (s.introduce i newcomer context others).waiting = s.waiting := by
  rw [introduce]
  split
  · rfl
  · rw [waiting_pushAll]
    exact waiting_foldl (fun s other => s.waiting_pushAll other _) s others

@[simp] theorem waiting_join (s : Server) (i : GameId) (session : SessionId)
    (context : JoinContext) : (s.join i session context).2.waiting = s.waiting := by
  rcases s.join_cases i session context with same | ⟨newcomer, linked, granted, result⟩
  · rw [same]
  · obtain ⟨player, g, -, -, -, -, -, -, claimed⟩ := admission_newcomer granted
    rw [result, waiting_introduce, waiting_updateGame, waiting_claim claimed]

@[simp] theorem waiting_createGame (s : Server) (host : SessionId) (attributes : Attributes)
    (setting : UInt16) : (s.createGame host attributes setting).2.waiting = s.waiting := by
  rcases s.createGame_cases host attributes setting with
    ⟨_, result⟩ | ⟨player, linked, -, claimed, result⟩
  · rw [result]
    rfl
  · have link : linked.waiting = s.evict.waiting := waiting_claim claimed
    rw [result, show s.waiting = linked.waiting from link.symm, notifyCreated]
    split
    · rfl
    · exact waiting_push _ _ _

@[simp] theorem waiting_dismiss (s : Server) (i : GameId) (player : PlayerId) (reason : Int64) :
    (s.dismiss i player reason).2.waiting = s.waiting := by
  rw [dismiss]
  split
  · rfl
  · refine (waiting_foldl (fun s other => s.waiting_pushAll other _) _ _).trans ?_
    rw [waiting_push, waiting_unlink, waiting_updateGame]

@[simp] theorem waiting_dismissSession (s : Server) (i : GameId) (session : SessionId)
    (reason : Int64) : (s.dismissSession i session reason).2.waiting = s.waiting := by
  rw [dismissSession]
  split
  · rfl
  · exact s.waiting_dismiss i _ reason

theorem waiting_releaseIfEmptied (i : GameId) (r : Removal × Server) :
    (releaseIfEmptied i r).2.waiting = r.2.waiting := by
  rw [releaseIfEmptied.eq_def]
  split <;> rfl

@[simp] theorem waiting_removePlayer (s : Server) (i : GameId) (player : PlayerId)
    (reason : Int64) : (s.removePlayer i player reason).2.waiting = s.waiting := by
  rw [removePlayer]
  split
  · rfl
  · exact (waiting_releaseIfEmptied i _).trans (s.waiting_dismiss i player reason)

@[simp] theorem waiting_removeSession (s : Server) (session : SessionId) (reason : Int64) :
    (s.removeSession session reason).2.waiting = s.waiting := by
  rw [removeSession]
  split
  · rfl
  · split
    · exact s.waiting_unlink session _
    · exact (waiting_releaseIfEmptied _ _).trans (s.waiting_dismissSession _ session reason)

/-! ### Matchmaking -/

theorem waiting_enqueue {id : SessionId} (known : s.waiting.known id = true) (rules : RuleSet) :
    (s.enqueue id rules).waiting = s.waiting.enqueue id rules :=
  waiting_setSeeking fun _ => known

theorem waiting_withdraw (s : Server) (id : SessionId) :
    (s.withdraw id).2.waiting = s.waiting.withdraw id :=
  waiting_setSeeking (by simp)

theorem waiting_leaveActivities (s : Server) (session : SessionId) (reason : Int64) :
    (s.leaveActivities session reason).waiting = s.waiting.withdraw session := by
  have left := (s.withdraw session).2.waiting_removeSession session reason
  rw [← waiting_withdraw]
  rcases s.leaveActivities_cases session reason with ⟨-, result⟩ | ⟨-, result⟩ <;> rw [result]
  · exact left
  · exact left

theorem suited_of_split (suited : Seeker → Bool) (limit : Nat) (queue : List Seeker) :
    ∀ k ∈ (split suited limit queue).1, suited k = true := by
  fun_induction split suited limit queue with
  | case1 queue => simp
  | case2 limit => simp
  | case3 limit seeker queue suits taken kept result ih =>
    rw [result] at ih
    exact List.forall_mem_cons.2 ⟨suits, ih⟩
  | case4 limit seeker queue suits taken kept result ih =>
    rw [result] at ih
    exact ih

/-- A seeker that is settled is no longer marked, since nobody queues it meanwhile. -/
theorem waiting_settle {id : SessionId} (off : id ∉ s.waiting.queue.map (·.session)) :
    (s.settle id).waiting = s.waiting.mark id false := by
  have idle : ¬s.isQueued id = true := fun queued => off ((s.isQueued_iff id).1 queued)
  rw [settle, if_neg idle]
  exact waiting_setSeeking (by simp)

/-- **Whoever was offered a game and was not refused is no longer marked.** -/
theorem placed_waiting (i : GameId) {seekers : List Seeker}
    (distinct : (seekers.map (·.session)).Nodup)
    (off : ∀ k ∈ seekers, k.session ∉ s.waiting.queue.map (·.session)) :
    s.waiting.Placed seekers (s.place i seekers).1.refused (s.place i seekers).2.waiting := by
  induction seekers generalizing s with
  | nil => exact ⟨rfl, rfl, rfl, .refl _, fun id => ⟨fun marked => ⟨marked, by simp⟩, And.left⟩⟩
  | cons k rest ih =>
    obtain ⟨head, tail⟩ : k.session ∉ rest.map (·.session) ∧ (rest.map (·.session)).Nodup :=
      List.nodup_cons.1 distinct
    have joined := s.waiting_join i k.session .matchmaking
    have later : ∀ o ∈ rest, o.session ∉ s.waiting.queue.map (·.session) :=
      fun o ho => off o (List.mem_cons_of_mem k ho)
    obtain ⟨t, server, ⟨rfl, refused⟩ | ⟨-, rfl, refused⟩⟩ := s.place_cons i k rest
    · -- the seeker is not marked any more, and it is none of the rest
      have settled : ((s.join i k.session .matchmaking).2.settle k.session).waiting =
          s.waiting.mark k.session false := by
        rw [waiting_settle (by rw [joined]; exact off k List.mem_cons_self), joined]
      rw [server, refused]
      have placed := ih tail (by rw [settled]; exact later)
      rw [settled] at placed
      refine ⟨placed.known, placed.listening, placed.queue, placed.order.cons k, fun id => ?_⟩
      rw [placed.seeking id, List.map_cons, List.mem_cons]
      show (if id = k.session then false else s.waiting.seeking id) = true ∧ _ ↔ _
      by_cases own : id = k.session
      · subst own
        have gone := fun mem => head ((placed.order.map (·.session)).subset mem)
        rw [if_pos rfl]
        constructor
        · rintro ⟨marked, -⟩
          cases marked
        · rintro ⟨-, refused⟩
          exact absurd (refused (.inl rfl)) gone
      · simp [own]
    · -- the seeker is still marked
      rw [server, refused]
      have placed := ih tail later
      refine ⟨placed.known, placed.listening, placed.queue, placed.order.cons_cons k, fun id => ?_⟩
      rw [placed.seeking id, List.map_cons, List.mem_cons, List.map_cons, List.mem_cons]
      by_cases own : id = k.session
      · subst own
        simp [head]
      · simp [own]

/-- **Refused seekers come back in front**, in order, if they are still marked and listening. -/
theorem waiting_putBack {seekers : List Seeker} (distinct : (seekers.map (·.session)).Nodup)
    (off : ∀ k ∈ seekers, k.session ∉ s.waiting.queue.map (·.session))
    (marked : ∀ k ∈ seekers, s.waiting.seeking k.session = true)
    (listening : ∀ k ∈ seekers, s.waiting.listening k.session = true) :
    (seekers.foldr putBack s).waiting = s.waiting.setQueue (seekers ++ s.waiting.queue) := by
  induction seekers with
  | nil => rfl
  | cons k rest ih =>
    obtain ⟨head, tail⟩ : k.session ∉ rest.map (·.session) ∧ (rest.map (·.session)).Nodup :=
      List.nodup_cons.1 distinct
    rw [List.forall_mem_cons] at off marked listening
    have before := ih tail off.2 marked.2 listening.2
    rw [List.foldr_cons, putBack]
    generalize rest.foldr putBack s = t at before
    have seeking : (t.session k.session).seeking = true :=
      (congrFun (congrArg Waiting.seeking before) k.session).trans marked.1
    have hears : (t.session k.session).listening = true :=
      (congrFun (congrArg Waiting.listening before) k.session).trans listening.1
    have queue : t.queue = rest ++ s.queue := congrArg Waiting.queue before
    have idle : t.isQueued k.session = false := by
      refine Bool.eq_false_iff.2 fun queued => ?_
      have mem : k.session ∈ t.queue.map (·.session) := (t.isQueued_iff k.session).1 queued
      rw [queue, List.map_append, List.mem_append] at mem
      rcases mem with mem | mem
      · exact head mem
      · exact off.1 mem
    rw [if_pos (by rw [seeking, hears, idle]; rfl)]
    show t.waiting.setQueue (k :: t.waiting.queue) = _
    rw [before]
    rfl

/-- What an offer makes of who waits: seekers are taken off the queue and placed, and those that
were refused are put back. -/
theorem waiting_offer (h : s.waiting.Tracked) {i : GameId} {g : Game}
    (found : s.games.get? i = some g) {taken kept : List Seeker}
    (divided : split (s.suits g.attributes) g.freeSlots s.queue = (taken, kept)) :
    let r := (s.setQueue kept).place i taken
    s.offer i = (r.1.placed, r.1.refused.foldr putBack r.2) ∧
      (s.setQueue kept).waiting.Placed taken r.1.refused r.2.waiting ∧
      (s.offer i).2.waiting = r.2.waiting.setQueue (r.1.refused ++ kept) := by
  intro r
  have perm := split_perm (s.suits g.attributes) g.freeSlots s.queue
  have suited := suited_of_split (s.suits g.attributes) g.freeSlots s.queue
  rw [divided] at perm suited
  have sessions := perm.map (·.session)
  rw [List.map_append] at sessions
  obtain ⟨distinct, -, apart⟩ := List.nodup_append.1 (sessions.nodup_iff.2 h.distinct)
  have off (k : Seeker) (hk : k ∈ taken) : k.session ∉ kept.map (·.session) :=
    fun mem => apart _ (List.mem_map_of_mem hk) _ mem rfl
  have placed := placed_waiting (s := s.setQueue kept) i distinct off
  have result : s.offer i = (r.1.placed, r.1.refused.foldr putBack r.2) := by
    rw [offer, found]
    simp only [divided]
    rfl
  have mem (k : Seeker) (hk : k ∈ r.1.refused) : k ∈ taken := placed.order.subset hk
  have queue : r.2.waiting.queue = kept := placed.queue
  refine ⟨result, placed, ?_⟩
  rw [result, waiting_putBack, queue]
  · exact distinct.sublist (placed.order.map _)
  · intro k hk
    rw [queue]
    exact off k (mem k hk)
  · intro k hk
    have queued := sessions.mem_iff.1 (List.mem_append_left _ (List.mem_map_of_mem (mem k hk)))
    exact (placed.seeking k.session).2
      ⟨(h.flag k.session).2 queued, fun _ => List.mem_map_of_mem hk⟩
  · intro k hk
    rw [placed.listening]
    exact (Bool.and_eq_true_iff.1 (suited k (mem k hk))).1

/-- **An offer keeps the queue and the marks together**, whatever game is offered. -/
theorem tracked_offer (h : s.waiting.Tracked) (i : GameId) :
    (s.offer i).2.waiting.Tracked ∧ (s.offer i).2.waiting.known = s.waiting.known := by
  cases found : s.games.get? i with
  | none =>
    rw [offer, found]
    exact ⟨h, rfl⟩
  | some g =>
    have perm := split_perm (s.suits g.attributes) g.freeSlots s.queue
    cases divided : split (s.suits g.attributes) g.freeSlots s.queue with
    | mk taken kept =>
      rw [divided] at perm
      obtain ⟨-, placed, waiting⟩ := waiting_offer h found divided
      rw [waiting]
      exact ⟨h.offer perm placed, placed.known⟩

end Server

end Lobby
