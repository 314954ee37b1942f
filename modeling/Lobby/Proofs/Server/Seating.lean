import Lobby.Server.Basic
import Mathlib.Data.List.Nodup
import Mathlib.Logic.Relation

/-!
# Seatings

A seating is what the links of sessions, the rosters of games, the queue and the two registers say
together, without anything else a server knows.  A request changes it in four kinds of moves:

* the queue is changed, and only free sessions come into it;
* a free session becomes the host of a new game;
* a free session becomes a member of an active game;
* a member leaves its game, which goes out of the register with its last member.

Each of them keeps a seating coherent (`Seating.Coherent.move`).
-/

namespace Lobby

structure Lineup where
  id : GameId
  registered : Bool
  active : Bool
  roster : List Member

@[ext] structure Seating where
  present : SessionId → Bool
  seat : SessionId → Option Seat
  lineup : GameId → Option Lineup
  queue : List SessionId
  nextSession : SessionId
  created : UInt32

/-! ### Lineups -/

namespace Lineup

/-- The lineup of the game with an id is in order: the game is registered as long as it has members,
and no two members share a session or a player. -/
structure Sound (i : GameId) (l : Lineup) : Prop where
  id : l.id = i
  registered : l.registered = l.active
  active : l.active = true ↔ l.roster ≠ []
  sessions : (l.roster.map (·.session)).Nodup
  players : (l.roster.map (·.player.id)).Nodup

def hosted (i : GameId) (m : Member) : Lineup := ⟨i, true, true, [m]⟩

def seat (l : Lineup) (m : Member) : Lineup := { l with roster := Game.seatIn m l.roster }

def without (l : Lineup) (player : PlayerId) : Lineup :=
  match l.roster.eraseP (·.player.id = player) with
  | [] => { l with roster := [], active := false, registered := false }
  | first :: rest => { l with roster := first :: rest }

theorem seatIn_perm (m : Member) (r : List Member) : (Game.seatIn m r).Perm (m :: r) := by
  induction r with
  | nil => exact .refl _
  | cons other rest ih =>
    rw [Game.seatIn]
    split
    · exact (ih.cons other).trans (.swap m other rest)
    · exact .refl _

theorem roster_without (l : Lineup) (player : PlayerId) :
    (l.without player).roster = l.roster.eraseP (·.player.id = player) := by
  rw [without]
  split <;> rename_i h <;> rw [h]

/-- The first element with the image of `m` is `m`, if the images are distinct. -/
theorem find?_eq_some {κ : Type} [DecidableEq κ] {f : Member → κ} {r : List Member}
    (h : (r.map f).Nodup) {m : Member} (hm : m ∈ r) : r.find? (fun x => f x = f m) = some m := by
  cases found : r.find? (fun x => f x = f m) with
  | none =>
    have none := List.find?_eq_none.1 found m hm
    simp at none
  | some o =>
    have image : f o = f m := by simpa using List.find?_some found
    have ho : o ∈ r := List.mem_of_find?_eq_some found
    rw [List.inj_on_of_nodup_map h hm ho image.symm]

/-- Erasing the first element with the image of `m` erases `m`, if the images are distinct. -/
theorem mem_eraseP_iff {f : Member → PlayerId} {r : List Member} (h : (r.map f).Nodup)
    {m : Member} (hm : m ∈ r) (o : Member) :
    o ∈ r.eraseP (fun x => f x = f m) ↔ o ∈ r ∧ o ≠ m := by
  induction r with
  | nil => simp at hm
  | cons a r ih =>
    obtain ⟨ha, hr⟩ := List.nodup_cons.1 h
    have off : ∀ x ∈ r, f x ≠ f a := fun x hx e => ha (e ▸ List.mem_map_of_mem hx)
    by_cases e : f a = f m
    · have same : m = a := by
        rcases List.mem_cons.1 hm with rfl | hm
        · rfl
        · exact absurd e.symm (off m hm)
      subst same
      have out : m ∉ r := fun hm => off m hm rfl
      simp only [List.eraseP_cons, decide_true, cond_true, List.mem_cons]
      constructor
      · intro ho
        exact ⟨.inr ho, fun e => out (e ▸ ho)⟩
      · rintro ⟨rfl | ho, ne⟩
        · exact absurd rfl ne
        · exact ho
    · have hm : m ∈ r := by
        rcases List.mem_cons.1 hm with rfl | hm
        · exact absurd rfl e
        · exact hm
      simp only [List.eraseP_cons, decide_eq_false e, cond_false, List.mem_cons, ih hr hm]
      constructor
      · rintro (rfl | ⟨ho, ne⟩)
        · exact ⟨.inl rfl, fun same => e (same ▸ rfl)⟩
        · exact ⟨.inr ho, ne⟩
      · rintro ⟨rfl | ho, ne⟩
        · exact .inl rfl
        · exact .inr ⟨ho, ne⟩

theorem Sound.eq_of_session {i : GameId} {l : Lineup} (h : l.Sound i) {m o : Member}
    (hm : m ∈ l.roster) (ho : o ∈ l.roster) (e : m.session = o.session) : m = o :=
  List.inj_on_of_nodup_map h.sessions hm ho e

theorem Sound.registered_of_mem {i : GameId} {l : Lineup} (h : l.Sound i) {m : Member}
    (hm : m ∈ l.roster) : l.registered = true := by
  rw [h.registered]
  exact h.active.2 (List.ne_nil_of_mem hm)

theorem sound_hosted (i : GameId) (m : Member) : (hosted i m).Sound i where
  id := rfl
  registered := rfl
  active := by simp [hosted]
  sessions := by simp [hosted]
  players := by simp [hosted]

theorem Sound.seat {i : GameId} {l : Lineup} (h : l.Sound i) {m : Member} (active : l.active = true)
    (session : ∀ o ∈ l.roster, o.session ≠ m.session)
    (player : ∀ o ∈ l.roster, o.player.id ≠ m.player.id) : (l.seat m).Sound i where
  id := h.id
  registered := h.registered
  active := by
    refine ⟨fun _ e => ?_, fun _ => active⟩
    have length := (seatIn_perm m l.roster).length_eq
    rw [show Game.seatIn m l.roster = [] from e] at length
    simp at length
  sessions := by
    refine (((seatIn_perm m l.roster).map _).nodup_iff).2 (List.nodup_cons.2 ⟨?_, h.sessions⟩)
    intro hm
    obtain ⟨o, ho, e⟩ := List.mem_map.1 hm
    exact session o ho e
  players := by
    refine (((seatIn_perm m l.roster).map _).nodup_iff).2 (List.nodup_cons.2 ⟨?_, h.players⟩)
    intro hm
    obtain ⟨o, ho, e⟩ := List.mem_map.1 hm
    exact player o ho e

theorem Sound.without {i : GameId} {l : Lineup} (h : l.Sound i) (player : PlayerId)
    (active : l.active = true) : (l.without player).Sound i where
  id := by
    rw [Lineup.without]
    split <;> exact h.id
  registered := by
    rw [Lineup.without]
    split
    · rfl
    · exact h.registered
  active := by
    rw [Lineup.without]
    split
    · simp
    · simpa using active
  sessions := by
    rw [roster_without]
    exact h.sessions.sublist (List.eraseP_sublist.map _)
  players := by
    rw [roster_without]
    exact h.players.sublist (List.eraseP_sublist.map _)

end Lineup

/-! ### Coherent seatings -/

namespace Seating

/-- A session that is registered and neither sits in a game nor waits for one. -/
structure Free (t : Seating) (id : SessionId) : Prop where
  present : t.present id = true
  seat : t.seat id = none
  queue : id ∉ t.queue

/-- Links, rosters, the queue and the registers fit each other. -/
structure Coherent (t : Seating) : Prop where
  /-- Every entry of a roster is the seat of its session. -/
  seat : ∀ {i l}, t.lineup i = some l → ∀ m ∈ l.roster, t.seat m.session = some ⟨i, m.slot⟩
  /-- Every seat is in a roster. -/
  member : ∀ id seat, t.seat id = some seat →
    ∃ l, t.lineup seat.game = some l ∧ ∃ m ∈ l.roster, m.session = id ∧ m.slot = seat.slot
  lineup : ∀ {i l}, t.lineup i = some l → l.Sound i
  seated : ∀ id, t.seat id ≠ none → t.present id = true
  queued : ∀ id ∈ t.queue, t.present id = true ∧ t.seat id = none
  distinct : t.queue.Nodup
  /-- The ids of sessions and games to come are unused. -/
  nextSession : ∀ id, t.nextSession ≤ id → t.present id = false
  created : ∀ i, t.created < i → t.lineup i = none

def setQueue (t : Seating) (queue : List SessionId) : Seating := { t with queue }

def setSeat (t : Seating) (id : SessionId) (seat : Option Seat) : Seating :=
  { t with seat := fun other => if other = id then seat else t.seat other }

def setLineup (t : Seating) (i : GameId) (l : Lineup) : Seating :=
  { t with lineup := fun j => if j = i then some l else t.lineup j }

theorem setSeat_setLineup (t : Seating) (id : SessionId) (seat : Option Seat) (i : GameId)
    (l : Lineup) : (t.setLineup i l).setSeat id seat = (t.setSeat id seat).setLineup i l := rfl

theorem setLineup_setLineup (t : Seating) (i : GameId) (k l : Lineup) :
    (t.setLineup i k).setLineup i l = t.setLineup i l := by
  refine Seating.ext rfl rfl ?_ rfl rfl rfl
  funext j
  by_cases e : j = i <;> simp [setLineup, e]

def connect (t : Seating) : Seating :=
  { t with
    present := fun id => if id = t.nextSession then true else t.present id
    nextSession := t.nextSession + 1 }

def depart (t : Seating) (id : SessionId) : Seating :=
  { t with present := fun other => if other = id then false else t.present other }

/-! ### Moves -/

def nextGame (t : Seating) : GameId := 1 + t.created

/-- A session creates the next game, as a player. -/
def host (t : Seating) (session : SessionId) (player : Player) : Seating :=
  (({ t with created := t.created + 1 }).setSeat session (some ⟨t.nextGame, 0⟩)).setLineup
    t.nextGame (.hosted t.nextGame ⟨session, player, 0⟩)

def sit (t : Seating) (i : GameId) (l : Lineup) (m : Member) : Seating :=
  (t.setSeat m.session (some ⟨i, m.slot⟩)).setLineup i (l.seat m)

def unseat (t : Seating) (i : GameId) (l : Lineup) (m : Member) : Seating :=
  (t.setSeat m.session none).setLineup i (l.without m.player.id)

/-- What can become of a seating in one step. -/
inductive Move : Seating → Seating → Prop
  | queue {t : Seating} {queue : List SessionId} (distinct : queue.Nodup)
      (known : ∀ id ∈ queue, id ∈ t.queue ∨ t.Free id) : Move t (t.setQueue queue)
  | host {t : Seating} {session : SessionId} (player : Player) (free : t.Free session)
      (room : t.created.toNat + 1 < UInt32.size) : Move t (t.host session player)
  | sit {t : Seating} {i : GameId} {l : Lineup} {m : Member} (found : t.lineup i = some l)
      (active : l.active = true) (free : t.Free m.session)
      (player : ∀ o ∈ l.roster, o.player.id ≠ m.player.id) : Move t (t.sit i l m)
  | unseat {t : Seating} {i : GameId} {l : Lineup} {m : Member} (found : t.lineup i = some l)
      (member : m ∈ l.roster) : Move t (t.unseat i l m)

abbrev Moves : Seating → Seating → Prop := Relation.ReflTransGen Move

/-- Moves concern sessions that are there. -/
theorem Moves.present {t u : Seating} (steps : Moves t u) : u.present = t.present := by
  induction steps with
  | refl => rfl
  | tail _ step ih => cases step <;> exact ih

theorem Moves.nextSession {t u : Seating} (steps : Moves t u) : u.nextSession = t.nextSession := by
  induction steps with
  | refl => rfl
  | tail _ step ih => cases step <;> exact ih

/-! ### Moves keep a seating coherent -/

namespace Coherent

variable {t u : Seating} {id : SessionId} {i : GameId} {l : Lineup}

/-- A session without a seat is in no roster. -/
theorem not_member (h : t.Coherent) (free : t.seat id = none) (found : t.lineup i = some l) :
    ∀ m ∈ l.roster, m.session ≠ id := by
  intro m hm e
  have seat := h.seat found m hm
  rw [e, free] at seat
  cases seat

theorem setQueue (h : t.Coherent) {queue : List SessionId} (distinct : queue.Nodup)
    (known : ∀ id ∈ queue, id ∈ t.queue ∨ t.Free id) : (t.setQueue queue).Coherent :=
  { h with
    queued := by
      intro id hid
      rcases known id hid with old | free
      · exact h.queued id old
      · exact ⟨free.present, free.seat⟩
    distinct }

/-- More games may have been created than there are. -/
theorem setCreated (h : t.Coherent) {created : UInt32} (le : t.created ≤ created) :
    Coherent { t with created } :=
  { h with
    created := by
      intro i hi
      exact h.created i (UInt32.lt_of_le_of_lt le hi) }

/-- A session may change its seat if the lineup says so and stays the same for everybody else. -/
theorem reseat (h : t.Coherent) {seat : Option Seat} (sound : l.Sound i)
    (others : ∀ m : Member, m.session ≠ id →
      (m ∈ l.roster ↔ ∃ k, t.lineup i = some k ∧ m ∈ k.roster))
    (listed : ∀ m ∈ l.roster, m.session = id → seat = some ⟨i, m.slot⟩)
    (taken : ∀ s, seat = some s → s.game = i ∧ ∃ m ∈ l.roster, m.session = id ∧ m.slot = s.slot)
    (left : ∀ s, t.seat id = some s → s.game = i) (present : t.present id = true)
    (idle : id ∈ t.queue → seat = none) (used : i ≤ t.created) :
    ((t.setSeat id seat).setLineup i l).Coherent where
  seat := by
    intro j k found m hm
    simp only [Seating.setLineup, Seating.setSeat] at found ⊢
    split at found
    · next e =>
      cases found
      subst e
      split
      · next e => exact listed m hm e
      · next ne =>
        obtain ⟨k, found, hm⟩ := (others m ne).1 hm
        exact h.seat found m hm
    · next ne =>
      have seat := h.seat found m hm
      rw [if_neg ?_, seat]
      rintro rfl
      exact ne (left _ seat)
  member := by
    intro other s held
    simp only [Seating.setLineup, Seating.setSeat] at held ⊢
    split at held
    · next e =>
      obtain ⟨game, m, hm, session, slot⟩ := taken s held
      exact ⟨l, if_pos game, m, hm, session.trans e.symm, slot⟩
    · next ne =>
      obtain ⟨k, found, m, hm, session, slot⟩ := h.member _ _ held
      by_cases e : s.game = i
      · refine ⟨l, if_pos e, m, (others m (session ▸ ne)).2 ⟨k, e ▸ found, hm⟩, session, slot⟩
      · exact ⟨k, (if_neg e).trans found, m, hm, session, slot⟩
  lineup := by
    intro j k found
    simp only [Seating.setLineup, Seating.setSeat] at found
    split at found
    · next e =>
      cases found
      exact e ▸ sound
    · exact h.lineup found
  seated := by
    intro other held
    simp only [Seating.setLineup, Seating.setSeat] at held ⊢
    split at held
    · next e => exact e ▸ present
    · exact h.seated _ held
  queued := by
    intro other hother
    obtain ⟨present, free⟩ := h.queued other hother
    refine ⟨present, ?_⟩
    simp only [Seating.setLineup, Seating.setSeat]
    split
    · next e => exact idle (e ▸ hother)
    · exact free
  distinct := h.distinct
  nextSession := h.nextSession
  created := by
    intro j hj
    simp only [Seating.setLineup, Seating.setSeat]
    rw [if_neg ?_, h.created j hj]
    rintro rfl
    exact UInt32.not_lt.2 used hj

theorem le_created (h : t.Coherent) (found : t.lineup i = some l) : i ≤ t.created := by
  refine UInt32.not_lt.1 fun lt => ?_
  rw [h.created i lt] at found
  cases found

theorem host (h : t.Coherent) (player : Player) (free : t.Free id)
    (room : t.created.toNat + 1 < UInt32.size) : (t.host id player).Coherent := by
  have next : t.nextGame.toNat = t.created.toNat + 1 := by
    rw [nextGame, UInt32.toNat_add, UInt32.toNat_one, Nat.add_comm]
    exact Nat.mod_eq_of_lt room
  have raised : (t.created + 1).toNat = t.created.toNat + 1 := by
    rw [UInt32.toNat_add, UInt32.toNat_one]
    exact Nat.mod_eq_of_lt room
  have unused : t.lineup t.nextGame = none := by
    refine h.created _ (UInt32.lt_iff_toNat_lt.2 ?_)
    omega
  have h : Coherent { t with created := t.created + 1 } :=
    h.setCreated (UInt32.le_iff_toNat_le.2 (by omega))
  refine h.reseat (Lineup.sound_hosted _ _) ?_ ?_ ?_ ?_ free.present ?_ ?_
  · intro m ne
    constructor
    · intro hm
      rw [List.mem_singleton.1 hm] at ne
      exact absurd rfl ne
    · rintro ⟨k, found, -⟩
      exact absurd (unused.symm.trans found) (by simp)
  · intro m hm _
    rw [List.mem_singleton.1 hm]
  · rintro s ⟨⟩
    exact ⟨rfl, _, List.mem_singleton.2 rfl, rfl, rfl⟩
  · intro s held
    exact absurd (free.seat.symm.trans held) (by simp)
  · intro hid
    exact absurd hid free.queue
  · refine UInt32.le_iff_toNat_le.2 ?_
    show t.nextGame.toNat ≤ (t.created + 1).toNat
    omega

theorem sit (h : t.Coherent) {m : Member} (found : t.lineup i = some l) (active : l.active = true)
    (free : t.Free m.session) (player : ∀ o ∈ l.roster, o.player.id ≠ m.player.id) :
    (t.sit i l m).Coherent := by
  have away := h.not_member free.seat found
  have mem : ∀ o, o ∈ (l.seat m).roster ↔ o = m ∨ o ∈ l.roster := by
    intro o
    rw [Lineup.seat, (Lineup.seatIn_perm m l.roster).mem_iff, List.mem_cons]
  refine h.reseat ((h.lineup found).seat active away player) ?_ ?_ ?_ ?_ free.present ?_
    (h.le_created found)
  · intro o ne
    rw [mem]
    constructor
    · rintro (rfl | ho)
      · exact absurd rfl ne
      · exact ⟨l, found, ho⟩
    · rintro ⟨k, found', ho⟩
      obtain rfl : k = l := Option.some.inj (found'.symm.trans found)
      exact .inr ho
  · intro o ho e
    rcases (mem o).1 ho with rfl | ho
    · rfl
    · exact absurd e (away o ho)
  · rintro s ⟨⟩
    exact ⟨rfl, m, (mem m).2 (.inl rfl), rfl, rfl⟩
  · intro s held
    exact absurd (free.seat.symm.trans held) (by simp)
  · intro hid
    exact absurd hid free.queue

theorem unseat (h : t.Coherent) {m : Member} (found : t.lineup i = some l) (member : m ∈ l.roster) :
    (t.unseat i l m).Coherent := by
  have sound := h.lineup found
  have held := h.seat found m member
  have active : l.active = true := sound.active.2 (List.ne_nil_of_mem member)
  have mem : ∀ o, o ∈ (l.without m.player.id).roster ↔ o ∈ l.roster ∧ o ≠ m := by
    intro o
    rw [Lineup.roster_without]
    exact Lineup.mem_eraseP_iff sound.players member o
  refine h.reseat (sound.without _ active) ?_ ?_ ?_ ?_ (h.seated _ (by simp [held])) ?_
    (h.le_created found)
  · intro o ne
    rw [mem]
    constructor
    · rintro ⟨ho, -⟩
      exact ⟨l, found, ho⟩
    · rintro ⟨k, found', ho⟩
      obtain rfl : k = l := Option.some.inj (found'.symm.trans found)
      exact ⟨ho, fun e => ne (e ▸ rfl)⟩
  · intro o ho e
    obtain ⟨ho, ne⟩ := (mem o).1 ho
    exact absurd (sound.eq_of_session ho member e) ne
  · rintro s ⟨⟩
  · intro s held'
    rw [Option.some.inj (held'.symm.trans held)]
  · intro _
    rfl

/-- **Every move keeps a seating coherent.** -/
theorem move (h : t.Coherent) (step : Move t u) : u.Coherent := by
  cases step with
  | queue distinct known => exact h.setQueue distinct known
  | host player free room => exact h.host player free room
  | sit found active free player => exact h.sit found active free player
  | unseat found member => exact h.unseat found member

theorem moves (h : t.Coherent) (steps : Moves t u) : u.Coherent := by
  induction steps with
  | refl => exact h
  | tail _ step ih => exact ih.move step

/-! ### Sessions that come and go -/

/-- A new session gets the next id. -/
theorem connect (h : t.Coherent) (room : t.nextSession.toNat + 1 < UInt32.size) :
    t.connect.Coherent :=
  { h with
    seated := by
      intro id held
      simp only [Seating.connect]
      split
      · rfl
      · exact h.seated _ held
    queued := by
      intro id hid
      obtain ⟨present, seat⟩ := h.queued id hid
      refine ⟨?_, seat⟩
      simp only [Seating.connect]
      split
      · rfl
      · exact present
    nextSession := by
      intro id hid
      have next : (t.nextSession + 1).toNat = t.nextSession.toNat + 1 := by
        rw [UInt32.toNat_add, UInt32.toNat_one]
        exact Nat.mod_eq_of_lt room
      have hid : t.nextSession.toNat < id.toNat := by
        have := UInt32.le_iff_toNat_le.1 hid
        simp only [Seating.connect] at this
        omega
      simp only [Seating.connect]
      rw [if_neg ?_]
      · exact h.nextSession id (UInt32.le_iff_toNat_le.2 (by omega))
      · rintro rfl
        omega }

/-- A session may go that has no seat and is not queued. -/
theorem depart (h : t.Coherent) (seat : t.seat id = none) (queue : id ∉ t.queue) :
    (t.depart id).Coherent :=
  { h with
    seated := by
      intro other held
      simp only [Seating.depart]
      split
      · next e =>
        subst e
        exact absurd seat held
      · exact h.seated _ held
    queued := by
      intro other hother
      obtain ⟨present, seat⟩ := h.queued other hother
      refine ⟨?_, seat⟩
      simp only [Seating.depart]
      split
      · next e => exact absurd (e ▸ hother) queue
      · exact present
    nextSession := by
      intro other hother
      simp only [Seating.depart]
      split
      · rfl
      · exact h.nextSession other hother }

end Coherent

end Seating

end Lobby
