import Lobby.Proofs.Game.Bench

/-!
# Members and their links

A member of a game is linked to its slot there.  For a session in a game this is kept whatever
others do, as long as no other game has the id, and the session does not join the game again as
another player while it is in it (`Bench.Linked.run`).

A roster is searched by players and a link belongs to a session.  So a session whose player is in
the game by another session is told the slot of the other one, and does not become a member; any
other session that is told a slot has it (`Bench.belongs_run`).
-/

namespace Lobby

theorem Game.Tidy.eq_of_slot {g : Game} (h : g.Tidy) {m o : Member} (hm : m ∈ g.roster)
    (ho : o ∈ g.roster) (same : m.slot = o.slot) : m = o :=
  List.inj_on_of_nodup_map (List.pairwise_map.2 (h.slots.imp Nat.ne_of_lt)) hm ho same

/-- What becomes of a game and of the links when it is called in a place of the bench. -/
inductive Shift (call : Call) (k : Nat) (player : SessionId → Option Player)
    (seat : SessionId → Option Seat) (g : Game) : (SessionId → Option Seat) → Game → Prop
  | kept {x : Game} (id : x.id = g.id) (roster : x.roster = g.roster) :
      Shift call k player seat g seat x
  | joined {m : Member} {context : JoinContext} (called : call = .join k m.session context)
      (login : player m.session = some m.player) (new : g.memberOf? m.player.id = none)
      (own : ∀ held, seat m.session = some held → held.game = g.id) :
      Shift call k player seat g
        (fun other => if other = m.session then some ⟨g.id, m.slot⟩ else seat other) (g.seat m)
  | left {rest : Game} {m : Member} {leaver : PlayerId} {removal : Removal}
      (removed : g.remove? leaver = some (m, removal, rest)) :
      Shift call k player seat g
        (fun other =>
          if other = m.session ∧ (seat other).any (·.game = g.id) then none else seat other) rest

namespace Shift

variable {call : Call} {k : Nat} {player : SessionId → Option Player}
  {seat seat' : SessionId → Option Seat} {g x : Game} {id : SessionId}

theorem id_eq (shift : Shift call k player seat g seat' x) : x.id = g.id := by
  cases shift with
  | kept same => exact same
  | joined => rfl
  | left removed =>
    obtain ⟨-, -, same, -⟩ := Game.remove?_cases removed
    rw [same]

/-- A session in the game is still linked to its slot, if it does not join as another player. -/
theorem link (shift : Shift call k player seat g seat' x) (tidy : g.Tidy)
    (single : ∀ context, call = .join k id context → ∀ m ∈ g.roster, m.session = id →
      (player id).map (·.id) = some m.player.id)
    (links : ∀ m ∈ g.roster, m.session = id → seat id = some ⟨g.id, m.slot⟩) :
    ∀ m ∈ x.roster, m.session = id → seat' id = some ⟨x.id, m.slot⟩ := by
  rintro m member rfl
  rw [shift.id_eq]
  cases shift with
  | kept _ roster => exact links m (roster ▸ member) rfl
  | @joined n context called login new own =>
    rcases List.mem_cons.1 ((Lineup.seatIn_perm n g.roster).mem_iff.1 member) with rfl | old
    · exact if_pos rfl
    · refine (if_neg fun same => ?_).trans (links m old rfl)
      -- whoever is in the game and joins it as the same player is not new
      have there : some n.player.id = some m.player.id := by
        rw [← single context (by rw [same, called]) m old rfl, same, login, Option.map_some]
      exact List.find?_eq_none.1 new m old (by simpa using there.symm)
  | @left _ n leaver removal removed =>
    obtain ⟨old, ne⟩ := (Game.mem_remove? tidy removed m).1 member
    have gone : n ∈ g.roster := List.mem_of_find?_eq_some (Game.remove?_cases removed).1
    -- a session is linked to one slot, so the one that leaves is another session
    have stays : m.session ≠ n.session := by
      intro same
      have slot := links m old rfl
      rw [links n gone same.symm] at slot
      exact ne (tidy.eq_of_slot old gone (Seat.mk.inj (Option.some.inj slot)).2.symm)
    exact (if_neg fun both => stays both.1).trans (links m old rfl)

/-- Whoever is linked to another game stays linked to it. -/
theorem link_of_ne (shift : Shift call k player seat g seat' x) {held : Seat}
    (link : seat id = some held) (ne : held.game ≠ g.id) : seat' id = some held := by
  cases shift with
  | kept => exact link
  | @joined n context called login new own =>
    refine (if_neg fun same => ?_).trans link
    exact ne (own held (same ▸ link))
  | @left _ n leaver removal removed =>
    refine (if_neg ?_).trans link
    rintro ⟨-, here⟩
    rw [link] at here
    exact ne (by simpa using here)

end Shift

namespace Server

variable {s : Server} {i : GameId} {g : Game} {call : Call} {k : Nat}

/-- Something is done to a game, which goes on under its id. -/
def Shifts (call : Call) (k : Nat) (s : Server) (g : Game) (t : Server) : Prop :=
  ∃ x, t.games.get? g.id = some x ∧
    Shift call k (fun id => (s.session id).player) s.seating.seat g t.seating.seat x

theorem Shifts.refl (found : s.games.get? g.id = some g) : s.Shifts call k g s :=
  ⟨g, found, .kept rfl rfl⟩

/-- A change of a game that concerns nobody's membership. -/
theorem shifts_updateGame (found : s.games.get? g.id = some g) {f : Game → Game}
    (id : (f g).id = g.id) (roster : (f g).roster = g.roster) :
    s.Shifts call k g (s.updateGame g.id f) :=
  ⟨f g, get?_updateGame found f, .kept id roster⟩

/-- What the members are told does not matter. -/
theorem Shifts.broadcast {t : Server} (h : s.Shifts call k g t) (p : Packet)
    (except : Option SessionId) : s.Shifts call k g (t.broadcast i p except) := by
  rw [Shifts, games_broadcast, seating_broadcast]
  exact h

/-! ### What is done to a game -/

theorem shifts_join (found : s.games.get? g.id = some g) (session : SessionId)
    (context : JoinContext) :
    s.Shifts (.join k session context) k g (s.join g.id session context).2 := by
  cases told : (s.join g.id session context).1 with
  | error cause =>
    rw [join_error told]
    exact .refl found
  | ok slot =>
    obtain ⟨player, login, ⟨m, -, -, same⟩ | ⟨absent, now, links, own⟩⟩ := join_eq_ok found told
    · rw [same]
      exact .refl found
    · refine ⟨_, now, ?_⟩
      rw [links]
      exact .joined (m := ⟨session, player, slot⟩) rfl login absent own

theorem shifts_dismiss (found : s.games.get? g.id = some g) (player : PlayerId) (reason : Int64) :
    s.Shifts call k g (s.dismiss g.id player reason).2 := by
  rw [dismiss, found, Option.bind_some]
  cases removed : g.remove? player with
  | none => exact .refl found
  | some result =>
    obtain ⟨gone, removal, rest⟩ := result
    have now : ((s.updateGame g.id fun _ => rest).unlink gone.session g.id).games.get? g.id =
        some rest := get?_updateGame found fun _ => rest
    have links : ((s.updateGame g.id fun _ => rest).unlink gone.session g.id).seating.seat =
        fun other => if other = gone.session ∧ (s.seating.seat other).any (·.game = g.id) then none
          else s.seating.seat other := by
      funext other
      show ((s.updateSession gone.session fun x => x.leave g.id).session other).seat =
        if other = gone.session ∧ ((s.session other).seat).any (·.game = g.id) then none
          else (s.session other).seat
      rw [session, session, get?_updateSession]
      by_cases here : other = gone.session
      · rw [if_pos here]
        cases s.sessions.get? other with
        | none => simp [Session.connected, Inhabited.default]
        | some x =>
          by_cases linked : x.seat.any (·.game = g.id) = true <;> simp [Session.leave, here, linked]
      · simp [here]
    refine ⟨rest, ?_, ?_⟩
    · dsimp only
      rw [games_foldl fun s other => s.games_pushAll other _, games_push, now]
    · dsimp only
      rw [seating_foldl fun s other => s.seating_pushAll other _, seating_push, links]
      exact .left removed

theorem shifts_dismissSession (found : s.games.get? g.id = some g) (session : SessionId)
    (reason : Int64) : s.Shifts call k g (s.dismissSession g.id session reason).2 := by
  rw [dismissSession]
  split
  · exact .refl found
  · exact shifts_dismiss found _ reason

theorem shifts_broadcastAttributes (found : s.games.get? g.id = some g) :
    s.Shifts call k g (s.broadcastAttributes g.id) := by
  rw [broadcastAttributes, found]
  exact (shifts_updateGame found rfl rfl).broadcast _ none

end Server

/-! ### Calls -/

namespace Bench

def alone (b : Bench) (g : Game) : Server := { b.server with games := SortedMap.insert ∅ g.id g }

variable {b : Bench} {k : Nat} {id : SessionId} {call : Call}

theorem get?_alone (b : Bench) (g : Game) : (b.alone g).games.get? g.id = some g := by
  rw [alone, SortedMap.get?_insert, if_pos rfl]

/-- What is done to one game leaves the others in their places. -/
theorem on_eq {g x : Game} {f : GameId → Server → Server} (found : b.games[k]? = some g)
    (now : (f g.id (b.alone g)).games.get? g.id = some x) :
    b.on k f = ⟨f g.id (b.alone g), b.games.set k x⟩ := by
  have stays : ((f g.id (b.alone g)).games.get? g.id).getD g = x := by
    rw [now, Option.getD_some]
  rw [on, found, ← stays]
  rfl

/-- Another bench has the same games and links. -/
def Kept (b c : Bench) : Prop :=
  c.games = b.games ∧ c.server.seating.seat = b.server.seating.seat

/-- In another bench one game has changed by a call, and the links to it. -/
def Shifted (call : Call) (b c : Bench) : Prop :=
  ∃ j g x t, b.games[j]? = some g ∧ c = ⟨t, b.games.set j x⟩ ∧
    Shift call j (fun id => (b.server.session id).player) b.server.seating.seat g t.seating.seat x

theorem on_cases {f : GameId → Server → Server}
    (shifts : ∀ g, (b.alone g).Shifts call k g (f g.id (b.alone g))) :
    b.Kept (b.on k f) ∨ Shifted call b (b.on k f) := by
  cases found : b.games[k]? with
  | none =>
    rw [on, found]
    exact .inl ⟨rfl, rfl⟩
  | some g =>
    obtain ⟨x, now, shift⟩ := shifts g
    exact .inr ⟨k, g, x, _, found, on_eq found now, shift⟩

/-- **A call changes no game and no link, opens a game, or changes one game and the links to
it.** -/
theorem step_cases (b : Bench) (call : Call) :
    b.Kept (b.step call) ∨
    (∃ id mid host attributes setting game t, call = .openGame id mid host attributes setting ∧
      b.server.openGame id mid host attributes setting = .ok (game, t) ∧
      b.step call = ⟨t, b.games ++ [game]⟩) ∨
    Shifted call b (b.step call) := by
  cases call with
  | openGame id mid host attributes setting =>
    cases opened : b.server.openGame id mid host attributes setting with
    | error e =>
      rw [step, opened]
      exact .inl ⟨rfl, rfl⟩
    | ok r =>
      rw [step, opened]
      exact .inr (.inl ⟨id, mid, host, attributes, setting, r.1, r.2, rfl, opened, rfl⟩)
  | join k session context =>
    exact (on_cases fun g => Server.shifts_join (b.get?_alone g) session context).imp_right .inr
  | removePlayer k player reason =>
    exact (on_cases fun g => Server.shifts_dismiss (b.get?_alone g) player reason).imp_right .inr
  | removeSession k session reason =>
    exact (on_cases fun g =>
      Server.shifts_dismissSession (b.get?_alone g) session reason).imp_right .inr
  | addAttributes k attributes =>
    exact (on_cases fun g => Server.shifts_updateGame (b.get?_alone g) rfl rfl).imp_right .inr
  | broadcastAttributes k =>
    exact (on_cases fun g => Server.shifts_broadcastAttributes (b.get?_alone g)).imp_right .inr
  | setState k state =>
    exact (on_cases fun g =>
      (Server.shifts_updateGame (b.get?_alone g) rfl rfl).broadcast _ none).imp_right .inr
  | setSetting k setting =>
    exact (on_cases fun g =>
      (Server.shifts_updateGame (b.get?_alone g) rfl rfl).broadcast _ none).imp_right .inr
  | setPlayer session player =>
    exact .inl ⟨rfl, congrArg Seating.seat (b.server.seating_setPlayer session player)⟩

/-! ### Ids -/

/-- No other game has the id of the one in a place. -/
def Unshared (b : Bench) (k : Nat) : Prop :=
  ∀ j g x, b.games[j]? = some g → b.games[k]? = some x → g.id = x.id → j = k

theorem getElem?_set_found {games : List Game} {g : Game} (found : games[k]? = some g) (x : Game) :
    (games.set k x)[k]? = some x :=
  List.getElem?_set_self (List.getElem?_eq_some_iff.1 found).1

theorem getElem?_set_cases {games : List Game} {j : Nat} {x y : Game}
    (now : (games.set j x)[k]? = some y) : k = j ∧ y = x ∨ k ≠ j ∧ games[k]? = some y := by
  by_cases here : j = k
  · subst here
    obtain ⟨inside, -⟩ := List.getElem?_eq_some_iff.1 now
    rw [List.length_set] at inside
    rw [List.getElem?_set_self inside] at now
    exact .inl ⟨rfl, (Option.some.inj now).symm⟩
  · rw [List.getElem?_set_ne here] at now
    exact .inr ⟨Ne.symm here, now⟩

/-- A game keeps its place and its id. -/
theorem exists_step (call : Call) {g : Game} (found : b.games[k]? = some g) :
    ∃ x, (b.step call).games[k]? = some x ∧ x.id = g.id := by
  rcases b.step_cases call with
    ⟨games, -⟩ | ⟨-, -, -, -, -, game, t, -, -, after⟩ | ⟨j, y, x, t, there, after, shift⟩
  · exact ⟨g, games ▸ found, rfl⟩
  · obtain ⟨inside, -⟩ := List.getElem?_eq_some_iff.1 found
    rw [after]
    exact ⟨g, (List.getElem?_append_left inside).trans found, rfl⟩
  · rw [after]
    by_cases here : j = k
    · subst here
      obtain rfl : y = g := Option.some.inj (there.symm.trans found)
      exact ⟨x, getElem?_set_found found x, shift.id_eq⟩
    · exact ⟨g, (List.getElem?_set_ne here).trans found, rfl⟩

theorem Unshared.of_step (h : (b.step call).Unshared k) : b.Unshared k := by
  intro j g x first second same
  obtain ⟨g', first, id⟩ := exists_step call first
  obtain ⟨x', second, id'⟩ := exists_step call second
  exact h j g' x' first second (id.trans (same.trans id'.symm))

theorem Unshared.of_run (calls : List Call) (h : (b.run calls).Unshared k) : b.Unshared k := by
  induction calls generalizing b with
  | nil => exact h
  | cons call calls ih => exact (ih h).of_step

/-- Joining opens no game. -/
theorem Unshared.join (h : b.Unshared k) (j : Nat) (session : SessionId) (context : JoinContext) :
    (b.step (.join j session context)).Unshared k := by
  -- the game that was in a place has the id of the one that is there now
  have before {i : Nat} {y : Game} (now : (b.step (.join j session context)).games[i]? = some y) :
      ∃ z, b.games[i]? = some z ∧ z.id = y.id := by
    rcases b.step_cases (.join j session context) with
      ⟨games, -⟩ | ⟨_, _, _, _, _, _, _, other, -⟩ | ⟨p, g, x, t, found, after, shift⟩
    · exact ⟨y, games ▸ now, rfl⟩
    · cases other
    · rw [after] at now
      rcases getElem?_set_cases now with ⟨rfl, rfl⟩ | ⟨-, old⟩
      · exact ⟨g, found, shift.id_eq.symm⟩
      · exact ⟨y, old, rfl⟩
  intro i y z first second same
  obtain ⟨y', first, id⟩ := before first
  obtain ⟨z', second, id'⟩ := before second
  exact h i y' z' first second (id.trans (same.trans id'.symm))

/-! ### Members are linked -/

/-- A session does not join the game in a place while it is in it as another player. -/
def orderly (b : Bench) (k : Nat) (id : SessionId) : Call → Bool
  | .join j session _ =>
    j ≠ k || session ≠ id || b.games[k]?.all fun g => g.roster.all fun m =>
      m.session ≠ id || (b.server.session id).player.map (·.id) = some m.player.id
  | _ => true

def orderlyAll (b : Bench) (k : Nat) (id : SessionId) : List Call → Bool
  | [] => true
  | call :: calls => b.orderly k id call && (b.step call).orderlyAll k id calls

/-- What a session is told that joins the game in a place of the bench. -/
def join? (b : Bench) (k : Nat) (session : SessionId) (context : JoinContext) :
    Option (Except Error Nat) :=
  b.games[k]?.map fun g => ((b.alone g).join g.id session context).1

/-- If a session that joins a game is told a slot, it has just that entry in the game, and is linked
to it. -/
def Belongs (b : Bench) (k : Nat) (session : SessionId) (context : JoinContext) : Prop :=
  ∀ g slot, b.games[k]? = some g → b.join? k session context = some (.ok slot) →
    let c := b.step (.join k session context)
    ∃ x, c.games[k]? = some x ∧ x.id = g.id ∧
      (∃ m, x.roster.filter (·.session = session) = [m] ∧ m.slot = slot) ∧
        (c.server.session session).seat = some ⟨g.id, slot⟩

/-- A session is linked to the slot that it has in the game in a place. -/
def Linked (b : Bench) (k : Nat) (id : SessionId) : Prop :=
  ∀ g, b.games[k]? = some g → ∀ m ∈ g.roster, m.session = id →
    b.server.seating.seat id = some ⟨g.id, m.slot⟩

theorem single_of_orderly {context : JoinContext}
    (orderly : b.orderly k id (.join k id context) = true) {g : Game}
    (found : b.games[k]? = some g) : ∀ m ∈ g.roster, m.session = id →
      (b.server.session id).player.map (·.id) = some m.player.id := by
  intro m member here
  simp only [Bench.orderly, found, ne_eq, not_true, decide_false, Bool.false_or, Option.all_some,
    List.all_eq_true] at orderly
  simpa [here] using orderly m member

/-- What is done to a game keeps the links of its members, and those to every other game. -/
theorem Linked.shift (h : b.Linked k id) (tidy : b.Tidy) (orderly : b.orderly k id call = true)
    {j : Nat} {g x : Game} {t : Server} (found : b.games[j]? = some g)
    (shift : Shift call j (fun id => (b.server.session id).player) b.server.seating.seat g
      t.seating.seat x)
    (unshared : Unshared ⟨t, b.games.set j x⟩ k) : Linked ⟨t, b.games.set j x⟩ k id := by
  intro y there m member here
  rcases getElem?_set_cases there with ⟨rfl, rfl⟩ | ⟨ne, old⟩
  · refine shift.link (tidy k g found) (fun context called => ?_) (h g found) m member here
    exact single_of_orderly (called ▸ orderly) found
  · refine shift.link_of_ne (h y old m member here) fun same => ne ?_
    have id : x.id = y.id := shift.id_eq.trans same.symm
    exact (unshared j x y (getElem?_set_found found x) there id).symm

/-- Whoever opens a game is linked to it, and is in no other one. -/
theorem Linked.openGame (h : b.Linked k id) {i : GameId} {mid : UInt32} {host : SessionId}
    {attributes : Attributes} {setting : UInt16} {game : Game} {t : Server}
    (opened : b.server.openGame i mid host attributes setting = .ok (game, t))
    (unshared : Unshared ⟨t, b.games ++ [game]⟩ k) : Linked ⟨t, b.games ++ [game]⟩ k id := by
  obtain ⟨player, login, claimed, rfl⟩ := Server.claim_of_openGame opened
  have links := Server.seat_claim login claimed
  have last : (b.games ++ [Game.hosted i mid host player attributes setting])[b.games.length]? =
      some (.hosted i mid host player attributes setting) := List.getElem?_concat_length
  intro g there m member here
  show t.seating.seat id = _
  rw [links]
  rcases Nat.lt_or_ge k b.games.length with inside | outside
  · have old := (List.getElem?_append_left inside).symm.trans there
    have link := h g old m member here
    refine (if_neg fun same => ?_).trans link
    -- its link would be to the new game, under an id that is taken
    have held := Server.held_of_claim claimed (same ▸ link)
    have := unshared _ _ g last there held.symm
    omega
  · obtain ⟨inside, -⟩ := List.getElem?_eq_some_iff.1 there
    rw [List.length_append, List.length_singleton] at inside
    obtain rfl : k = b.games.length := by omega
    obtain rfl := Option.some.inj (last.symm.trans there)
    rw [List.mem_singleton.1 member] at here ⊢
    exact if_pos here.symm

/-- **A call that is orderly for a session keeps it linked.** -/
theorem Linked.step (h : b.Linked k id) (tidy : b.Tidy) (orderly : b.orderly k id call = true)
    (unshared : (b.step call).Unshared k) : (b.step call).Linked k id := by
  rcases b.step_cases call with
    ⟨games, seat⟩ | ⟨i, mid, host, attributes, setting, game, t, -, opened, after⟩ |
      ⟨j, g, x, t, found, after, shift⟩
  · rw [Linked, games, seat]
    exact h
  · rw [after] at unshared ⊢
    exact h.openGame opened unshared
  · rw [after] at unshared ⊢
    exact h.shift tidy orderly found shift unshared

theorem Linked.run {calls : List Call} (h : b.Linked k id) (tidy : b.Tidy)
    (orderly : b.orderlyAll k id calls = true) (unshared : (b.run calls).Unshared k) :
    (b.run calls).Linked k id := by
  induction calls generalizing b with
  | nil => exact h
  | cons call calls ih =>
    obtain ⟨first, rest⟩ := Bool.and_eq_true_iff.1 orderly
    have once : (b.step call).Unshared k := Unshared.of_run calls unshared
    exact ih (h.step tidy first once) (tidy.step call) rest unshared

/-- The entries of a member's session are the member. -/
theorem Linked.filter_session (h : b.Linked k id) {g : Game} (tidy : g.Tidy)
    (found : b.games[k]? = some g) {m : Member} (member : m ∈ g.roster) (here : m.session = id) :
    g.roster.filter (·.session = id) = [m] := by
  have slots := tidy.slots.filter fun o => decide (o.session = id)
  have only (o : Member) (ho : o ∈ g.roster.filter (·.session = id)) : o = m := by
    obtain ⟨ho, same⟩ := List.mem_filter.1 ho
    have link := h g found o ho (by simpa using same)
    rw [h g found m member here] at link
    exact tidy.eq_of_slot ho member (Seat.mk.inj (Option.some.inj link)).2.symm
  have own : m ∈ g.roster.filter (·.session = id) := List.mem_filter.2 ⟨member, by simp [here]⟩
  generalize g.roster.filter (·.session = id) = entries at slots only own
  match entries with
  | [] => cases own
  | [o] => rw [only o List.mem_cons_self]
  | o :: p :: rest =>
    have less := (List.pairwise_cons.1 slots).1 p List.mem_cons_self
    rw [only o List.mem_cons_self, only p (by simp)] at less
    exact absurd less (Nat.lt_irrefl _)

/-- A join that changes nothing leaves all games as they are. -/
theorem step_join_of_eq {g : Game} (found : b.games[k]? = some g) {session : SessionId}
    {context : JoinContext} (same : ((b.alone g).join g.id session context).2 = b.alone g) :
    b.step (.join k session context) = ⟨b.alone g, b.games⟩ := by
  obtain ⟨inside, here⟩ := List.getElem?_eq_some_iff.1 found
  have result := on_eq (f := fun i s => (s.join i session context).2) found
    ((congrArg (·.games.get? g.id) same).trans (b.get?_alone g))
  rw [same, ← here, List.set_getElem_self, here] at result
  exact result

/-- A session that joins a game belongs to it if no other session is there as its player. -/
theorem Linked.belongs (h : b.Linked k id) (tidy : b.Tidy) (unshared : b.Unshared k) {g : Game}
    (found : b.games[k]? = some g) {context : JoinContext}
    (single : b.orderly k id (.join k id context) = true)
    (own : ∀ m ∈ g.roster,
      (b.server.session id).player.map (·.id) = some m.player.id → m.session = id) :
    b.Belongs k id context := by
  intro g' slot found' told c
  obtain rfl : g = g' := Option.some.inj (found.symm.trans found')
  have after : c.Linked k id := h.step tidy single (unshared.join k id context)
  rw [join?, found, Option.map_some] at told
  obtain ⟨player, login, ⟨m, there, rfl, same⟩ | ⟨-, now, -, -⟩⟩ :=
    Server.join_eq_ok (b.get?_alone g) (Option.some.inj told)
  · have result : c = ⟨b.alone g, b.games⟩ := step_join_of_eq found same
    have member : m ∈ g.roster := List.mem_of_find?_eq_some there
    have here : m.session = id := by
      have login : (b.server.session id).player = some player := login
      have same : m.player.id = player.id := by simpa using List.find?_some there
      exact own m member (by rw [login, same]; rfl)
    rw [result]
    exact ⟨g, found, rfl, ⟨m, h.filter_session (tidy k g found) found member here, rfl⟩,
      h g found m member here⟩
  · have placed : c.games[k]? = some (g.seat ⟨id, player, slot⟩) := by
      have result : c = _ := on_eq (f := fun i s => (s.join i id context).2) found now
      rw [result]
      exact getElem?_set_found found _
    have member : (⟨id, player, slot⟩ : Member) ∈ (g.seat ⟨id, player, slot⟩).roster :=
      (Lineup.seatIn_perm _ g.roster).mem_iff.2 List.mem_cons_self
    exact ⟨_, placed, rfl,
      ⟨_, after.filter_session (tidy.step _ k _ placed) placed member rfl, rfl⟩,
      after _ placed _ member rfl⟩

theorem tidy_start (server : Server) : (start server).Tidy := nofun

/-- **A session that joins a game belongs to it, unless another session is there as its player.**
In a game whose id no other game has, a session is linked to its slot, and a slot it is told is its
own.  This is so if the session has not joined the game as another player while it was in it,
counting from any moment at which it was not in it.  But if another session is there as its player,
it is told the slot of that one and nothing happens. -/
theorem belongs_run (server : Server) (calls : List Call) :
    let b := (start server).run calls
    ∀ k g, b.games[k]? = some g →
      ((∀ j x, b.games[j]? = some x → x.id = g.id → j = k) → ∀ session before later,
        calls = before ++ later →
        let a := (start server).run before
        (∀ x, a.games[k]? = some x → session ∉ x.sessions) →
        a.orderlyAll k session later = true →
          (∀ m ∈ g.roster, m.session = session →
            (b.server.session session).seat = some ⟨g.id, m.slot⟩) ∧
          ∀ context, b.orderly k session (.join k session context) = true →
            (∀ m ∈ g.roster, (b.server.session session).player.map (·.id) = some m.player.id →
              m.session = session) →
            b.Belongs k session context) ∧
      ∀ session context, ∀ m ∈ g.roster,
        (b.server.session session).player.map (·.id) = some m.player.id → m.session ≠ session →
          let c := b.step (.join k session context)
          b.join? k session context = some (.ok m.slot) ∧ c.games = b.games ∧
            c.server.sessions = b.server.sessions := by
  intro b k g found
  have tidy : b.Tidy := (tidy_start server).run calls
  refine ⟨?_, fun session context m member own _ => ?_⟩
  · rintro ids session before later rfl a outside orderly
    have unshared : b.Unshared k := by
      intro j x y there here same
      obtain rfl : g = y := Option.some.inj (found.symm.trans here)
      exact ids j x there same
    have now : b = a.run later := List.foldl_append
    have linked : b.Linked k session := by
      have absent : a.Linked k session := fun x there m member here =>
        absurd (here ▸ List.mem_map_of_mem member) (outside x there)
      rw [now] at unshared ⊢
      exact absent.run ((tidy_start server).run before) orderly unshared
    exact ⟨linked g found, fun context single => linked.belongs tidy unshared found single⟩
  · obtain ⟨player, login, same⟩ := Option.map_eq_some_iff.1 own
    have there : g.memberOf? player.id = some m :=
      same ▸ Lineup.find?_eq_some (tidy k g found).players member
    have result : (b.alone g).join g.id session context = (.ok m.slot, b.alone g) :=
      Server.join_of_member login (b.get?_alone g)
        ((tidy k g found).active.2 (List.ne_nil_of_mem member)) there
    have after := step_join_of_eq found (congrArg Prod.snd result)
    rw [join?, found, Option.map_some, result, after]
    exact ⟨rfl, rfl, rfl⟩

/-- A session joins a game twice as two players, and is removed twice.  Then the host joins its own
game as another player; the session comes back as a third one, and gets a slot of its own. -/
theorem belongs_run_again :
    let player (id : PlayerId) : Player := ⟨id, "name"⟩
    let server : Server :=
      { Server.start ⟨∅, ∅, ∅, 3, true⟩ with
        sessions := .ofList [(1, .connected none), (2, .connected none)] }
    let before : List Call :=
      [.setPlayer 1 (some (player 10)), .setPlayer 2 (some (player 20)), .openGame 7 0 1 ∅ 0,
        .join 0 2 .matchmaking, .setPlayer 2 (some (player 21)), .join 0 2 .matchmaking,
        .removeSession 0 2 0, .removeSession 0 2 0]
    let later : List Call :=
      [.setPlayer 1 (some (player 11)), .join 0 1 .matchmaking, .setPlayer 2 (some (player 22))]
    let a := (start server).run before
    let b := (start server).run (before ++ later)
    let c := b.step (.join 0 2 .matchmaking)
    (start server).orderlyAll 0 2 before = false ∧ a.orderlyAll 0 1 later = false ∧
      a.orderlyAll 0 2 later = true ∧ b.orderly 0 2 (.join 0 2 .matchmaking) = true ∧
      b.join? 0 2 .matchmaking = some (.ok 2) ∧
      ∃ g x, b.games[0]? = some g ∧ c.games[0]? = some x ∧ x.id = g.id ∧
        (∃ m, x.roster.filter (·.session = 2) = [m] ∧ m.slot = 2) ∧
          (c.server.session 2).seat = some ⟨g.id, 2⟩ := by
  intro player server before later a b c
  have orderly : a.orderlyAll 0 2 later = true := by decide +kernel
  have single : b.orderly 0 2 (.join 0 2 .matchmaking) = true := by decide +kernel
  have told : b.join? 0 2 .matchmaking = some (.ok 2) := by decide +kernel
  have sessions : a.games.map (·.sessions) = [[1]] := by decide +kernel
  have others : b.games.map (fun g => g.roster.map (·.player.id)) = [[10, 11]] := by decide +kernel
  have own : (b.server.session 2).player.map (·.id) = some 22 := by decide +kernel
  refine ⟨by decide +kernel, by decide +kernel, orderly, single, told, ?_⟩
  obtain ⟨g, games, others⟩ := List.map_eq_singleton_iff.1 others
  have found : b.games[0]? = some g := by rw [games]; rfl
  have alone (j : Nat) (x : Game) (there : b.games[j]? = some x) (_ : x.id = g.id) : j = 0 := by
    obtain ⟨inside, -⟩ := List.getElem?_eq_some_iff.1 there
    rw [games, List.length_singleton] at inside
    omega
  have outside (x : Game) (there : a.games[0]? = some x) : 2 ∉ x.sessions := by
    have seen := congrArg (·[0]?) sessions
    rw [List.getElem?_map, there] at seen
    rw [show x.sessions = [1] from Option.some.inj seen]
    decide
  obtain ⟨linked, -⟩ := belongs_run server (before ++ later) 0 g found
  obtain ⟨-, belongs⟩ := linked alone 2 before later rfl outside orderly
  obtain ⟨x, now, id, entry, link⟩ := belongs .matchmaking single (fun m member same => by
    have among := List.mem_map_of_mem (f := (·.player.id)) member
    rw [own] at same
    rw [others, ← Option.some.inj same] at among
    exact absurd among (by decide)) g 2 found told
  exact ⟨g, x, found, now, id, entry, link⟩

/-- Of two players in a game one logs in as the other: joining again, it is told the other's slot.
And if a player logs in twice and one session is in a game, the other one is told that slot without
becoming a member. -/
theorem belongs_run_shared :
    let player (id : PlayerId) : Player := ⟨id, "name"⟩
    let server : Server :=
      { Server.start ⟨∅, ∅, ∅, 3, true⟩ with
        sessions := .ofList [(1, .connected none), (2, .connected none)] }
    let renamed := (start server).run
      [.setPlayer 1 (some (player 10)), .setPlayer 2 (some (player 20)), .openGame 7 0 1 ∅ 0,
        .join 0 2 .matchmaking, .setPlayer 1 (some (player 20))]
    let doubled := (start server).run
      [.setPlayer 1 (some (player 10)), .setPlayer 2 (some (player 10)), .openGame 7 0 1 ∅ 0]
    ¬renamed.Belongs 0 1 .matchmaking ∧ ¬doubled.Belongs 0 2 .matchmaking := by
  intro player server renamed doubled
  refine ⟨fun belongs => ?_, fun belongs => ?_⟩
  · have seen : renamed.games[0]?.isSome = true := by decide +kernel
    have told : renamed.join? 0 1 .matchmaking = some (.ok 1) := by decide +kernel
    have link : ((renamed.step (.join 0 1 .matchmaking)).server.session 1).seat = some ⟨7, 0⟩ := by
      decide +kernel
    obtain ⟨g, found⟩ := Option.isSome_iff_exists.1 seen
    obtain ⟨x, -, -, -, linked⟩ := belongs g 1 found told
    rw [link] at linked
    exact absurd (Seat.mk.inj (Option.some.inj linked)).2 (by decide)
  · have seen : doubled.games[0]?.isSome = true := by decide +kernel
    have told : doubled.join? 0 2 .matchmaking = some (.ok 0) := by decide +kernel
    have link : ((doubled.step (.join 0 2 .matchmaking)).server.session 2).seat = none := by
      decide +kernel
    obtain ⟨g, found⟩ := Option.isSome_iff_exists.1 seen
    obtain ⟨x, -, -, -, linked⟩ := belongs g 0 found told
    rw [link] at linked
    cases linked

end Bench

end Lobby
