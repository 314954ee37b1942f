import Lobby.Proofs.Server.Membership

/-!
# What a session is told that joins

A session that is free gets a slot of an active game that is not full and where its player is new
(`Server.join_of_free`).  A session that is told a slot either was let in there, or its player is a
member already and nothing happens (`Server.join_eq_ok`).  A join overfills no game and leaves the
links of all other sessions alone.
-/

namespace Lobby.Server

variable {s : Server} {i : GameId} {g : Game}

/-! ### Games stay as they are -/

theorem games_foldl {f : Server → SessionId → Server} (one : ∀ s id, (f s id).games = s.games)
    (s : Server) (ids : List SessionId) : (ids.foldl f s).games = s.games := by
  induction ids generalizing s with
  | nil => rfl
  | cons id ids ih => rw [List.foldl_cons, ih, one]

@[simp] theorem games_push (s : Server) (id : SessionId) (p : Packet) :
    (s.push id p).games = s.games := rfl

@[simp] theorem games_pushAll (s : Server) (id : SessionId) (ps : List Packet) :
    (s.pushAll id ps).games = s.games := rfl

@[simp] theorem games_introduce (s : Server) (i : GameId) (newcomer : Member)
    (context : JoinContext) (others : List SessionId) :
    (s.introduce i newcomer context others).games = s.games := by
  rw [introduce]
  split
  · rfl
  · exact games_foldl (fun s other => s.games_pushAll other _) s others

@[simp] theorem games_broadcast (s : Server) (i : GameId) (p : Packet)
    (except : Option SessionId) : (s.broadcast i p except).games = s.games := by
  rw [broadcast]
  split
  · rfl
  · exact games_foldl (fun s other => s.games_push other p) s _

theorem get?_updateGame (found : s.games.get? i = some g) (f : Game → Game) :
    (s.updateGame i f).games.get? i = some (f g) := by
  rw [updateGame, SortedMap.get?_modify, if_pos rfl, found, Option.map_some]

/-! ### Links -/

theorem claim_of_free {id : SessionId} (free : s.seating.seat id = none) (seat : Seat) :
    ∃ t, s.claim id seat = .ok t := by
  have unlinked : (s.session id).seat = none := free
  exact ⟨_, by rw [claim, Session.claim, unlinked]; rfl⟩

/-- A session that is there gets the link it claims, and nothing else changes. -/
theorem session_claim {t : Server} {id : SessionId} {player : Player} {seat : Seat}
    (login : (s.session id).player = some player) (h : s.claim id seat = .ok t)
    (other : SessionId) :
    t.session other =
      if other = id then { s.session id with seat := some seat } else s.session other := by
  rw [eq_of_claim h]
  show ((s.updateSession id _).sessions.get? other).getD default = _
  rw [get?_updateSession]
  split
  · next here =>
    subst here
    cases found : s.sessions.get? other with
    | none =>
      rw [session, found] at login
      cases login
    | some x => rfl
  · rfl

theorem seat_claim {t : Server} {id : SessionId} {player : Player} {seat : Seat}
    (login : (s.session id).player = some player) (h : s.claim id seat = .ok t) :
    t.seating.seat = fun other => if other = id then some seat else s.seating.seat other := by
  funext other
  show (t.session other).seat = if other = id then some seat else (s.session other).seat
  rw [session_claim login h]
  split <;> rfl

/-- A link is granted only to a session that has none, or one to the same game. -/
theorem held_of_claim {t : Server} {id : SessionId} {seat held : Seat}
    (h : s.claim id seat = .ok t) (linked : s.seating.seat id = some held) :
    held.game = seat.game := by
  have linked : (s.session id).seat = some held := linked
  rw [claim, Session.claim, linked] at h
  dsimp only at h
  split at h
  · next same => exact same
  · cases h

/-- A link is refused with the game that the session is linked to. -/
theorem held_of_claim_error {id : SessionId} {seat : Seat} {other : GameId}
    (h : s.claim id seat = .error other) :
    ∃ held, (s.session id).seat = some held ∧ held.game = other := by
  rw [claim, Session.claim] at h
  cases linked : (s.session id).seat with
  | none =>
    rw [linked] at h
    cases h
  | some held =>
    rw [linked] at h
    dsimp only at h
    split at h
    · cases h
    · cases h
      exact ⟨held, rfl, rfl⟩

/-! ### Joining -/

/-- A session that has a slot already is told the slot of the member with its player. -/
theorem admission_member {session : SessionId} {slot : Nat}
    (granted : s.admission i session = .ok (.inl slot)) :
    ∃ player x m, (s.session session).player = some player ∧ s.games.get? i = some x ∧
      x.memberOf? player.id = some m ∧ m.slot = slot := by
  rw [admission] at granted
  split at granted
  · cases granted
  · cases granted
  · next player x login found =>
    split at granted
    · cases granted
    · split at granted
      · next m member =>
        cases granted
        exact ⟨player, x, m, login, found, member, rfl⟩
      · split at granted
        · cases granted
        · simp only at granted
          split at granted <;> cases granted

/-- A session that is told a slot has it already, or it is let in and introduced. -/
theorem join_ok_cases {session : SessionId} {context : JoinContext} {slot : Nat}
    (found : s.games.get? i = some g) (told : (s.join i session context).1 = .ok slot) :
    ∃ player, (s.session session).player = some player ∧
      ((∃ m, g.memberOf? player.id = some m ∧ m.slot = slot ∧
          (s.join i session context).2 = s) ∨
        g.memberOf? player.id = none ∧ g.active = true ∧ g.count < gameCapacity ∧
          slot = g.nextSlot ∧ ∃ linked, s.claim session ⟨i, slot⟩ = .ok linked ∧
            (s.join i session context).2 =
              (linked.updateGame i fun game => game.seat ⟨session, player, slot⟩).introduce i
                ⟨session, player, slot⟩ context g.sessions) := by
  cases granted : s.admission i session with
  | error cause =>
    rw [join, granted] at told
    cases told
  | ok admitted =>
    cases admitted with
    | inl taken =>
      obtain ⟨player, x, m, login, known, member, rfl⟩ := admission_member granted
      obtain rfl : g = x := Option.some.inj (found.symm.trans known)
      rw [join, granted] at told ⊢
      exact ⟨player, login, .inl ⟨m, member, Except.ok.inj told, rfl⟩⟩
    | inr entry =>
      obtain ⟨newcomer, linked⟩ := entry
      obtain ⟨player, x, login, known, active, absent, room, rfl, claimed⟩ :=
        admission_newcomer granted
      obtain rfl : g = x := Option.some.inj (found.symm.trans known)
      rw [join, granted] at told ⊢
      cases told
      refine ⟨player, login, .inr ⟨absent, active, room, rfl, linked, claimed, ?_⟩⟩
      rw [found]
      rfl

/-- A session that is told a slot is let in, or its player is a member and nothing happens. -/
theorem join_eq_ok {session : SessionId} {context : JoinContext} {slot : Nat}
    (found : s.games.get? i = some g) (told : (s.join i session context).1 = .ok slot) :
    ∃ player, (s.session session).player = some player ∧
      ((∃ m, g.memberOf? player.id = some m ∧ m.slot = slot ∧
          (s.join i session context).2 = s) ∨
        g.memberOf? player.id = none ∧
          (s.join i session context).2.games.get? i = some (g.seat ⟨session, player, slot⟩) ∧
          (s.join i session context).2.seating.seat =
            (fun other => if other = session then some ⟨i, slot⟩ else s.seating.seat other) ∧
          ∀ held, s.seating.seat session = some held → held.game = i) := by
  obtain ⟨player, login, member | ⟨absent, -, -, -, linked, claimed, result⟩⟩ :=
    join_ok_cases found told
  · exact ⟨player, login, .inl member⟩
  · have still : linked.games.get? i = some g := by rw [games_claim claimed, found]
    rw [result]
    refine ⟨player, login, .inr ⟨absent, ?_, ?_, fun held => held_of_claim claimed⟩⟩
    · rw [games_introduce, get?_updateGame still]
    · rw [seating_introduce]
      show linked.seating.seat = _
      exact seat_claim login claimed

/-- A session whose player is a member of an active game is told that member's slot. -/
theorem join_of_member {session : SessionId} {context : JoinContext} {player : Player} {m : Member}
    (login : (s.session session).player = some player) (found : s.games.get? i = some g)
    (active : g.active = true) (member : g.memberOf? player.id = some m) :
    s.join i session context = (.ok m.slot, s) := by
  have granted : s.admission i session = .ok (.inl m.slot) := by
    simp [admission, login, found, active, member]
  rw [join, granted]

/-- A session that is free gets a slot of an active game that is not full and where its player is
new. -/
theorem join_of_free {session : SessionId} {player : Player}
    (login : (s.session session).player = some player) (free : s.seating.seat session = none)
    (found : s.games.get? i = some g) (active : g.active = true)
    (absent : g.memberOf? player.id = none) (room : g.count < gameCapacity)
    (context : JoinContext) :
    (s.join i session context).1 = .ok g.nextSlot := by
  obtain ⟨linked, claimed⟩ := claim_of_free free ⟨i, g.nextSlot⟩
  have granted : s.admission i session = .ok (.inr (⟨session, player, g.nextSlot⟩, linked)) := by
    simp [admission, login, found, active, absent, Nat.not_le.2 room, claimed]
  rw [join, granted]

/-- A join leaves the links of all other sessions alone. -/
theorem seat_join_of_ne {session other : SessionId} (ne : other ≠ session) (i : GameId)
    (context : JoinContext) :
    (s.join i session context).2.seating.seat other = s.seating.seat other := by
  rcases s.join_cases i session context with same | ⟨newcomer, linked, granted, result⟩
  · rw [same]
  · obtain ⟨player, x, -, -, -, -, -, -, claimed⟩ := admission_newcomer granted
    rw [result, seating_introduce]
    show (linked.session other).seat = (s.session other).seat
    rw [eq_of_claim claimed, Server.session, get?_updateSession, if_neg ne]
    rfl

/-- A join does not overfill a game. -/
theorem count_join (found : s.games.get? i = some g) (few : g.count ≤ gameCapacity)
    (session : SessionId) (context : JoinContext) :
    ∃ x, (s.join i session context).2.games.get? i = some x ∧ x.count ≤ gameCapacity := by
  rcases s.join_cases i session context with same | ⟨newcomer, linked, granted, result⟩
  · rw [same]
    exact ⟨g, found, few⟩
  · obtain ⟨player, x, -, known, -, -, room, -, claimed⟩ := admission_newcomer granted
    obtain rfl : g = x := Option.some.inj (found.symm.trans known)
    have linked : linked.games.get? i = some g := by rw [games_claim claimed, found]
    rw [result, games_introduce, get?_updateGame linked]
    refine ⟨_, rfl, ?_⟩
    show (Game.seatIn newcomer g.roster).length ≤ gameCapacity
    rw [(Lineup.seatIn_perm newcomer g.roster).length_eq]
    exact room

end Lobby.Server
