import Lobby.Proofs.Server.Joining
import Lobby.Proofs.Server.Ledger
import Lobby.Proofs.Server.Run
import Lobby.Proofs.SortedMap

/-!
# Numbers of games

Games are created, joined, left, emptied, changed and released while players log in and out, all in
any order (`Hosting.Call`).  Nothing but a creation takes an id (`Hosting.sameNumbers_apply`), and a
creation takes the next one.  **So the counter is the number of creations, no game has an id above
it, and the next game is new** (`Hosting.numbered_run`).

A creation first takes inactive games out of the register.  If it fails, that is all it has done.
-/

namespace Lobby

namespace Server

variable {s t : Server} {host : SessionId} {attributes : Attributes} {setting : UInt16}

/-! ### Ids in use -/

/-- Is there a game with an id, in the register or out of it? -/
def taken (s : Server) (i : GameId) : Bool := (s.games.get? i).isSome

/-- No id has been taken. -/
structure SameNumbers (s t : Server) : Prop where
  created : t.created = s.created
  taken : t.taken = s.taken

theorem SameNumbers.refl (s : Server) : s.SameNumbers s := ⟨rfl, rfl⟩

theorem sameNumbers_of_games (created : t.created = s.created) (games : t.games = s.games) :
    s.SameNumbers t := by
  refine ⟨created, ?_⟩
  funext i
  rw [taken, taken, games]

theorem sameNumbers_updateGame (s : Server) (i : GameId) (f : Game → Game) :
    s.SameNumbers (s.updateGame i f) := by
  refine ⟨rfl, ?_⟩
  funext j
  show ((s.games.modify i f).get? j).isSome = (s.games.get? j).isSome
  rw [SortedMap.get?_modify]
  split
  · exact Option.isSome_map
  · rfl

theorem sameNumbers_evict (s : Server) : s.SameNumbers s.evict := by
  refine ⟨rfl, ?_⟩
  funext j
  show ((s.games.mapValues _).get? j).isSome = (s.games.get? j).isSome
  rw [SortedMap.get?_mapValues]
  exact Option.isSome_map

theorem SameNumbers.trans {u : Server} (first : s.SameNumbers t) (second : t.SameNumbers u) :
    s.SameNumbers u :=
  ⟨second.created.trans first.created, second.taken.trans first.taken⟩

theorem sameNumbers_dismiss (s : Server) (i : GameId) (player : PlayerId) (reason : Int64) :
    s.SameNumbers (s.dismiss i player reason).2 := by
  refine ⟨congrArg Ledger.created (s.ledger_dismiss i player reason), ?_⟩
  rw [dismiss]
  split
  · rfl
  · next gone removal rest _ =>
    refine Eq.trans ?_ (s.sameNumbers_updateGame i fun _ => rest).taken
    funext j
    dsimp only
    rw [taken, games_foldl fun s other => s.games_pushAll other _]
    rfl

theorem sameNumbers_dismissSession (s : Server) (i : GameId) (session : SessionId)
    (reason : Int64) : s.SameNumbers (s.dismissSession i session reason).2 := by
  rw [dismissSession]
  split
  · exact .refl s
  · exact s.sameNumbers_dismiss i _ reason

theorem sameNumbers_releaseIfEmptied (i : GameId) {r : Removal × Server}
    (same : s.SameNumbers r.2) : s.SameNumbers (releaseIfEmptied i r).2 := by
  rw [releaseIfEmptied.eq_def]
  split
  · exact same.trans (sameNumbers_updateGame _ i _)
  · exact same

theorem sameNumbers_removePlayer (s : Server) (i : GameId) (player : PlayerId) (reason : Int64) :
    s.SameNumbers (s.removePlayer i player reason).2 := by
  rw [removePlayer]
  split
  · exact .refl s
  · exact sameNumbers_releaseIfEmptied i (s.sameNumbers_dismiss i player reason)

theorem sameNumbers_removeSession (s : Server) (session : SessionId) (reason : Int64) :
    s.SameNumbers (s.removeSession session reason).2 := by
  rw [removeSession]
  split
  · exact .refl s
  · split
    · exact sameNumbers_of_games rfl rfl
    · exact sameNumbers_releaseIfEmptied _ (s.sameNumbers_dismissSession _ session reason)

theorem sameNumbers_join (s : Server) (i : GameId) (session : SessionId) (context : JoinContext) :
    s.SameNumbers (s.join i session context).2 := by
  refine ⟨congrArg Ledger.created (s.ledger_join i session context), ?_⟩
  rcases s.join_cases i session context with same | ⟨newcomer, linked, granted, result⟩
  · rw [same]
  · obtain ⟨player, g, -, -, -, -, -, -, claimed⟩ := admission_newcomer granted
    rw [result]
    funext j
    rw [taken, games_introduce]
    exact (congrFun (linked.sameNumbers_updateGame i _).taken j).trans
      (congrArg (fun games => (games.get? j).isSome) (games_claim claimed))

theorem sameNumbers_notifyCreated (s : Server) (i : GameId) :
    s.SameNumbers (s.notifyCreated i) := by
  rw [notifyCreated]
  split <;> exact sameNumbers_of_games rfl rfl

theorem sameNumbers_broadcast (s : Server) (i : GameId) (p : Packet) (except : Option SessionId) :
    s.SameNumbers (s.broadcast i p except) :=
  sameNumbers_of_games (congrArg Ledger.created (s.ledger_broadcast i p except))
    (s.games_broadcast i p except)

theorem sameNumbers_broadcastAttributes (s : Server) (i : GameId) :
    s.SameNumbers (s.broadcastAttributes i) := by
  rw [broadcastAttributes]
  split
  · exact .refl s
  · exact (s.sameNumbers_updateGame i _).trans (sameNumbers_broadcast _ i _ none)

/-! ### Creating -/

/-- So many games have been created, and no id above their number is taken. -/
structure Numbered (s : Server) (n : Nat) : Prop where
  created : s.created.toNat = n
  taken : ∀ i, s.taken i = true → i.toNat ≤ n

/-- What a creation gives that is the `n`-th to succeed. -/
structure Hosted (s : Server) (n : Nat) (id : GameId) (t : Server) : Prop where
  number : id.toNat = n
  /-- Of the games before the active ones are registered still, as they are, and the new one comes
  after them. -/
  register : ∃ g, t.registeredGames = s.registeredGames.filter (·.2.active) ++ [(id, g)] ∧
    g.id = id ∧ g.mid.toNat = (n + 0x10000000) % UInt32.size

/-- What a creation gives that fails. -/
structure NotHosted (s : Server) (host : SessionId) (e : Error) (t : Server) : Prop where
  cause : (s.session host).player = none ∧ e = .unauthenticated host ∨
    ∃ seat, (s.session host).seat = some seat ∧ e = .alreadyInGame host seat.game
  created : t.created = s.created
  /-- Links and outboxes are as they were. -/
  sessions : t.sessions = s.sessions
  register : t.registeredGames = s.registeredGames.filter (·.2.active)

theorem SameNumbers.numbered {n : Nat} (same : s.SameNumbers t) (h : s.Numbered n) :
    t.Numbered n := by
  constructor
  · rw [same.created]
    exact h.created
  · rw [same.taken]
    exact h.taken

theorem registeredGames_evict (s : Server) :
    s.evict.registeredGames = s.registeredGames.filter (·.2.active) := by
  unfold registeredGames evict SortedMap.mapValues
  dsimp only
  induction s.games.entries with
  | nil => rfl
  | cons e es ih =>
    obtain ⟨i, g⟩ := e
    rw [List.map_cons, List.filter_cons, List.filter_cons, ih]
    cases g with
    | mk id mid registered active => cases registered <;> cases active <;> simp

theorem registeredGames_notifyCreated (s : Server) (i : GameId) :
    (s.notifyCreated i).registeredGames = s.registeredGames := by
  rw [notifyCreated]
  split <;> rfl

/-- A game with a new id comes to the end of the register. -/
theorem registeredGames_insert {id : GameId} {g : Game}
    (last : ∀ i x, s.games.get? i = some x → i < id) (registered : g.registered = true) :
    (s.games.insert id g).entries.filter (·.2.registered) = s.registeredGames ++ [(id, g)] := by
  have placed : (s.games.insert id g).entries = s.games.entries ++ [(id, g)] :=
    SortedMap.place_last fun e listed => last e.1 e.2 (s.games.get?_of_mem listed)
  rw [placed, List.filter_append, List.filter_cons_of_pos (by simpa using registered)]
  rfl

/-- The next id is the next number. -/
theorem Numbered.next {n : Nat} (h : s.Numbered n) (room : n + 1 < UInt32.size) :
    (1 + s.created).toNat = n + 1 := by
  rw [UInt32.toNat_add, h.created]
  exact (Nat.mod_eq_of_lt (by simpa [Nat.add_comm] using room)).trans (Nat.add_comm 1 n)

/-- The next id is above all ids in use. -/
theorem Numbered.below {n : Nat} (h : s.Numbered n) (room : n + 1 < UInt32.size) {i : GameId}
    (there : s.taken i = true) : i < 1 + s.created := by
  have le := h.taken i there
  rw [UInt32.lt_iff_toNat_lt, h.next room]
  omega

/-- A game with the next id is one more number. -/
theorem Numbered.insert {n : Nat} (h : s.Numbered n) (room : n + 1 < UInt32.size) (g : Game) :
    Numbered { s with games := s.games.insert (1 + s.created) g, created := s.created + 1 }
      (n + 1) := by
  constructor
  · show (s.created + 1).toNat = n + 1
    rw [UInt32.add_comm, h.next room]
  · intro i there
    have there : ((s.games.insert (1 + s.created) g).get? i).isSome = true := there
    rw [SortedMap.get?_insert] at there
    split at there
    · next same =>
      rw [← same]
      exact Nat.le_of_eq (h.next room)
    · exact Nat.le_succ_of_le (h.taken i there)

/-- A game that is created gets the next number. -/
theorem Numbered.createGame {n : Nat} (h : s.Numbered n) (room : n + 1 < UInt32.size) {id : GameId}
    (done : (s.createGame host attributes setting).1 = .ok id) :
    s.Hosted (n + 1) id (s.createGame host attributes setting).2 ∧
      (s.createGame host attributes setting).2.Numbered (n + 1) := by
  rcases s.createGame_cases host attributes setting with
    ⟨e, failed⟩ | ⟨player, linked, -, claimed, result⟩
  · rw [failed] at done
    cases done
  · rw [result] at done ⊢
    obtain rfl : 1 + s.created = id := Except.ok.inj done
    have games : linked.games = s.evict.games := games_claim claimed
    have created : linked.created = s.created := congrArg Ledger.created (ledger_claim claimed)
    have same : s.SameNumbers linked :=
      s.sameNumbers_evict.trans (sameNumbers_of_games created games)
    have last (i : GameId) (x : Game) (there : linked.games.get? i = some x) :
        i < 1 + s.created := by
      refine h.below room ?_
      rw [← same.taken, Server.taken, there]
      rfl
    refine ⟨⟨h.next room, .hosted (1 + s.created) (0x10000001 + s.created) host player attributes
      setting, ?_, rfl, ?_⟩, ?_⟩
    · have register : linked.registeredGames = s.evict.registeredGames := by
        rw [registeredGames, games]
        rfl
      rw [registeredGames_notifyCreated, ← registeredGames_evict, ← register]
      exact registeredGames_insert last rfl
    · show (0x10000001 + s.created).toNat = _
      rw [UInt32.toNat_add, h.created]
      congr 1
      show 0x10000001 + n = n + 1 + 0x10000000
      omega
    · refine (sameNumbers_notifyCreated _ _).numbered ?_
      have inserted := (same.numbered h).insert room
        (.hosted (1 + s.created) (0x10000001 + s.created) host player attributes setting)
      simp only [created] at inserted ⊢
      exact inserted

/-- A creation that fails only takes inactive games out of the register. -/
theorem notHosted_createGame {e : Error}
    (failed : (s.createGame host attributes setting).1 = .error e) :
    s.NotHosted host e (s.createGame host attributes setting).2 := by
  have same := createGame_error failed
  refine ⟨?_, by rw [same]; rfl, by rw [same]; rfl, by rw [same, registeredGames_evict]⟩
  simp only [createGame] at failed
  split at failed
  · next login =>
    cases failed
    exact .inl ⟨login, rfl⟩
  · split at failed
    · next other claimed =>
      cases failed
      obtain ⟨held, linked, rfl⟩ := held_of_claim_error claimed
      exact .inr ⟨held, linked, rfl⟩
    · cases failed

end Server

namespace Hosting

/-- What can be called: on the register of games, on a game, or on a session. -/
inductive Call where
  | createGame (host : SessionId) (attributes : Attributes) (setting : UInt16)
  | removePlayer (game : GameId) (player : PlayerId) (reason : Int64)
  | removeSession (session : SessionId) (reason : Int64)
  | release (game : GameId)
  | notifyCreated (game : GameId)
  | join (game : GameId) (session : SessionId) (context : JoinContext)
  | dismiss (game : GameId) (player : PlayerId) (reason : Int64)
  | dismissSession (game : GameId) (session : SessionId) (reason : Int64)
  | addAttributes (game : GameId) (attributes : Attributes)
  | broadcastAttributes (game : GameId)
  | setState (game : GameId) (state : UInt16)
  | setSetting (game : GameId) (setting : UInt16)
  | broadcast (game : GameId) (p : Packet) (except : Option SessionId)
  /-- A login or, without a player, a logout. -/
  | setPlayer (session : SessionId) (player : Option Player)

def apply (s : Server) : Call → Server
  | .createGame host attributes setting => (s.createGame host attributes setting).2
  | .removePlayer game player reason => (s.removePlayer game player reason).2
  | .removeSession session reason => (s.removeSession session reason).2
  | .release game => s.release game
  | .notifyCreated game => s.notifyCreated game
  | .join game session context => (s.join game session context).2
  | .dismiss game player reason => (s.dismiss game player reason).2
  | .dismissSession game session reason => (s.dismissSession game session reason).2
  | .addAttributes game attributes => s.addAttributes game attributes
  | .broadcastAttributes game => s.broadcastAttributes game
  | .setState game state => s.setState game state
  | .setSetting game setting => s.setSetting game setting
  | .broadcast game p except => s.broadcast game p except
  | .setPlayer session player => s.setPlayer session player

def run (s : Server) (calls : List Call) : Server := calls.foldl apply s

def creates (s : Server) : Call → Bool
  | .createGame host attributes setting => (s.createGame host attributes setting).1.isOk
  | _ => false

def creations (s : Server) : List Call → Nat
  | [] => 0
  | call :: calls => (creates s call).toNat + creations (apply s call) calls

open Server

variable {s : Server}

/-- **Only a creation takes an id.** -/
theorem sameNumbers_apply {call : Call} (other : creates s call = false) :
    s.SameNumbers (apply s call) := by
  cases call with
  | createGame host attributes setting =>
    rcases s.createGame_cases host attributes setting with ⟨e, failed⟩ | ⟨_, _, _, _, done⟩
    · rw [apply, failed]
      exact s.sameNumbers_evict
    · rw [creates, done] at other
      cases other
  | removePlayer game player reason => exact s.sameNumbers_removePlayer game player reason
  | removeSession session reason => exact s.sameNumbers_removeSession session reason
  | release game => exact s.sameNumbers_updateGame game _
  | notifyCreated game => exact s.sameNumbers_notifyCreated game
  | join game session context => exact s.sameNumbers_join game session context
  | dismiss game player reason => exact s.sameNumbers_dismiss game player reason
  | dismissSession game session reason => exact s.sameNumbers_dismissSession game session reason
  | addAttributes game attributes => exact s.sameNumbers_updateGame game _
  | broadcastAttributes game => exact s.sameNumbers_broadcastAttributes game
  | setState game state =>
    exact (s.sameNumbers_updateGame game _).trans (sameNumbers_broadcast _ game _ none)
  | setSetting game setting =>
    exact (s.sameNumbers_updateGame game _).trans (sameNumbers_broadcast _ game _ none)
  | broadcast game p except => exact s.sameNumbers_broadcast game p except
  | setPlayer session player => exact sameNumbers_of_games rfl rfl

/-- A call keeps the numbers in order. -/
theorem numbered_apply {n : Nat} (h : s.Numbered n) (call : Call)
    (room : n + (creates s call).toNat < UInt32.size) :
    (apply s call).Numbered (n + (creates s call).toNat) := by
  cases created : creates s call with
  | false => exact (sameNumbers_apply created).numbered h
  | true =>
    rw [created] at room
    cases call with
    | createGame host attributes setting =>
      rw [creates] at created
      cases outcome : (s.createGame host attributes setting).1 with
      | error e =>
        rw [outcome] at created
        cases created
      | ok id => exact (h.createGame room outcome).2
    | _ => cases created

/-- **The counter is the number of creations, and no id above it is taken.** -/
theorem numbered_run {n : Nat} (h : s.Numbered n) {calls : List Call}
    (room : n + creations s calls < UInt32.size) :
    (run s calls).Numbered (n + creations s calls) := by
  induction calls generalizing s n with
  | nil => exact h
  | cons call calls ih =>
    rw [creations, ← Nat.add_assoc] at room ⊢
    exact ih (numbered_apply h call (by omega)) room

theorem creations_append (s : Server) (calls later : List Call) :
    creations s (calls ++ later) = creations s calls + creations (run s calls) later := by
  induction calls generalizing s with
  | nil => exact (Nat.zero_add _).symm
  | cons call calls ih =>
    rw [List.cons_append, creations, ih, creations, Nat.add_assoc]
    rfl

/-- **A creation gets the next number, or it changes nothing but the register of inactive
games.** -/
theorem create_run (s : Server) (empty : s.games = ∅) (unused : s.created = 0) (calls : List Call)
    (host : SessionId) (attributes : Attributes) (setting : UInt16)
    (few : creations s (calls ++ [.createGame host attributes setting]) < UInt32.size) :
    let t := run s calls
    let result := t.createGame host attributes setting
    (∀ id, result.1 = .ok id → t.Hosted (creations s calls + 1) id result.2 ∧
      ∀ earlier, earlier <+: calls → (run s earlier).games.get? id = none) ∧
    ∀ e, result.1 = .error e → t.NotHosted host e result.2 := by
  intro t result
  have start : s.Numbered 0 := by
    refine ⟨by rw [unused]; rfl, fun i there => ?_⟩
    rw [taken, empty] at there
    cases there
  rw [creations_append] at few
  constructor
  · intro id done
    have counted : creations t [.createGame host attributes setting] = 1 := by
      rw [creations, creates, show (t.createGame host attributes setting).1 = _ from done]
      rfl
    rw [show creations (run s calls) _ = 1 from counted] at few
    have numbered : t.Numbered (creations s calls) := by
      have numbered := @numbered_run _ _ start calls (by omega)
      rwa [Nat.zero_add] at numbered
    obtain ⟨hosted, -⟩ := numbered.createGame few done
    refine ⟨hosted, fun earlier before => ?_⟩
    obtain ⟨later, rfl⟩ := before
    rw [creations_append] at few hosted
    have numbered := @numbered_run _ _ start earlier (by omega)
    have number := hosted.number
    cases found : (run s earlier).games.get? id with
    | none => rfl
    | some g =>
      have le := numbered.taken id (by rw [taken, found]; rfl)
      omega
  · intro e failed
    exact notHosted_createGame failed

/-- A game that was emptied behind the back of the register is put away when the next one is
created, which is not numbered like it.  A host cannot create two games, and a stranger none. -/
theorem create_run_emptied :
    let s := (start .empty).run [.connect none, .connect none, .connect none]
    let calls : List Call :=
      [.setPlayer 1 (some ⟨1, "a"⟩), .setPlayer 2 (some ⟨2, "b"⟩), .createGame 1 ∅ 0,
        .createGame 1 ∅ 0, .dismiss 1 1 leftReason, .createGame 3 ∅ 0, .createGame 1 ∅ 0]
    let t := run s calls
    let numbers (u : Server) : List GameId := u.registeredGames.map (·.1)
    s.games = ∅ ∧ s.created = 0 ∧ creations s (calls ++ [.createGame 2 ∅ 0]) = 3 ∧
      numbers (run s (calls.take 5)) = [1] ∧ numbers t = [2] ∧
      t.Hosted 3 3 (t.createGame 2 ∅ 0).2 ∧ numbers (t.createGame 2 ∅ 0).2 = [2, 3] ∧
      t.NotHosted 3 (.unauthenticated 3) (t.createGame 3 ∅ 0).2 ∧
      t.NotHosted 1 (.alreadyInGame 1 2) (t.createGame 1 ∅ 0).2 := by
  intro s calls t numbers
  have third := create_run s rfl rfl calls 2 ∅ 0 (by decide +kernel)
  have stranger := create_run s rfl rfl calls 3 ∅ 0 (by decide +kernel)
  have again := create_run s rfl rfl calls 1 ∅ 0 (by decide +kernel)
  have count : creations s calls = 2 := by decide +kernel
  rw [count] at third
  refine ⟨rfl, rfl, by decide +kernel, by decide +kernel, by decide +kernel, ?_, by decide +kernel,
    ?_, ?_⟩
  · exact (third.1 3 (by decide +kernel)).1
  · exact stranger.2 _ (by decide +kernel)
  · exact again.2 _ (by decide +kernel)

end Hosting

end Lobby
