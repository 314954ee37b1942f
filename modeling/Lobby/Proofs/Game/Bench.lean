import Lobby.Proofs.Game.Roster
import Lobby.Proofs.Server.Joining

/-!
# Games on a bench

A bench has sessions and any games that were opened for them, under any ids: several games may share
one, and none is ever put away.  A call concerns one of the games, which stands alone in the server
for it, or logs a session in or out.  `Call.Turn` says what one call makes of each game.

**Whatever is called in whatever order, every game stays tidy** (`Bench.tidy_run`).
-/

namespace Lobby

/-- Links a logged-in session to a new game, as its host. -/
def Server.openGame (s : Server) (id : GameId) (mid : UInt32) (host : SessionId)
    (attributes : Attributes) (setting : UInt16) : Except Error (Game × Server) :=
  match (s.session host).player with
  | none => .error (.unauthenticated host)
  | some player =>
    match s.claim host ⟨id, 0⟩ with
    | .error other => .error (.alreadyInGame host other)
    | .ok s => .ok (.hosted id mid host player attributes setting, s)

theorem Server.claim_of_openGame {s t : Server} {id : GameId} {mid : UInt32} {host : SessionId}
    {attributes : Attributes} {setting : UInt16} {game : Game}
    (opened : s.openGame id mid host attributes setting = .ok (game, t)) :
    ∃ player, (s.session host).player = some player ∧ s.claim host ⟨id, 0⟩ = .ok t ∧
      game = .hosted id mid host player attributes setting := by
  rw [openGame] at opened
  split at opened
  · cases opened
  · next player login =>
    split at opened
    · cases opened
    · next claimed =>
      cases opened
      exact ⟨player, login, claimed, rfl⟩

/-- A server creates a game by opening it under the next id, and registers it. -/
theorem Server.createGame_eq (s : Server) (host : SessionId) (attributes : Attributes)
    (setting : UInt16) : s.createGame host attributes setting =
      match s.evict.openGame (1 + s.created) (0x10000001 + s.created) host attributes setting with
      | .error e => (.error e, s.evict)
      | .ok (game, t) => (.ok (1 + s.created),
          Server.notifyCreated
            { t with games := t.games.insert (1 + s.created) game, created := t.created + 1 }
            (1 + s.created)) := by
  have created : s.evict.created = s.created := rfl
  simp only [createGame, openGame, created]
  cases (s.evict.session host).player with
  | none => rfl
  | some player =>
    dsimp only
    cases s.evict.claim host ⟨1 + s.created, 0⟩ <;> rfl

/-- What can be called, on the game in some place of the bench or on a session. -/
inductive Call where
  | openGame (id : GameId) (mid : UInt32) (host : SessionId) (attributes : Attributes)
      (setting : UInt16)
  | join (k : Nat) (session : SessionId) (context : JoinContext)
  | removePlayer (k : Nat) (player : PlayerId) (reason : Int64)
  | removeSession (k : Nat) (session : SessionId) (reason : Int64)
  | addAttributes (k : Nat) (attributes : Attributes)
  | broadcastAttributes (k : Nat)
  | setState (k : Nat) (state : UInt16)
  | setSetting (k : Nat) (setting : UInt16)
  /-- A login or, without a player, a logout. -/
  | setPlayer (session : SessionId) (player : Option Player)

/-- A server with its sessions, and every game that was opened, the oldest first. -/
structure Bench where
  server : Server
  games : List Game

namespace Bench

def start (server : Server) : Bench := ⟨server, []⟩

/-- Does something to one game, which is alone in the server meanwhile. -/
def on (b : Bench) (k : Nat) (f : GameId → Server → Server) : Bench :=
  match b.games[k]? with
  | none => b
  | some g =>
    let s := f g.id { b.server with games := SortedMap.insert ∅ g.id g }
    ⟨s, b.games.set k ((s.games.get? g.id).getD g)⟩

def step (b : Bench) : Call → Bench
  | .openGame id mid host attributes setting =>
    match b.server.openGame id mid host attributes setting with
    | .error _ => b
    | .ok (game, s) => ⟨s, b.games ++ [game]⟩
  | .join k session context => b.on k fun i s => (s.join i session context).2
  | .removePlayer k player reason => b.on k fun i s => (s.dismiss i player reason).2
  | .removeSession k session reason => b.on k fun i s => (s.dismissSession i session reason).2
  | .addAttributes k attributes => b.on k fun i s => s.addAttributes i attributes
  | .broadcastAttributes k => b.on k fun i s => s.broadcastAttributes i
  | .setState k state => b.on k fun i s => s.setState i state
  | .setSetting k setting => b.on k fun i s => s.setSetting i setting
  | .setPlayer session player => { b with server := b.server.setPlayer session player }

def run (b : Bench) (calls : List Call) : Bench := calls.foldl step b

end Bench

/-! ### What a call makes of a game -/

/-- What becomes of what is in a place of the bench. -/
inductive Call.Turn (call : Call) (k : Nat) : Option Game → Option Game → Prop
  | missing : Turn call k none none
  | opened {id : GameId} {mid : UInt32} {host : SessionId} {player : Player}
      {attributes : Attributes} {setting : UInt16} :
      Turn call k none (some (.hosted id mid host player attributes setting))
  | kept {g x : Game} (roster : x.roster = g.roster) (host : x.host = g.host)
      (active : x.active = g.active) : Turn call k (some g) (some x)
  | joined {g : Game} {m : Member} (context : JoinContext)
      (called : call = .join k m.session context) (active : g.active = true)
      (room : g.count < gameCapacity) (new : g.memberOf? m.player.id = none)
      (slot : m.slot = g.nextSlot) : Turn call k (some g) (some (g.seat m))
  | left {g rest : Game} {m : Member} {player : PlayerId} {removal : Removal}
      (removed : g.remove? player = some (m, removal, rest)) : Turn call k (some g) (some rest)

theorem Call.Turn.refl {call : Call} {k : Nat} (g : Option Game) : Turn call k g g := by
  cases g with
  | none => exact .missing
  | some g => exact .kept rfl rfl rfl

namespace Server

variable {s : Server} {i : GameId} {g : Game} {call : Call} {k : Nat}

/-- A change of a game that concerns nobody's membership. -/
theorem turn_updateGame (found : s.games.get? i = some g) {f : Game → Game}
    (roster : (f g).roster = g.roster) (host : (f g).host = g.host)
    (active : (f g).active = g.active) :
    call.Turn k (some g) ((s.updateGame i f).games.get? i) := by
  rw [get?_updateGame found]
  exact .kept roster host active

theorem turn_join (found : s.games.get? i = some g) {session : SessionId} {context : JoinContext} :
    (Call.join k session context).Turn k (some g)
      ((s.join i session context).2.games.get? i) := by
  rcases s.join_cases i session context with same | ⟨newcomer, linked, granted, result⟩
  · rw [same, found]
    exact .refl _
  · obtain ⟨player, x, -, known, active, absent, room, rfl, claimed⟩ := admission_newcomer granted
    obtain rfl : g = x := Option.some.inj (found.symm.trans known)
    have linked : linked.games.get? i = some g := by rw [games_claim claimed, found]
    rw [result, games_introduce, get?_updateGame linked]
    exact .joined context rfl active room absent rfl

theorem turn_dismiss (found : s.games.get? i = some g) {player : PlayerId} {reason : Int64} :
    call.Turn k (some g) ((s.dismiss i player reason).2.games.get? i) := by
  rw [dismiss, found, Option.bind_some]
  cases removed : g.remove? player with
  | none =>
    dsimp only
    rw [found]
    exact .refl _
  | some result =>
    obtain ⟨gone, removal, rest⟩ := result
    dsimp only
    rw [games_foldl fun s other => s.games_pushAll other _]
    have now : ((s.updateGame i fun _ => rest).unlink gone.session i).games.get? i = some rest :=
      get?_updateGame found fun _ => rest
    rw [games_push, now]
    exact .left removed

theorem turn_dismissSession (found : s.games.get? i = some g) {session : SessionId}
    {reason : Int64} :
    call.Turn k (some g) ((s.dismissSession i session reason).2.games.get? i) := by
  rw [dismissSession, found, Option.bind_some]
  cases g.memberAt? session with
  | none =>
    dsimp only
    rw [found]
    exact .refl _
  | some m => exact turn_dismiss found

end Server

namespace Bench

variable {b : Bench} {call : Call}

/-- What is done to the game in one place leaves the other places alone. -/
theorem turn_on (b : Bench) (j k : Nat) {f : GameId → Server → Server}
    (turn : ∀ {g s}, s.games.get? g.id = some g →
      call.Turn j (some g) ((f g.id s).games.get? g.id)) :
    call.Turn k b.games[k]? (b.on j f).games[k]? := by
  rw [on]
  cases found : b.games[j]? with
  | none => exact .refl _
  | some g =>
    have inside : j < b.games.length := (List.getElem?_eq_some_iff.1 found).1
    have alone : (SortedMap.insert ∅ g.id g).get? g.id = some g := by
      rw [SortedMap.get?_insert, if_pos rfl]
    have result := turn (s := { b.server with games := SortedMap.insert ∅ g.id g }) alone
    dsimp only
    rw [List.getElem?_set]
    by_cases same : j = k
    · subst same
      rw [if_pos rfl, if_pos inside, found]
      cases now : (f g.id { b.server with games := SortedMap.insert ∅ g.id g }).games.get? g.id with
      | none =>
        rw [now] at result
        cases result
      | some x =>
        rw [now] at result
        exact result
    · rw [if_neg same]
      exact .refl _

/-- **What one call makes of every game.** -/
theorem turn_step (b : Bench) (call : Call) (k : Nat) :
    call.Turn k b.games[k]? (b.step call).games[k]? := by
  cases call with
  | openGame id mid host attributes setting =>
    rw [step]
    split
    · exact .refl _
    · next game s opened =>
      obtain ⟨player, -, -, rfl⟩ := Server.claim_of_openGame opened
      rcases Nat.lt_trichotomy k b.games.length with inside | rfl | outside
      · rw [List.getElem?_append_left inside]
        exact .refl _
      · rw [List.getElem?_concat_length, List.getElem?_eq_none (Nat.le_refl _)]
        exact .opened
      · have beyond :
            (b.games ++ [Game.hosted id mid host player attributes setting]).length ≤ k := by
          rw [List.length_append]
          exact outside
        rw [List.getElem?_eq_none (Nat.le_of_lt outside), List.getElem?_eq_none beyond]
        exact .missing
  | join j session context => exact b.turn_on j k fun found => Server.turn_join found
  | removePlayer j player reason => exact b.turn_on j k fun found => Server.turn_dismiss found
  | removeSession j session reason =>
    exact b.turn_on j k fun found => Server.turn_dismissSession found
  | addAttributes j attributes =>
    exact b.turn_on j k fun found => Server.turn_updateGame found rfl rfl rfl
  | broadcastAttributes j =>
    refine b.turn_on j k fun {g s} found => ?_
    rw [Server.broadcastAttributes, found]
    dsimp only
    rw [Server.games_broadcast]
    exact Server.turn_updateGame found rfl rfl rfl
  | setState j state =>
    refine b.turn_on j k fun found => ?_
    rw [Server.setState, Server.games_broadcast]
    exact Server.turn_updateGame found rfl rfl rfl
  | setSetting j setting =>
    refine b.turn_on j k fun found => ?_
    rw [Server.setSetting, Server.games_broadcast]
    exact Server.turn_updateGame found rfl rfl rfl
  | setPlayer session player => exact .refl _

/-- Games are never put away. -/
theorem exists_game_step (call : Call) {k : Nat} {g : Game} (found : b.games[k]? = some g) :
    ∃ x, (b.step call).games[k]? = some x ∧ call.Turn k (some g) (some x) := by
  have turn := b.turn_step call k
  rw [found] at turn
  generalize (b.step call).games[k]? = after at turn ⊢
  cases after with
  | none => cases turn
  | some x => exact ⟨x, rfl, turn⟩

/-! ### What every call keeps -/

def Tidy (b : Bench) : Prop := ∀ (k : Nat) (g : Game), b.games[k]? = some g → g.Tidy

theorem Tidy.step (h : b.Tidy) (call : Call) : (b.step call).Tidy := by
  intro k x now
  have turn := b.turn_step call k
  rw [now] at turn
  generalize before : b.games[k]? = start at turn
  cases turn with
  | opened => exact Game.tidy_hosted ..
  | kept roster host active => exact (h _ _ before).congr roster host active
  | joined _ _ active room new slot =>
    exact (h _ _ before).seat active room new (slot ▸ Game.lowestFree_nextSlot room)
  | left removed => exact (h _ _ before).remove? removed

theorem Tidy.run (h : b.Tidy) (calls : List Call) : (b.run calls).Tidy := by
  induction calls generalizing b with
  | nil => exact h
  | cons call calls ih => exact ih (h.step call)

/-- A game without members stays so. -/
theorem inactive_step (call : Call) {k : Nat} {g : Game} (found : b.games[k]? = some g)
    (inactive : g.active = false) (empty : g.roster = []) :
    ∃ x, (b.step call).games[k]? = some x ∧ x.active = false ∧ x.roster = [] := by
  obtain ⟨x, now, turn⟩ := exists_game_step call found
  refine ⟨x, now, ?_⟩
  cases turn with
  | kept roster _ active => exact ⟨active.trans inactive, roster.trans empty⟩
  | joined _ _ active =>
    rw [inactive] at active
    cases active
  | left removed =>
    have member := List.mem_of_find?_eq_some (Game.remove?_cases removed).1
    rw [empty] at member
    cases member

theorem inactive_run {k : Nat} {g : Game} (found : b.games[k]? = some g)
    (inactive : g.active = false) (empty : g.roster = []) (calls : List Call) :
    ∃ x, (b.run calls).games[k]? = some x ∧ x.active = false ∧ x.roster = [] := by
  induction calls generalizing b g with
  | nil => exact ⟨g, found, inactive, empty⟩
  | cons call calls ih =>
    obtain ⟨x, now, inactive, empty⟩ := inactive_step call found inactive empty
    exact ih now inactive empty

/-- **Whatever is called in whatever order, every game stays tidy**, and a game that is inactive
stays so without members.  Whoever joins gets the lowest free slot; if the host's entry goes while
others stay, the one in the lowest slot becomes the host, and otherwise the host stays the same. -/
theorem tidy_run (server : Server) (calls : List Call) :
    let b := (start server).run calls
    ∀ k g, b.games[k]? = some g → g.Tidy ∧
      (g.active = false → ∀ more, ∃ x, (b.run more).games[k]? = some x ∧
        x.active = false ∧ x.roster = []) ∧
      ∀ call, ∃ x, (b.step call).games[k]? = some x ∧
        (∀ m ∈ x.roster, m ∉ g.roster → (∃ context, call = .join k m.session context) ∧
          g.LowestFree m.slot ∧ x.host = g.host ∧ x.roster.Perm (m :: g.roster)) ∧
        (∀ m ∈ g.roster, m ∉ x.roster → (∀ o, o ∈ x.roster ↔ o ∈ g.roster ∧ o ≠ m) ∧
          (m.session = g.host → x.roster ≠ [] → ∃ first ∈ x.roster, x.host = first.session ∧
            ∀ o ∈ x.roster, first.slot ≤ o.slot) ∧
          (m.session ≠ g.host → x.host = g.host)) ∧
        (x.roster = g.roster → x.host = g.host) := by
  intro b k g found
  have tidy : g.Tidy := (show (start server).Tidy from nofun).run calls k g found
  refine ⟨tidy, fun inactive more => ?_, fun call => ?_⟩
  · have empty : g.roster = [] := by
      refine Decidable.byContradiction fun members => ?_
      rw [tidy.active.2 members] at inactive
      cases inactive
    exact inactive_run found inactive empty more
  · obtain ⟨x, now, turn⟩ := exists_game_step call found
    refine ⟨x, now, ?_⟩
    cases turn with
    | kept roster host =>
      rw [roster]
      exact ⟨fun m hm new => absurd hm new, fun m hm gone => absurd hm gone, fun _ => host⟩
    | @joined _ m context called active room new slot =>
      have perm : (g.seat m).roster.Perm (m :: g.roster) := Lineup.seatIn_perm m g.roster
      refine ⟨fun o ho new => ?_, fun o ho gone => ?_, fun _ => rfl⟩
      · rcases List.mem_cons.1 (perm.mem_iff.1 ho) with rfl | old
        · exact ⟨⟨context, called⟩, slot ▸ Game.lowestFree_nextSlot room, rfl, perm⟩
        · exact absurd old new
      · exact absurd (perm.mem_iff.2 (List.mem_cons_of_mem _ ho)) gone
    | @left _ _ m player removal removed =>
      have kept := Game.mem_remove? tidy removed
      refine ⟨fun o ho new => absurd ((kept o).1 ho).1 new, fun o ho gone => ?_, fun same => ?_⟩
      · obtain rfl : o = m := Decidable.byContradiction fun ne => gone ((kept o).2 ⟨ho, ne⟩)
        exact ⟨kept, Game.host_of_remove? tidy removed, Game.host_eq_of_remove? removed⟩
      · have member : m ∈ g.roster :=
          List.mem_of_find?_eq_some (Game.remove?_cases removed).1
        exact absurd rfl ((kept m).1 (same ▸ member)).2

/-- The host goes and leaves its game to the session that took the slot of one who went before;
then everybody goes, and nobody gets in again. -/
theorem tidy_run_abandoned :
    let player (id : PlayerId) : Player := ⟨id, "name"⟩
    let server : Server :=
      { Server.start ⟨∅, ∅, ∅, 3, true⟩ with
        sessions := .ofList [(1, .connected none), (2, .connected none), (3, .connected none)] }
    let before : List Call :=
      [.setPlayer 1 (some (player 10)), .setPlayer 2 (some (player 20)),
        .setPlayer 3 (some (player 30)), .openGame 7 0 1 ∅ 0, .join 0 2 .matchmaking,
        .join 0 3 .created, .setState 0 5, .removePlayer 0 20 0, .setPlayer 2 none,
        .setPlayer 2 (some (player 21)), .join 0 2 .matchmaking, .removeSession 0 1 0]
    let after : List Call := [.removeSession 0 3 0, .removePlayer 0 21 0]
    let b := (start server).run before
    let c := b.run after
    (∃ g, b.games[0]? = some g ∧ g.Tidy ∧ g.host = 2 ∧
      g.roster.map (fun m => (m.session, m.slot)) = [(2, 1), (3, 2)]) ∧
      ∃ g, c.games[0]? = some g ∧ g.Tidy ∧
        ∃ x, (c.run [.join 0 1 .created]).games[0]? = some x ∧
          x.active = false ∧ x.roster = [] := by
  intro player server before after b c
  have seen : b.games[0]?.map (fun g => (g.host, g.roster.map fun m => (m.session, m.slot))) =
      some (2, [(2, 1), (3, 2)]) := by decide +kernel
  have gone : c.games[0]?.map (·.active) = some false := by decide +kernel
  obtain ⟨g, found, same⟩ := Option.map_eq_some_iff.1 seen
  obtain ⟨host, roster⟩ := Prod.mk.inj same
  obtain ⟨x, left, inactive⟩ := Option.map_eq_some_iff.1 gone
  have whole : c = (start server).run (before ++ after) := (List.foldl_append ..).symm
  have tidy := tidy_run server (before ++ after) 0 x (whole ▸ left)
  rw [← whole] at tidy
  exact ⟨⟨g, found, (tidy_run server before 0 g found).1, host, roster⟩,
    x, left, tidy.1, tidy.2.1 inactive [.join 0 1 .created]⟩

end Bench

end Lobby
