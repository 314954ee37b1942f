import Lobby.Proofs.Server.Run
import Lobby.Proofs.Server.Stage

/-!
# Deeds

Whatever happens to a server, its stage changes in a few kinds of deeds: sessions come, go, log in
and log out; the store is changed; a notice that matters to nobody's roster is sent; a game is
changed, created, joined or left, and those who must know are told.  A deed says everything that it
does to the stage, told packets included, so every invariant of a server is checked against deeds
only.

A deed belongs to an event: attributes that it brings are those of the event.  Only a login logs a
session in, only as the player of an account in the store, and it gets nobody into a game.

A deed starts from an orderly stage, where every game is in order and no session is in two of them.
-/

namespace Lobby

namespace Event

def attributes : Event → Attributes
  | .request _ packet =>
    match packet.records with
    | .ok content => (content.attributes? Field.attr).getD ∅
    | .error _ => ∅
  | _ => ∅

def login? : Event → Option SessionId
  | .request session packet =>
    if packet.header.route = Route.login ∨ packet.header.route = Route.silentLogin then some session
    else none
  | _ => none

end Event

/-- A change of a game that its members are told of. -/
inductive Change where
  | attributes (a : Attributes)
  | state (v : UInt16)
  | setting (v : UInt16)

namespace Change

def apply : Change → Game → Game
  | attributes a, g => { g.addAttributes a with dirty := false }
  | state v, g => { g with state := v }
  | setting v, g => { g with setting := v }

def notice (i : GameId) (changed : Game) : Change → Packet
  | attributes _ => Notice.gameAttributesChanged i changed.attributes
  | state v => Notice.gameStateChanged i v
  | setting v => Notice.gameSettingsChanged i v

@[simp] theorem roster_apply (c : Change) (g : Game) : (c.apply g).roster = g.roster := by
  cases c <;> rfl

@[simp] theorem host_apply (c : Change) (g : Game) : (c.apply g).host = g.host := by
  cases c <;> rfl

end Change

/-- A notice that says nothing of the members, the attributes, the state or the setting of a
game. -/
inductive Packet.Minor : Packet → Prop
  | updated {x : Session} {p : Packet} (h : x.updated? = some p) : Minor p
  | completed (i : GameId) (player : PlayerId) : Minor (Notice.playerJoinCompleted i player)
  | failed (session : SessionId) (player : PlayerId) :
      Minor (Notice.matchmakingFailed session player)

/-- What a newcomer and the members before it are told. -/
def Server.introduction (s : Server) (i : GameId) (newcomer : Member) (context : JoinContext)
    (others : List SessionId) (id : SessionId) : List Packet :=
  match s.setup? i with
  | none => []
  | some setup =>
    if id = newcomer.session then s.welcome setup context others
    else if id ∈ others then s.arrival newcomer setup id
    else []

/-- What a setup notice of a game says, given its host and the addresses of its members. -/
def Game.setup (g : Game) (network : SessionId → Network) (host : Member) : GameSetup where
  game := g.id
  mid := g.mid
  host := ⟨host, network host.session⟩
  state := g.state
  setting := g.setting
  attributes := g.attributes
  members := g.roster.map fun m => ⟨m, network m.session⟩

theorem Server.setup?_eq {s : Server} {i : GameId} {g : Game} {host : Member}
    (found : s.games.get? i = some g) (member : g.hostMember? = some host) :
    s.setup? i = some (g.setup (fun id => (s.session id).network) host) := by
  rw [setup?, found]
  simp only [Option.bind_eq_bind, Option.bind_some, member]
  rfl

namespace Stage

/-- No game has the session as a member. -/
def Idle (g : Stage) (id : SessionId) : Prop :=
  ∀ i x, g.game i = some x → ∀ m ∈ x.roster, m.session ≠ id

/-- Every game is in order, and no session is a member of two. -/
structure Orderly (g : Stage) : Prop where
  sound : ∀ {i x}, g.game i = some x → x.lineup.Sound i
  apart : ∀ {i j x y}, g.game i = some x → g.game j = some y →
    ∀ m ∈ x.roster, ∀ o ∈ y.roster, m.session = o.session → i = j

/-- What can become of a stage in one step. -/
inductive Deed (e : Event) (g : Stage) : Stage → Prop
  | enter {id : SessionId} (idle : g.Idle id) : Deed e g (g.enter id)
  | close (id : SessionId) : Deed e g (g.close id)
  | restock {store : Store} (event : e = .restock store) : Deed e g { g with store }
  | save (settings : SortedMap PlayerId Attributes) :
      Deed e g { g with store := { g.store with settings } }
  | logIn {id : SessionId} {a : Account} (account : a ∈ g.store.accounts.values)
      (asked : e.login? = some id) : Deed e g (g.setPlayer id (some a.player))
  | logOut {id : SessionId} (idle : g.Idle id) : Deed e g (g.setPlayer id none)
  | tell {told : SessionId → List Packet} (minor : ∀ id, ∀ p ∈ told id, p.Minor) :
      Deed e g (g.tell told)
  | change {i : GameId} {x : Game} (found : g.game i = some x) (c : Change)
      (brought : ∀ a, c = .attributes a → a = e.attributes) :
      Deed e g ((g.setGame i (c.apply x)).tell fun id =>
        if id ∈ x.sessions then [c.notice i (c.apply x)] else [])
  | host {i : GameId} {mid : UInt32} {m : Member} {setting : UInt16} (other : e.login? = none)
      (free : g.game i = none) (idle : g.Idle m.session)
      (player : g.player m.session = some m.player) (slot : m.slot = 0)
      (network : SessionId → Network) :
      Deed e g ((g.setGame i (.hosted i mid m.session m.player e.attributes setting)).tell fun id =>
        if id = m.session then
          [Notice.gameSetup
            ((Game.hosted i mid m.session m.player e.attributes setting).setup network m) .created]
        else [])
  | join {i : GameId} {x : Game} {m : Member} {t : Server} (other : e.login? = none)
      (found : g.game i = some x) (active : x.active = true) (room : x.count < gameCapacity)
      (new : x.memberOf? m.player.id = none) (idle : g.Idle m.session)
      (player : g.player m.session = some m.player) (slot : m.slot = x.nextSlot)
      (game : t.games.get? i = some (x.seat m)) (players : t.stage.player = g.player)
      (seat : (t.session m.session).seat = some ⟨i, m.slot⟩) (context : JoinContext) :
      Deed e g ((g.setGame i (x.seat m)).tell (t.introduction i m context x.sessions))
  | leave {i : GameId} {x rest : Game} {m : Member} {removal : Removal} (found : g.game i = some x)
      (member : m ∈ x.roster) (removed : x.remove? m.player.id = some (m, removal, rest))
      (registered : Bool) (reason : Int64) {updates : List Packet}
      (minor : ∀ p ∈ updates, p.Minor) :
      Deed e g ((g.setGame i { rest with registered }).tell fun id =>
        (if id = m.session then [Notice.playerRemoved i m.player.id reason] else []) ++
          if id ∈ rest.sessions then Notice.playerRemoved i m.player.id reason :: updates else [])

/-- What can become of a stage in several steps, each of which starts from an orderly one. -/
abbrev Deeds (e : Event) : Stage → Stage → Prop :=
  Relation.ReflTransGen fun g h => g.Orderly ∧ Deed e g h

/-- What every deed keeps, deeds keep. -/
theorem Deeds.keep {e : Event} {P : Stage → Prop}
    (step : ∀ {g h : Stage}, g.Orderly → P g → Deed e g h → P h) {g h : Stage} (steps : Deeds e g h)
    (start : P g) : P h := by
  induction steps with
  | refl => exact start
  | tail _ deed ih => exact step deed.1 ih deed.2

end Stage

namespace Server

open Stage

variable {s : Server} {e : Event}

/-- **The stage of a coherent seating is orderly.** -/
theorem orderly_stage (h : s.seating.Coherent) : s.stage.Orderly where
  sound found := h.lineup (s.lineup_seating found)
  apart := by
    intro i j x y found found' m hm o ho same
    have first := h.seat (s.lineup_seating found) m hm
    have second := h.seat (s.lineup_seating found') o ho
    rw [same, second] at first
    exact (congrArg Seat.game (Option.some.inj first)).symm

theorem idle_stage (h : s.seating.Coherent) {id : SessionId} (free : s.seating.seat id = none) :
    s.stage.Idle id :=
  fun _ _ found => h.not_member free (s.lineup_seating found)

theorem Deeds.single (h : s.seating.Coherent) {g : Stage} (deed : Deed e s.stage g) :
    Deeds e s.stage g :=
  .single ⟨orderly_stage h, deed⟩

/-! ### Notices -/

theorem stage_introduce (s : Server) (i : GameId) {newcomer : Member} (context : JoinContext)
    {others : List SessionId} (distinct : others.Nodup) (new : newcomer.session ∉ others) :
    (s.introduce i newcomer context others).stage =
      s.stage.tell (s.introduction i newcomer context others) := by
  rw [introduce]
  split
  · next missing =>
    have silent : s.introduction i newcomer context others = fun _ => [] := by
      funext id
      rw [introduction, missing]
    rw [silent, tell_nil]
  · next setup found =>
    rw [stage_pushAll, stage_foldl_pushAll _ distinct, tell_tell]
    congr 1
    funext id
    rw [introduction, found]
    by_cases e : id = newcomer.session
    · subst e
      simp [new]
    · simp [e]

/-- A notice that matters to nobody's roster. -/
theorem deeds_push (h : s.seating.Coherent) (id : SessionId) {p : Packet} (minor : p.Minor) :
    Deeds e s.stage (s.push id p).stage := by
  rw [stage_push]
  refine Deeds.single h (.tell fun other q hq => ?_)
  split at hq
  · rwa [List.mem_singleton.1 hq]
  · cases hq

theorem deeds_broadcast (h : s.seating.Coherent) (i : GameId) {p : Packet} (minor : p.Minor) :
    Deeds e s.stage (s.broadcast i p none).stage := by
  cases found : s.games.get? i with
  | none =>
    rw [stage_broadcast_none found]
  | some x =>
    rw [stage_broadcast found ((orderly_stage h).sound found).sessions]
    refine Deeds.single h (.tell fun other q hq => ?_)
    split at hq
    · rwa [List.mem_singleton.1 hq]
    · cases hq

/-! ### Changes of a game -/

/-- A change of a game, followed by its notice. -/
theorem deeds_change (h : s.seating.Coherent) (i : GameId) (c : Change)
    (brought : ∀ a, c = .attributes a → a = e.attributes) {t : Server}
    (missing : s.games.get? i = none → t = s)
    (changed : ∀ x, s.games.get? i = some x →
      t = (s.updateGame i c.apply).broadcast i (c.notice i (c.apply x)) none) :
    Deeds e s.stage t.stage := by
  cases found : s.games.get? i with
  | none =>
    rw [missing found]
  | some x =>
    have sound := (orderly_stage h).sound found
    have now : (s.updateGame i c.apply).games.get? i = some (c.apply x) := by
      show (s.games.modify i c.apply).get? i = _
      rw [SortedMap.get?_modify, if_pos rfl, found, Option.map_some]
    have sessions : (c.apply x).sessions = x.sessions := by
      rw [Game.sessions, Change.roster_apply, Game.sessions]
    have distinct : (c.apply x).sessions.Nodup := sessions ▸ sound.sessions
    rw [changed x found, stage_broadcast now distinct, stage_updateGame found, sessions]
    exact Deeds.single h (.change found c brought)

theorem updateGame_updateGame (s : Server) (i : GameId) (f f' : Game → Game) :
    (s.updateGame i f).updateGame i f' = s.updateGame i (f' ∘ f) := by
  have same : (s.games.modify i f).modify i f' = s.games.modify i (f' ∘ f) := by
    simp only [SortedMap.modify, SortedMap.mapValues, List.map_map, SortedMap.mk.injEq]
    refine List.map_congr_left fun e _ => ?_
    by_cases here : e.1 = i <;> simp [here]
  show { s with games := (s.games.modify i f).modify i f' } = _
  rw [same, updateGame]

theorem updateGame_missing {i : GameId} (missing : s.games.get? i = none) (f : Game → Game) :
    s.updateGame i f = s := by
  have same : s.games.modify i f = s.games := by
    have entries : ∀ es : List (GameId × Game), SortedMap.find? i es = none →
        es.map (fun e => (e.1, if e.1 = i then f e.2 else e.2)) = es := by
      intro es absent
      induction es with
      | nil => rfl
      | cons e es ih =>
        rw [SortedMap.find?] at absent
        split at absent
        · cases absent
        · next ne => rw [List.map_cons, ih absent, if_neg ne]
    show SortedMap.mk _ _ = s.games
    cases games : s.games with
    | mk es sorted =>
      rw [games] at missing
      simp only [SortedMap.mk.injEq]
      exact entries es missing
  rw [updateGame, same]

end Server

end Lobby
