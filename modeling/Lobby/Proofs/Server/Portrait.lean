import Lobby.Proofs.Game.Addresses
import Lobby.Proofs.Server.Conduct
import Lobby.Proofs.Server.Profile

/-!
# Notices are drawn from profiles

Whatever a change sends to sessions, the notices among it that show addresses are made of the
profiles that sessions have at that moment (`Packet.Drawn`).  `s.Tells profiles t` says so of all
that a change has put into the outboxes.  Joining and leaving games and waiting for them also leave
the profiles alone, in whatever state a server is, so what such a change sends after one of its
steps is drawn from the same profiles as what it sends before: `s.Recounts t` holds of each.
-/

namespace Lobby

def Route.showing : List Route :=
  [Route.userAdded, Route.userUpdated, Route.playerJoining, Route.gameSetup]

namespace Packet

def IsShowing (p : Packet) : Prop := ∃ route ∈ Route.showing, p.header = .notification route

/-- A notice that shows addresses was made from what sessions look like with these profiles. -/
def Drawn (profiles : SessionId → Profile) (p : Packet) : Prop :=
  p.IsShowing → ∃ look : SessionId → Session, (∀ id, (look id).profile = profiles id) ∧
    ∃ id place, p.Shows look id place

variable {profiles : SessionId → Profile} {p : Packet}

theorem drawn_notification {route : Route} (other : route ∉ Route.showing) (rs : Content) :
    (notification route rs).Drawn profiles := by
  rintro ⟨shown, listed, same⟩
  have route : route = shown := congrArg Header.route same
  exact absurd (route ▸ listed) other

theorem drawn_of_kind (kind : p.header.kind ≠ .unique) : p.Drawn profiles := by
  rintro ⟨route, -, same⟩
  rw [same] at kind
  exact absurd rfl kind

/-- What shows the sessions of a server is drawn from their profiles. -/
theorem Shows.drawn {s : Server} {id : SessionId} {place : Place} (h : p.Shows s.session id place) :
    p.Drawn s.profile :=
  fun _ => ⟨s.session, fun _ => rfl, id, place, h⟩

end Packet

open Packet

namespace Server

variable {s t u : Server} {profiles : SessionId → Profile}

/-- What a change has put into the outboxes is drawn from the profiles, and nothing is taken out. -/
def Tells (s : Server) (profiles : SessionId → Profile) (t : Server) : Prop :=
  ∀ id, ∃ new, (t.session id).heard = (s.session id).heard ++ new ∧
    ∀ p ∈ new, p.Drawn profiles

theorem Tells.refl (s : Server) : s.Tells profiles s :=
  fun _ => ⟨[], (List.append_nil _).symm, List.forall_mem_nil _⟩

theorem Tells.trans (first : s.Tells profiles t) (second : t.Tells profiles u) :
    s.Tells profiles u := by
  intro id
  obtain ⟨old, heard, drawn⟩ := first id
  obtain ⟨new, later, drawn'⟩ := second id
  refine ⟨old ++ new, by rw [later, heard, List.append_assoc], fun p hp => ?_⟩
  rcases List.mem_append.1 hp with hp | hp
  · exact drawn p hp
  · exact drawn' p hp

theorem tells_of_stage (same : t.stage = s.stage) : s.Tells profiles t := by
  intro id
  have heard : (t.session id).heard = (s.session id).heard :=
    congrFun (congrArg Stage.heard same) id
  exact ⟨[], by rw [heard, List.append_nil], List.forall_mem_nil _⟩

theorem tells_of_sessions (same : t.sessions = s.sessions) : s.Tells profiles t := by
  intro id
  refine ⟨[], ?_, List.forall_mem_nil _⟩
  rw [session, session, same, List.append_nil]

/-! ### Packets for sessions -/

theorem tells_of_tell {told : SessionId → List Packet} (stage : t.stage = s.stage.tell told)
    (drawn : ∀ id, ∀ p ∈ told id, p.Drawn profiles) : s.Tells profiles t := by
  intro id
  have heard : (t.session id).heard =
      if s.stage.listening id then (s.session id).heard ++ told id else (s.session id).heard :=
    congrFun (congrArg Stage.heard stage) id
  cases listening : s.stage.listening id with
  | true => exact ⟨told id, by rw [heard, listening, if_pos rfl], drawn id⟩
  | false =>
    refine ⟨[], ?_, List.forall_mem_nil _⟩
    rw [heard, listening, List.append_nil]
    rfl

theorem tells_pushAll (s : Server) (id : SessionId) {ps : List Packet}
    (drawn : ∀ p ∈ ps, p.Drawn profiles) : s.Tells profiles (s.pushAll id ps) := by
  refine tells_of_tell (s.stage_pushAll id ps) fun other p hp => ?_
  split at hp
  · exact drawn p hp
  · cases hp

theorem tells_push (s : Server) (id : SessionId) {p : Packet} (drawn : p.Drawn profiles) :
    s.Tells profiles (s.push id p) := by
  refine tells_of_tell (s.stage_push id p) fun other q hq => ?_
  split at hq
  · exact List.mem_singleton.1 hq ▸ drawn
  · cases hq

/-- Doing something for several sessions tells what doing it for each tells. -/
theorem tells_foldl {f : Server → SessionId → Server}
    (one : ∀ (s : Server) (id : SessionId), s.Tells profiles (f s id)) (s : Server)
    (ids : List SessionId) : s.Tells profiles (ids.foldl f s) := by
  induction ids generalizing s with
  | nil => exact .refl s
  | cons id ids ih => exact (one s id).trans (ih (f s id))

/-! ### Changes that leave the profiles alone -/

/-- A change that leaves the profiles alone, and what it tells is drawn from them. -/
structure Recounts (s t : Server) : Prop where
  profile : t.profile = s.profile
  tells : s.Tells s.profile t

theorem Recounts.refl (s : Server) : s.Recounts s := ⟨rfl, .refl s⟩

/-- What is told after a change that keeps the profiles is drawn from those before it. -/
theorem Recounts.trans (first : s.Recounts t) (second : t.Recounts u) : s.Recounts u :=
  ⟨second.profile.trans first.profile, first.tells.trans (first.profile ▸ second.tells)⟩

theorem Recounts.count (h : s.Recounts t) (f : Metrics → Metrics) : s.Recounts (t.count f) :=
  ⟨h.profile, h.tells⟩

theorem recounts_of_sessions (same : t.sessions = s.sessions) : s.Recounts t := by
  refine ⟨?_, tells_of_sessions same⟩
  funext id
  rw [profile, profile, session, session, same]

theorem recounts_push (s : Server) (id : SessionId) {p : Packet} (drawn : p.Drawn s.profile) :
    s.Recounts (s.push id p) :=
  ⟨s.profile_push id p, s.tells_push id drawn⟩

theorem recounts_claim {id : SessionId} {seat : Seat} (claimed : s.claim id seat = .ok t) :
    s.Recounts t :=
  ⟨profile_claim claimed, tells_of_stage (stage_claim claimed)⟩

theorem recounts_unlink (s : Server) (id : SessionId) (i : GameId) : s.Recounts (s.unlink id i) :=
  ⟨s.profile_unlink id i, tells_of_stage (s.stage_unlink id i)⟩

/-! ### Games -/

theorem recounts_broadcast (s : Server) (i : GameId) {p : Packet} (drawn : p.Drawn s.profile) :
    s.Recounts (s.broadcast i p none) := by
  refine ⟨s.profile_broadcast i p none, ?_⟩
  rw [broadcast]
  split
  · exact .refl s
  · exact tells_foldl (fun s id => s.tells_push id drawn) s _

theorem recounts_updateGame (s : Server) (i : GameId) (f : Game → Game) :
    s.Recounts (s.updateGame i f) :=
  recounts_of_sessions rfl

theorem recounts_broadcastAttributes (s : Server) (i : GameId) :
    s.Recounts (s.broadcastAttributes i) := by
  rw [broadcastAttributes]
  split
  · exact .refl s
  · exact (s.recounts_updateGame i _).trans
      (recounts_broadcast _ i (drawn_notification (by decide) _))

theorem recounts_setState (s : Server) (i : GameId) (state : UInt16) :
    s.Recounts (s.setState i state) :=
  (s.recounts_updateGame i _).trans (recounts_broadcast _ i (drawn_notification (by decide) _))

theorem recounts_setSetting (s : Server) (i : GameId) (setting : UInt16) :
    s.Recounts (s.setSetting i setting) :=
  (s.recounts_updateGame i _).trans (recounts_broadcast _ i (drawn_notification (by decide) _))

/-- A setup is that of a game whose host is a member, with the addresses of the sessions. -/
theorem setup?_eq_some {i : GameId} {setup : GameSetup} (h : s.setup? i = some setup) :
    ∃ (g : Game) (host : Member), setup = g.setup (fun id => (s.session id).network) host := by
  cases found : s.games.get? i with
  | none => simp [setup?, found] at h
  | some g =>
    cases member : g.hostMember? with
    | none => simp [setup?, found, member] at h
    | some host =>
      rw [setup?_eq found member] at h
      cases h
      exact ⟨g, host, rfl⟩

theorem drawn_gameSetup {i : GameId} {setup : GameSetup} (h : s.setup? i = some setup)
    (context : JoinContext) : (Notice.gameSetup setup context).Drawn s.profile := by
  obtain ⟨g, host, rfl⟩ := setup?_eq_some h
  exact (Shows.host g host context).drawn

theorem drawn_added {id : SessionId} {p : Packet} (made : (s.session id).added? = some p) :
    p.Drawn s.profile :=
  (Shows.added made).drawn

theorem drawn_updated {id : SessionId} {p : Packet} (made : (s.session id).updated? = some p) :
    p.Drawn s.profile :=
  (Shows.updated made).drawn

theorem drawn_arrival (s : Server) (newcomer : Member) (setup : GameSetup) (other : SessionId) :
    ∀ p ∈ s.arrival newcomer setup other, p.Drawn s.profile := by
  intro p hp
  simp only [arrival, List.mem_append, Option.mem_toList] at hp
  rcases hp with (added | updated) | joining
  · exact drawn_added added
  · exact drawn_updated updated
  · split at joining
    · rw [List.mem_singleton.1 joining]
      exact (Shows.joining setup.game newcomer).drawn
    · cases joining

theorem drawn_welcome {i : GameId} {setup : GameSetup} (h : s.setup? i = some setup)
    (context : JoinContext) (others : List SessionId) :
    ∀ p ∈ s.welcome setup context others, p.Drawn s.profile := by
  intro p hp
  rw [welcome, List.mem_append, List.mem_filterMap] at hp
  rcases hp with ⟨other, -, added⟩ | last
  · exact drawn_added added
  · rw [List.mem_singleton.1 last]
    exact drawn_gameSetup h context

theorem recounts_introduce (s : Server) (i : GameId) (newcomer : Member) (context : JoinContext)
    (others : List SessionId) : s.Recounts (s.introduce i newcomer context others) := by
  refine ⟨s.profile_introduce i newcomer context others, ?_⟩
  rw [introduce]
  split
  · exact .refl s
  · next setup described =>
    exact (tells_foldl (fun t other => t.tells_pushAll other
      (s.drawn_arrival newcomer setup other)) s others).trans
        (tells_pushAll _ newcomer.session (drawn_welcome described context others))

theorem recounts_join (s : Server) (i : GameId) (session : SessionId) (context : JoinContext) :
    s.Recounts (s.join i session context).2 := by
  rcases s.join_cases i session context with same | ⟨newcomer, linked, granted, result⟩
  · rw [same]
    exact .refl s
  · obtain ⟨player, g, -, -, -, -, -, -, claimed⟩ := admission_newcomer granted
    rw [result]
    exact ((recounts_claim claimed).trans (linked.recounts_updateGame i _)).trans
      (recounts_introduce _ i newcomer context _)

theorem recounts_createGame (s : Server) (host : SessionId) (attributes : Attributes)
    (setting : UInt16) : s.Recounts (s.createGame host attributes setting).2 := by
  have tidied : s.Recounts s.evict := recounts_of_sessions rfl
  rcases s.createGame_cases host attributes setting with
    ⟨_, result⟩ | ⟨player, linked, -, claimed, result⟩
  · rw [result]
    exact tidied
  · have linking := tidied.trans (recounts_claim claimed)
    have created : s.Recounts { linked with
        games := linked.games.insert (1 + s.created)
          (.hosted (1 + s.created) (0x10000001 + s.created) host player attributes setting)
        created := linked.created + 1 } := linking.trans (recounts_of_sessions rfl)
    rw [result, notifyCreated]
    split
    · exact created
    · next setup described =>
      exact created.trans (recounts_push _ _ (drawn_gameSetup described .created))

theorem recounts_dismiss (s : Server) (i : GameId) (player : PlayerId) (reason : Int64) :
    s.Recounts (s.dismiss i player reason).2 := by
  rw [dismiss]
  split
  · exact .refl s
  · next gone removal game _ =>
    have notice (profiles : SessionId → Profile) :
        (Notice.playerRemoved i player reason).Drawn profiles := drawn_notification (by decide) _
    have told := ((s.recounts_updateGame i fun _ => game).trans
      (recounts_unlink _ gone.session i)).trans (recounts_push _ gone.session (notice _))
    dsimp only
    generalize ((s.updateGame i fun _ => game).unlink gone.session i).push gone.session
      (Notice.playerRemoved i player reason) = t at told
    -- what everybody gets is made before anybody gets it
    have packets : ∀ p ∈ Notice.playerRemoved i player reason ::
        (t.session gone.session).updated?.toList, p.Drawn t.profile := by
      intro p hp
      rcases List.mem_cons.1 hp with rfl | updated
      · exact notice _
      · exact drawn_updated (Option.mem_toList.1 updated)
    exact told.trans ⟨profile_foldl (fun u other => u.profile_pushAll other _) t game.sessions,
      tells_foldl (fun u other => u.tells_pushAll other packets) t game.sessions⟩

theorem recounts_releaseIfEmptied (i : GameId) {r : Removal × Server} (h : s.Recounts r.2) :
    s.Recounts (releaseIfEmptied i r).2 := by
  rw [releaseIfEmptied.eq_def]
  split
  · exact h.trans (recounts_of_sessions rfl)
  · exact h

theorem recounts_removePlayer (s : Server) (i : GameId) (player : PlayerId) (reason : Int64) :
    s.Recounts (s.removePlayer i player reason).2 := by
  rw [removePlayer]
  split
  · exact .refl s
  · exact recounts_releaseIfEmptied i (s.recounts_dismiss i player reason)

theorem recounts_removeSession (s : Server) (session : SessionId) (reason : Int64) :
    s.Recounts (s.removeSession session reason).2 := by
  rw [removeSession]
  split
  · exact .refl s
  · next seat _ =>
    split
    · exact s.recounts_unlink session seat.game
    · refine recounts_releaseIfEmptied seat.game ?_
      rw [dismissSession]
      split
      · exact .refl s
      · exact s.recounts_dismiss seat.game _ reason

/-! ### Matchmaking -/

theorem recounts_enqueue (s : Server) (session : SessionId) (rules : RuleSet) :
    s.Recounts (s.enqueue session rules) :=
  ⟨s.profile_enqueue session rules, tells_of_stage (s.stage_enqueue session rules)⟩

theorem recounts_withdraw (s : Server) (session : SessionId) :
    s.Recounts (s.withdraw session).2 :=
  ⟨s.profile_withdraw session, tells_of_stage (s.stage_withdraw session)⟩

theorem recounts_matchOrEnqueue (s : Server) (session : SessionId) (rules : RuleSet) :
    s.Recounts (s.matchOrEnqueue session rules).2 := by
  rw [matchOrEnqueue]
  split
  · exact .refl s
  · exact s.recounts_enqueue session rules

theorem recounts_settle (s : Server) (session : SessionId) : s.Recounts (s.settle session) :=
  ⟨s.profile_settle session, tells_of_stage (s.stage_settle session)⟩

theorem recounts_place (s : Server) (i : GameId) (seekers : List Seeker) :
    s.Recounts (s.place i seekers).2 := by
  induction seekers generalizing s with
  | nil => exact .refl s
  | cons k rest ih =>
    obtain ⟨t, server, ⟨rfl, -⟩ | ⟨-, rfl, -⟩⟩ := s.place_cons i k rest
    · rw [server]
      exact ((s.recounts_join i k.session .matchmaking).trans (recounts_settle _ k.session)).trans
        (ih _)
    · rw [server]
      exact ih _

theorem recounts_offer (s : Server) (i : GameId) : s.Recounts (s.offer i).2 := by
  rw [offer]
  split
  · exact .refl s
  · split
    next taken kept _ =>
      have queued : s.Recounts (s.setQueue kept) := recounts_of_sessions rfl
      have placed := queued.trans ((s.setQueue kept).recounts_place i taken)
      split
      next placement t result =>
        rw [result] at placed
        exact placed.trans ⟨t.profile_putBack placement.refused,
          tells_of_stage (stage_putBack t placement.refused)⟩

/-- **Leaving everything is told from the profiles.** -/
theorem recounts_leaveActivities (s : Server) (session : SessionId) (reason : Int64) :
    s.Recounts (s.leaveActivities session reason) := by
  have left := (s.recounts_withdraw session).trans
    ((s.withdraw session).2.recounts_removeSession session reason)
  rcases s.leaveActivities_cases session reason with ⟨-, result⟩ | ⟨-, result⟩ <;> rw [result]
  · exact left
  · exact left.count _

end Server

end Lobby
