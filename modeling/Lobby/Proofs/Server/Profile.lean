import Lobby.Proofs.Server.Matchmaking

/-!
# Profiles of sessions

The profile of a session is who it is logged in as and what it has reported of itself.  Links,
marks, packets, rosters and the queue are not in it, so in whatever state a server is, joining and
leaving games and waiting for them leaves every profile alone.
-/

namespace Lobby

structure Profile where
  peer : Option Address
  player : Option Player
  network : Network
  hardware : UInt16
  pinged : Bool

namespace Session

def profile (x : Session) : Profile := ⟨x.peer, x.player, x.network, x.hardware, x.pinged⟩

@[simp] theorem profile_deliver (x : Session) (entry : Outbound) :
    (x.deliver entry).profile = x.profile := by
  rw [deliver]
  split <;> rfl

@[simp] theorem profile_pushAll (x : Session) (ps : List Packet) :
    (x.pushAll ps).profile = x.profile := by
  rw [pushAll]
  split
  · rfl
  · exact x.profile_deliver _

@[simp] theorem profile_leave (x : Session) (i : GameId) : (x.leave i).profile = x.profile := by
  rw [leave]
  split <;> rfl

end Session

namespace Server

def profile (s : Server) (id : SessionId) : Profile := (s.session id).profile

variable {s : Server}

/-! ### Changes of a session -/

/-- What a change of a session keeps of it, it keeps of every session. -/
theorem view_updateSession {β : Type} (view : Session → β) (s : Server) (id : SessionId)
    {f : Session → Session} (same : ∀ x, s.sessions.get? id = some x → view (f x) = view x)
    (other : SessionId) : view ((s.updateSession id f).session other) = view (s.session other) := by
  rw [session, session, get?_updateSession]
  split
  · next here =>
    subst here
    cases found : s.sessions.get? other with
    | none => rfl
    | some x => exact same x found
  · rfl

/-- A change of a session that is not one of its profile. -/
theorem profile_updateSession (s : Server) (id : SessionId) {f : Session → Session}
    (same : ∀ x, s.sessions.get? id = some x → (f x).profile = x.profile) :
    (s.updateSession id f).profile = s.profile :=
  funext fun other => view_updateSession Session.profile s id same other

/-- Doing something for several sessions leaves the profiles alone if doing it for one does. -/
theorem profile_foldl {f : Server → SessionId → Server} (one : ∀ s id, (f s id).profile = s.profile)
    (s : Server) (ids : List SessionId) : (ids.foldl f s).profile = s.profile := by
  induction ids generalizing s with
  | nil => rfl
  | cons id ids ih => rw [List.foldl_cons, ih, one]

@[simp] theorem profile_push (s : Server) (id : SessionId) (p : Packet) :
    (s.push id p).profile = s.profile :=
  s.profile_updateSession id fun x _ => x.profile_deliver _

@[simp] theorem profile_pushAll (s : Server) (id : SessionId) (ps : List Packet) :
    (s.pushAll id ps).profile = s.profile :=
  s.profile_updateSession id fun x _ => x.profile_pushAll ps

@[simp] theorem profile_pushEach (s : Server) (ids : List SessionId) (p : Packet) :
    (s.pushEach ids p).profile = s.profile :=
  profile_foldl (fun s id => s.profile_push id p) s ids

@[simp] theorem profile_close (s : Server) (id : SessionId) : (s.close id).profile = s.profile :=
  s.profile_updateSession id fun _ _ => rfl

@[simp] theorem profile_deregister (s : Server) (id : SessionId) :
    (s.deregister id).profile = s.profile :=
  s.profile_updateSession id fun _ _ => rfl

@[simp] theorem profile_setSeeking (s : Server) (id : SessionId) (seeking : Bool) :
    (s.setSeeking id seeking).profile = s.profile :=
  s.profile_updateSession id fun _ _ => rfl

@[simp] theorem profile_settle (s : Server) (id : SessionId) :
    (s.settle id).profile = s.profile := by
  rw [settle]
  split
  · rfl
  · exact s.profile_setSeeking id false

@[simp] theorem profile_unlink (s : Server) (id : SessionId) (i : GameId) :
    (s.unlink id i).profile = s.profile :=
  s.profile_updateSession id fun x _ => x.profile_leave i

theorem profile_claim {t : Server} {id : SessionId} {seat : Seat} (h : s.claim id seat = .ok t) :
    t.profile = s.profile := by
  rw [eq_of_claim h]
  refine s.profile_updateSession id fun x found => ?_
  rw [session, found]
  rfl

@[simp] theorem profile_setQueue (s : Server) (queue : List Seeker) :
    (s.setQueue queue).profile = s.profile := rfl

@[simp] theorem profile_count (s : Server) (f : Metrics → Metrics) :
    (s.count f).profile = s.profile := rfl

/-! ### Games -/

@[simp] theorem profile_updateGame (s : Server) (i : GameId) (f : Game → Game) :
    (s.updateGame i f).profile = s.profile := rfl

@[simp] theorem profile_broadcast (s : Server) (i : GameId) (p : Packet)
    (except : Option SessionId) : (s.broadcast i p except).profile = s.profile := by
  rw [broadcast]
  split
  · rfl
  · exact s.profile_pushEach _ p

@[simp] theorem profile_addAttributes (s : Server) (i : GameId) (attributes : Attributes) :
    (s.addAttributes i attributes).profile = s.profile := rfl

@[simp] theorem profile_broadcastAttributes (s : Server) (i : GameId) :
    (s.broadcastAttributes i).profile = s.profile := by
  rw [broadcastAttributes]
  split
  · rfl
  · rw [profile_broadcast, profile_updateGame]

@[simp] theorem profile_setState (s : Server) (i : GameId) (state : UInt16) :
    (s.setState i state).profile = s.profile := by
  rw [setState, profile_broadcast, profile_updateGame]

@[simp] theorem profile_setSetting (s : Server) (i : GameId) (setting : UInt16) :
    (s.setSetting i setting).profile = s.profile := by
  rw [setSetting, profile_broadcast, profile_updateGame]

@[simp] theorem profile_introduce (s : Server) (i : GameId) (newcomer : Member)
    (context : JoinContext) (others : List SessionId) :
    (s.introduce i newcomer context others).profile = s.profile := by
  rw [introduce]
  split
  · rfl
  · rw [profile_pushAll]
    exact profile_foldl (fun s other => s.profile_pushAll other _) s others

@[simp] theorem profile_join (s : Server) (i : GameId) (session : SessionId)
    (context : JoinContext) : (s.join i session context).2.profile = s.profile := by
  rcases s.join_cases i session context with same | ⟨newcomer, linked, granted, result⟩
  · rw [same]
  · obtain ⟨player, g, -, -, -, -, -, -, claimed⟩ := admission_newcomer granted
    rw [result, profile_introduce, profile_updateGame, profile_claim claimed]

@[simp] theorem profile_createGame (s : Server) (host : SessionId) (attributes : Attributes)
    (setting : UInt16) : (s.createGame host attributes setting).2.profile = s.profile := by
  rcases s.createGame_cases host attributes setting with
    ⟨_, result⟩ | ⟨player, linked, -, claimed, result⟩
  · rw [result]
    rfl
  · have link : linked.profile = s.evict.profile := profile_claim claimed
    rw [result, show s.profile = linked.profile from link.symm, notifyCreated]
    split
    · rfl
    · exact profile_push _ _ _

@[simp] theorem profile_dismiss (s : Server) (i : GameId) (player : PlayerId) (reason : Int64) :
    (s.dismiss i player reason).2.profile = s.profile := by
  rw [dismiss]
  split
  · rfl
  · refine (profile_foldl (fun s other => s.profile_pushAll other _) _ _).trans ?_
    rw [profile_push, profile_unlink, profile_updateGame]

@[simp] theorem profile_dismissSession (s : Server) (i : GameId) (session : SessionId)
    (reason : Int64) : (s.dismissSession i session reason).2.profile = s.profile := by
  rw [dismissSession]
  split
  · rfl
  · exact s.profile_dismiss i _ reason

theorem profile_releaseIfEmptied (i : GameId) (r : Removal × Server) :
    (releaseIfEmptied i r).2.profile = r.2.profile := by
  rw [releaseIfEmptied.eq_def]
  split <;> rfl

@[simp] theorem profile_removePlayer (s : Server) (i : GameId) (player : PlayerId)
    (reason : Int64) : (s.removePlayer i player reason).2.profile = s.profile := by
  rw [removePlayer]
  split
  · rfl
  · exact (profile_releaseIfEmptied i _).trans (s.profile_dismiss i player reason)

@[simp] theorem profile_removeSession (s : Server) (session : SessionId) (reason : Int64) :
    (s.removeSession session reason).2.profile = s.profile := by
  rw [removeSession]
  split
  · rfl
  · split
    · exact s.profile_unlink session _
    · exact (profile_releaseIfEmptied _ _).trans (s.profile_dismissSession _ session reason)

/-! ### Matchmaking -/

@[simp] theorem profile_enqueue (s : Server) (session : SessionId) (rules : RuleSet) :
    (s.enqueue session rules).profile = s.profile := by
  rw [enqueue, profile_setSeeking, profile_setQueue]

@[simp] theorem profile_withdraw (s : Server) (session : SessionId) :
    (s.withdraw session).2.profile = s.profile := by
  rw [withdraw, profile_setSeeking, profile_setQueue]

@[simp] theorem profile_matchOrEnqueue (s : Server) (session : SessionId) (rules : RuleSet) :
    (s.matchOrEnqueue session rules).2.profile = s.profile := by
  rw [matchOrEnqueue]
  split
  · rfl
  · exact s.profile_enqueue session rules

@[simp] theorem profile_place (s : Server) (i : GameId) (seekers : List Seeker) :
    (s.place i seekers).2.profile = s.profile := by
  induction seekers generalizing s with
  | nil => rfl
  | cons k rest ih =>
    have joined := s.profile_join i k.session .matchmaking
    obtain ⟨t, server, ⟨rfl, -⟩ | ⟨-, rfl, -⟩⟩ := s.place_cons i k rest
    · rw [server, ih, profile_settle, joined]
    · rw [server, ih]

@[simp] theorem profile_putBack (s : Server) (seekers : List Seeker) :
    (seekers.foldr putBack s).profile = s.profile := by
  induction seekers with
  | nil => rfl
  | cons k rest ih =>
    rw [List.foldr_cons, putBack]
    split <;> exact ih

@[simp] theorem profile_offer (s : Server) (i : GameId) : (s.offer i).2.profile = s.profile := by
  rw [offer]
  split
  · rfl
  · dsimp only
    rw [profile_putBack, profile_place, profile_setQueue]

/-- **Leaving everything leaves the profiles alone.** -/
@[simp] theorem profile_leaveActivities (s : Server) (session : SessionId) (reason : Int64) :
    (s.leaveActivities session reason).profile = s.profile := by
  have left := (s.withdraw session).2.profile_removeSession session reason
  rw [profile_withdraw] at left
  rcases s.leaveActivities_cases session reason with ⟨-, result⟩ | ⟨-, result⟩ <;> rw [result]
  · exact left
  · exact left

@[simp] theorem profile_disconnect (s : Server) (session : SessionId) :
    (s.disconnect session).profile = s.profile := by
  rw [disconnect, profile_deregister, profile_leaveActivities]

end Server

end Lobby
