import Lobby.Proofs.Server.Membership
import Lobby.Proofs.SortedMap

/-!
# Apart from who waits

Who is queued and who is marked as seeking is the business of matchmaking alone.  A join sees
neither the queue nor the marks and leaves both alone, so it commutes with `Server.unmarked`, which
empties the queue and takes all marks off.
-/

namespace Lobby

def Session.unmarked (x : Session) : Session := { x with seeking := false }

namespace Server

/-- A server without its queue and the marks. -/
def unmarked (s : Server) : Server :=
  { s with queue := [], sessions := s.sessions.mapValues fun _ x => x.unmarked }

def unmarkedResult {α : Type} (r : α × Server) : α × Server := (r.1, r.2.unmarked)

variable (s : Server)

@[simp] theorem games_unmarked : s.unmarked.games = s.games := rfl

@[simp] theorem session_unmarked (id : SessionId) :
    s.unmarked.session id = (s.session id).unmarked := by
  rw [session, session, unmarked, SortedMap.get?_mapValues]
  cases s.sessions.get? id <;> rfl

/-- A change of a session that the mark has no part in. -/
theorem updateSession_unmarked (id : SessionId) {f f' : Session → Session}
    (same : ∀ x, f' x.unmarked = (f x).unmarked) :
    s.unmarked.updateSession id f' = (s.updateSession id f).unmarked := by
  have sessions : (s.sessions.mapValues fun _ x => x.unmarked).modify id f' =
      (s.sessions.modify id f).mapValues fun _ x => x.unmarked := by
    refine SortedMap.eq_of_entries ?_
    simp only [SortedMap.modify, SortedMap.mapValues, List.map_map]
    refine List.map_congr_left fun e _ => ?_
    by_cases here : e.1 = id <;> simp [here, same]
  rw [updateSession, unmarked, sessions]
  rfl

@[simp] theorem updateGame_unmarked (id : GameId) (f : Game → Game) :
    s.unmarked.updateGame id f = (s.updateGame id f).unmarked := rfl

@[simp] theorem unmarked_setQueue (queue : List Seeker) :
    (s.setQueue queue).unmarked = s.unmarked := rfl

/-- A mark makes no difference. -/
@[simp] theorem unmarked_setSeeking (id : SessionId) (seeking : Bool) :
    (s.setSeeking id seeking).unmarked = s.unmarked := by
  have changed : s.unmarked.updateSession id (fun x => x) = (s.setSeeking id seeking).unmarked :=
    s.updateSession_unmarked id fun _ => rfl
  have same : s.unmarked.updateSession id (fun x => x) = s.unmarked := by
    rw [updateSession, SortedMap.modify_eq_self fun _ _ => rfl]
  exact changed.symm.trans same

@[simp] theorem unmarked_settle (id : SessionId) : (s.settle id).unmarked = s.unmarked := by
  rw [settle]
  split
  · rfl
  · exact s.unmarked_setSeeking id false

@[simp] theorem unmarked_putBack (seekers : List Seeker) :
    (seekers.foldr putBack s).unmarked = s.unmarked := by
  induction seekers with
  | nil => rfl
  | cons k rest ih =>
    rw [List.foldr_cons, putBack]
    split <;> exact ih

/-! ### Joining -/

@[simp] theorem pushAll_unmarked (id : SessionId) (ps : List Packet) :
    s.unmarked.pushAll id ps = (s.pushAll id ps).unmarked := by
  refine s.updateSession_unmarked id fun x => ?_
  rw [Session.pushAll, Session.pushAll, Session.deliver, Session.deliver]
  by_cases none : ps.isEmpty = true
  · rw [if_pos none, if_pos none]
  · rw [if_neg none, if_neg none]
    by_cases listening : x.listening = true <;> simp [Session.unmarked, listening]

theorem foldl_pushAll_unmarked (f : SessionId → List Packet) (ids : List SessionId) :
    ids.foldl (fun t other => t.pushAll other (f other)) s.unmarked =
      (ids.foldl (fun t other => t.pushAll other (f other)) s).unmarked := by
  induction ids generalizing s with
  | nil => rfl
  | cons id ids ih => rw [List.foldl_cons, pushAll_unmarked, ih, List.foldl_cons]

@[simp] theorem setup?_unmarked (id : GameId) : s.unmarked.setup? id = s.setup? id := by
  simp only [setup?, games_unmarked, session_unmarked]
  rfl

@[simp] theorem introduce_unmarked (id : GameId) (newcomer : Member) (context : JoinContext)
    (others : List SessionId) : s.unmarked.introduce id newcomer context others =
      (s.introduce id newcomer context others).unmarked := by
  have arrival : s.unmarked.arrival = s.arrival := by
    funext newcomer setup other
    simp only [Server.arrival, session_unmarked]
    rfl
  have welcome : s.unmarked.welcome = s.welcome := by
    funext setup context others
    simp only [Server.welcome, session_unmarked]
    rfl
  simp only [introduce, setup?_unmarked, arrival, welcome]
  split
  · rfl
  · rw [foldl_pushAll_unmarked, pushAll_unmarked]

@[simp] theorem claim_unmarked (id : SessionId) (seat : Seat) :
    s.unmarked.claim id seat = (s.claim id seat).map unmarked := by
  have linked : Session.claim (s.session id).unmarked seat =
      (Session.claim (s.session id) seat).map Session.unmarked := by
    simp only [Session.claim, show (s.session id).unmarked.seat = (s.session id).seat from rfl]
    split
    · split <;> rfl
    · rfl
  rw [claim, claim, session_unmarked, linked]
  cases Session.claim (s.session id) seat with
  | error other => rfl
  | ok x => exact congrArg Except.ok (s.updateSession_unmarked id fun _ => rfl)

@[simp] theorem admission_unmarked (id : GameId) (session : SessionId) :
    s.unmarked.admission id session =
      (s.admission id session).map (Sum.map (fun slot => slot) unmarkedResult) := by
  have player : (s.session session).unmarked.player = (s.session session).player := rfl
  simp only [admission, session_unmarked, games_unmarked, claim_unmarked, player]
  split
  · rfl
  · rfl
  · split
    · rfl
    · split
      · rfl
      · split
        · rfl
        · cases s.claim session _ <;> rfl

/-- **A join neither sees who waits nor changes it.** -/
@[simp] theorem join_unmarked (id : GameId) (session : SessionId) (context : JoinContext) :
    s.unmarked.join id session context = unmarkedResult (s.join id session context) := by
  simp only [join, admission_unmarked, games_unmarked]
  cases s.admission id session with
  | error e => rfl
  | ok r =>
    cases r with
    | inl slot => rfl
    | inr r =>
      simp only [Except.map, Sum.map_inr, unmarkedResult]
      rw [updateGame_unmarked, introduce_unmarked]

/-- Servers that differ only in who waits let a session join alike. -/
theorem join_congr {s t : Server} (same : s.unmarked = t.unmarked) (id : GameId)
    (session : SessionId) (context : JoinContext) :
    (s.join id session context).1 = (t.join id session context).1 ∧
      (s.join id session context).2.unmarked = (t.join id session context).2.unmarked := by
  have joined : unmarkedResult (s.join id session context) =
      unmarkedResult (t.join id session context) := by
    rw [← join_unmarked, same, join_unmarked]
  exact Prod.mk.inj joined

end Server

end Lobby
