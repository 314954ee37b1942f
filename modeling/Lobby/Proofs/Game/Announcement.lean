import Lobby.Proofs.Game.News
import Lobby.Proofs.Server.Deeds

/-!
# What notices announce

The notices that members of a game get when somebody comes or goes, by what a client reads in them:
which user, which games the user is in, which member in which slot, which roster under which host.
A notice carries records and their bytes (`Packet.Carries`), and **each of them says all of what it
is sent for** (`Session.introduces_added`, `Notice.describes_gameSetup` and the like).
-/

namespace Lobby

/-! ## Reading notices -/

namespace Content

variable (content : Content)

/-- The player that the data of a user is about. -/
def user? : Option Player := do
  let user ← content.group? Field.user
  let id ← uint32? user.fields Field.id
  let name ← string? user.fields Field.name
  return ⟨id, name⟩

def slot? (label : Label) : Option Nat := (content.requireBelow gameCapacity label).toOption

def member? : Option Member := do
  let session ← content.uint32? Field.uid
  let id ← content.uint32? Field.pid
  let name ← content.string? Field.name
  let slot ← content.slot? Field.sid
  return ⟨session, ⟨id, name⟩, slot⟩

/-- The members in a list of participants, in its order. -/
def roster? : Option (List Member) :=
  match content.items? Field.pros with
  | some (.groups gs) => gs.mapM fun g => member? g.fields
  | _ => none

def host? : Option (PlayerId × Nat) := do
  let host ← content.group? Field.host
  let id ← uint32? host.fields Field.hpid
  let slot ← slot? host.fields Field.hslt
  return (id, slot)

end Content

namespace Packet

/-- A notice on a route with content that says something. -/
def Carries (p : Packet) (route : Route) (meaning : Content → Prop) : Prop :=
  p.header = .notification route ∧
    ∃ content, p.records = .ok content ∧ p.contents = encodeAll content ∧ meaning content

/-- A notice that introduces a player, who is in these games. -/
def Introduces (p : Packet) (player : Player) (games : List GameId) : Prop :=
  p.Carries Route.userAdded fun content =>
    content.user? = some player ∧ content.memberships = games.map Session.membership

def Updates (p : Packet) (player : PlayerId) (games : List GameId) : Prop :=
  p.Carries Route.userUpdated fun content =>
    content.uint32? Field.id = some player ∧ content.memberships = games.map Session.membership

def Expects (p : Packet) (game : GameId) (m : Member) : Prop :=
  p.Carries Route.playerJoining fun content =>
    content.isAbout game = true ∧
      ∃ data, content.group? Field.pdat = some data ∧ Content.member? data.fields = some m

def Removes (p : Packet) (game : GameId) (player : PlayerId) (reason : Int64) : Prop :=
  p.Carries Route.playerRemoved fun content =>
    content.isAbout game = true ∧ content.uint32? Field.pid = some player ∧
      content.varint? Field.reas = some reason

/-- A notice of a whole game: its roster, the member who is the host, the attributes, the state and
the setting. -/
def Describes (p : Packet) (g : Game) (host : Member) : Prop :=
  p.Carries Route.gameSetup fun content =>
    content.roster? = some g.roster ∧
      ∃ game, content.group? Field.game = some game ∧ Content.isAbout game.fields g.id = true ∧
        Content.host? game.fields = some (host.player.id, host.slot) ∧
        Content.attributes? game.fields Field.attr = some g.attributes ∧
        Content.uint16? game.fields Field.gsta = some g.state ∧
        Content.uint16? game.fields Field.gset = some g.setting

theorem carries_notification {route : Route} {content : Content} {meaning : Content → Prop}
    (meant : meaning content) : (Packet.notification route content).Carries route meaning :=
  ⟨rfl, content, rfl, rfl, meant⟩

end Packet

/-! ## Notices of users -/

theorem Content.slot?_nat {content : Content} {label : Label} {slot : Nat}
    (bound : slot < gameCapacity) (found : content.field? label = some (.nat label slot)) :
    content.slot? label = some slot := by
  rw [slot?, requireBelow_nat bound (by decide) found]
  rfl

namespace Session

variable {x : Session} {player : Player}

/-- A session is introduced as its player, in the game that it is linked to. -/
theorem introduces_added (login : x.player = some player) :
    ∃ p, x.added? = some p ∧ p.Introduces player (x.seat.toList.map (·.game)) := by
  refine ⟨_, Notice.added?_eq login, Packet.carries_notification ⟨?_, ?_⟩⟩
  · have found : Content.group? [x.extendedData, Notice.user player] Field.user =
        some (.mk false (Notice.userFields player)) := rfl
    have id : Content.uint32? (Notice.userFields player) Field.id = some player.id :=
      Content.uint32?_nat rfl
    have name : Content.string? (Notice.userFields player) Field.name = some player.name := rfl
    rw [Content.user?, found]
    simp only [Option.bind_eq_bind, Option.bind_some, Option.pure_def, Group.fields, id, name]
  · rw [Notice.memberships_eq, List.map_map]
    rfl

/-- The news of a session are about its player, in the game that it is linked to. -/
theorem updates_updated (login : x.player = some player) :
    ∃ p, x.updated? = some p ∧ p.Updates player.id (x.seat.toList.map (·.game)) := by
  refine ⟨.notification Route.userUpdated
    [x.extendedData, .nat Field.flgs presentFlags, .nat Field.id player.id.toNat], ?_,
    Packet.carries_notification ⟨?_, ?_⟩⟩
  · rw [updated?, login]
    rfl
  · exact Content.uint32?_nat rfl
  · rw [Notice.memberships_eq, List.map_map]
    rfl

end Session

/-! ## Notices of games -/

namespace Notice

/-- The fields of a participant describe the member. -/
theorem member?_participant (i : GameId) {p : Participant} (bound : p.member.slot < gameCapacity) :
    Content.member? (participant i p) = some p.member := by
  have session : Content.uint32? (participant i p) Field.uid = some p.member.session :=
    Content.uint32?_nat (field?_participant i p (by decide))
  have id : Content.uint32? (participant i p) Field.pid = some p.member.player.id :=
    Content.uint32?_nat (field?_participant i p (by decide))
  have name : Content.string? (participant i p) Field.name = some p.member.player.name := by
    rw [Content.string?, field?_participant i p (by decide)]
    rfl
  have slot : Content.slot? (participant i p) Field.sid = some p.member.slot :=
    Content.slot?_nat bound (field?_participant i p (by decide))
  rw [Content.member?, session, id, name, slot]
  rfl

theorem expects_playerJoining (i : GameId) {p : Participant}
    (bound : p.member.slot < gameCapacity) : (playerJoining i p).Expects i p.member :=
  Packet.carries_notification
    ⟨Content.isAbout_nat rfl, .mk false (participant i p), rfl, member?_participant i bound⟩

theorem removes_playerRemoved (i : GameId) (player : PlayerId) (reason : Int64) :
    (playerRemoved i player reason).Removes i player reason :=
  Packet.carries_notification ⟨Content.isAbout_nat rfl, Content.uint32?_nat rfl, rfl⟩

theorem roster?_participants (setup : GameSetup) (game reason : Record)
    (other : game.label ≠ Field.pros)
    (bound : ∀ p ∈ setup.members, p.member.slot < gameCapacity) :
    Content.roster? [game, .list Field.pros (participants setup), reason] =
      some (setup.members.map (·.member)) := by
  have listed : Content.items? [game, .list Field.pros (participants setup), reason] Field.pros =
      some (participants setup) := by
    rw [Content.items?, Content.field?, List.find?_cons_of_neg (by simpa using other)]
    rfl
  rw [Content.roster?, listed]
  dsimp only [participants]
  generalize setup.members = members at bound
  induction members with
  | nil => rfl
  | cons p ps ih =>
    obtain ⟨first, rest⟩ := List.forall_mem_cons.1 bound
    rw [List.map_cons, List.mapM_cons, ih rest]
    dsimp only [Group.fields]
    rw [member?_participant setup.game first]
    rfl

/-- **The setup notice of a game describes all of it.** -/
theorem describes_gameSetup {g : Game} {host : Member} (network : SessionId → Network)
    (context : JoinContext) (bound : ∀ m ∈ g.roster, m.slot < gameCapacity)
    (member : host ∈ g.roster) :
    (gameSetup (g.setup network host) context).Describes g host := by
  rw [gameSetup_eq]
  refine Packet.carries_notification ⟨?_, .mk false (gameFields (g.setup network host)), rfl, ?_⟩
  · have listed (p : Participant) (mem : p ∈ (g.setup network host).members) :
        p.member.slot < gameCapacity := by
      obtain ⟨m, member, rfl⟩ := List.mem_map.1 mem
      exact bound m member
    refine (roster?_participants (g.setup network host)
      (.group Field.game (gameFields (g.setup network host))) _
      (show Field.game ≠ Field.pros by decide) listed).trans ?_
    show some ((g.roster.map fun m => (⟨m, network m.session⟩ : Participant)).map (·.member)) = _
    rw [List.map_map]
    exact congrArg some (List.map_id g.roster)
  · let named : Content := [.nat Field.hpid host.player.id.toNat, .nat Field.hslt host.slot]
    have skipped : decide (((network host.session).record Field.hnet).label = Field.host) =
        false := by
      rw [Network.label_record]
      decide
    have past : Content.field? (gameFields (g.setup network host)) Field.host =
        some (.group Field.host named) := by
      simp only [Content.field?, gameFields, Game.setup, List.find?_cons, skipped]
      rfl
    have id : Content.uint32? named Field.hpid = some host.player.id := Content.uint32?_nat rfl
    have slot : Content.slot? named Field.hslt = some host.slot :=
      Content.slot?_nat (bound host member) rfl
    refine ⟨Content.isAbout_nat rfl, ?_, Content.attributes?_attributes rfl,
      Content.uint16?_nat rfl, Content.uint16?_nat rfl⟩
    show Content.host? (gameFields (g.setup network host)) = _
    rw [Content.host?, Content.group?, past]
    simp only [Option.bind_eq_bind, Option.bind_some, Option.pure_def, Record.group, Record.value,
      Value.toGroup?, Group.fields, id, slot]

end Notice

end Lobby
