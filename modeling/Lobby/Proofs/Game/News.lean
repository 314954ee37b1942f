import Lobby.Game.Notice
import Lobby.Proofs.Record.RoundTrip
import Lobby.Proofs.Record.Size
import Lobby.Proofs.SortedMap
import Mathlib.Data.Finset.Basic
import Mathlib.Data.Finset.Dedup

/-!
# What notices say of a game

A client keeps a `Replica` of the game it is in.  The setup notice says what to start from, and the
notices after it say what has changed.  All of it is read from the bytes of the packets:
`Packet.news?`.

A client that replays what it has heard (`Replica.replay`) starts anew with every setup notice, so
only what comes after the last one counts.
-/

namespace Lobby

/-- What a client knows of a game. -/
structure Replica where
  players : Finset PlayerId
  attributes : Attributes
  state : UInt16
  setting : UInt16

def Game.replica (g : Game) : Replica where
  players := (g.roster.map (·.player.id)).toFinset
  attributes := g.attributes
  state := g.state
  setting := g.setting

inductive News where
  | setup (r : Replica)
  | joined (player : PlayerId)
  | left (player : PlayerId)
  | attributes (a : Attributes)
  | state (v : UInt16)
  | setting (v : UInt16)

namespace Content

variable (content : Content)

def uint32? (label : Label) : Option UInt32 := (content.requireUInt32 label).toOption

def uint16? (label : Label) : Option UInt16 := (content.requireUInt16 label).toOption

def isAbout (i : GameId) : Bool := content.uint32? Field.gid == some i

def participants? : Option (List PlayerId) :=
  match content.items? Field.pros with
  | some (.groups gs) => gs.mapM fun g => Content.uint32? g.fields Field.pid
  | _ => none

/-- The games in the data of a user. -/
def memberships : List (Int64 × Int64 × Int64) :=
  match (content.group? Field.data).bind fun g => Content.items? g.fields Field.ulst with
  | some (.triples ts) => ts
  | _ => []

def setup? (i : GameId) : Option Replica := do
  let game ← content.group? Field.game
  guard (Content.isAbout game.fields i)
  let players ← content.participants?
  let attributes ← Content.attributes? game.fields Field.attr
  let state ← Content.uint16? game.fields Field.gsta
  let setting ← Content.uint16? game.fields Field.gset
  return ⟨players.toFinset, attributes, state, setting⟩

def newcomer? (i : GameId) : Option PlayerId := do
  guard (Session.membership i ∈ content.memberships)
  let user ← content.group? Field.user
  Content.uint32? user.fields Field.id

/-- What content says of a game, by the route of its packet. -/
def news? (route : Route) (i : GameId) : Option News :=
  if route = Route.gameSetup then (content.setup? i).map .setup
  else if route = Route.userAdded then (content.newcomer? i).map .joined
  else if ¬content.isAbout i then none
  else if route = Route.playerRemoved then (content.uint32? Field.pid).map .left
  else if route = Route.gameAttributesChanged then
    (content.attributes? Field.attr).map .attributes
  else if route = Route.gameStateChanged then (content.uint16? Field.gsta).map .state
  else if route = Route.gameSettingsChanged then (content.uint16? Field.attr).map .setting
  else none

end Content

def Packet.news? (i : GameId) (p : Packet) : Option News :=
  match decodeAll p.contents with
  | .ok content => Content.news? content p.header.route i
  | .error _ => none

namespace Replica

/-- What a client knows after some news.  Without a setup notice it knows nothing. -/
def hear (known : Option Replica) : News → Option Replica
  | .setup r => some r
  | .joined player => known.map fun r => { r with players := insert player r.players }
  | .left player => known.map fun r => { r with players := r.players.erase player }
  | .attributes a => known.map fun r => { r with attributes := a }
  | .state v => known.map fun r => { r with state := v }
  | .setting v => known.map fun r => { r with setting := v }

/-- What a client knows of a game after some packets. -/
def replay (i : GameId) (ps : List Packet) : Option Replica :=
  (ps.filterMap (·.news? i)).foldl hear none

theorem replay_append (i : GameId) (ps qs : List Packet) :
    replay i (ps ++ qs) = (qs.filterMap (·.news? i)).foldl hear (replay i ps) := by
  rw [replay, List.filterMap_append, List.foldl_append, replay]

end Replica

/-! ### Looking up what was written -/

namespace Content

variable {content : Content} {label : Label}

theorem requireBelow_nat {limit n : Nat} (below : n < limit) (small : limit ≤ 2 ^ 63)
    (found : content.field? label = some (.nat label n)) :
    content.requireBelow limit label = .ok n := by
  have value : (Int64.ofNat n).toInt = n := Int64.toInt_ofNat_of_lt (by omega)
  have varint : content.varint? label = some (Int64.ofNat n) := by
    rw [varint?, found]
    rfl
  rw [requireBelow, requireVarint, varint]
  show (if 0 ≤ (Int64.ofNat n).toInt ∧ (Int64.ofNat n).toInt < limit then _ else _) = _
  rw [value, if_pos (by omega)]
  rfl

theorem uint32?_nat {v : UInt32} (found : content.field? label = some (.nat label v.toNat)) :
    content.uint32? label = some v := by
  rw [uint32?, requireUInt32, requireBelow_nat v.toNat_lt (by decide) found]
  show some (UInt32.ofNat v.toNat) = some v
  rw [UInt32.ofNat_toNat]

theorem uint16?_nat {v : UInt16} (found : content.field? label = some (.nat label v.toNat)) :
    content.uint16? label = some v := by
  rw [uint16?, requireUInt16, requireBelow_nat v.toNat_lt (by decide) found]
  show some (UInt16.ofNat v.toNat) = some v
  rw [UInt16.ofNat_toNat]

theorem isAbout_nat {i : GameId}
    (found : content.field? Field.gid = some (.nat Field.gid i.toNat)) :
    content.isAbout i = true := by
  rw [isAbout, uint32?_nat found]
  exact beq_self_eq_true _

theorem attributes?_attributes {a : Attributes}
    (found : content.field? label = some (.attributes label a)) :
    content.attributes? label = some a := by
  rw [attributes?, found]
  show some (SortedMap.ofList (a.keys.zip a.values)) = some a
  rw [SortedMap.ofList_zip]

end Content

/-! ### Sound records of notices -/

namespace Group

/-- Fields whose labels start with a letter or a digit. -/
theorem sound_mk {fields : Content} (labels : ∀ l ∈ fields.map Record.label, 16 ≤ l.first.val)
    (sound : ∀ r ∈ fields, r.Sound) : (Group.mk false fields).Sound :=
  Record.fieldsSound_iff.2 fun r hr =>
    ⟨Label.opensField_of_first (labels r.label (List.mem_map_of_mem hr)), sound r hr⟩

theorem depth_mk_le {fields : Content} {n : Nat} (depths : ∀ r ∈ fields, r.depth ≤ n) :
    (Group.mk false fields).depth ≤ n + 1 :=
  Nat.succ_le_succ (Record.depthAll_le_iff.2 depths)

end Group

namespace Network

@[simp] theorem label_record (label : Label) (n : Network) : (n.record label).label = label := by
  rw [record]
  split <;> rfl

theorem sound_record (label : Label) (n : Network) : (n.record label).Sound := by
  have endpoint (label : Label) (e : Endpoint) : (e.record label).Sound :=
    Group.sound_mk (show ∀ l ∈ [Field.ip, Field.port], 16 ≤ l.first.val by decide) (by
      simp only [List.forall_mem_cons]
      exact ⟨trivial, trivial, List.forall_mem_nil _⟩)
  rw [record]
  split
  · trivial
  · refine Group.sound_mk ?_ ?_
    · show ∀ l ∈ [Field.exip, Field.inip], 16 ≤ l.first.val
      decide
    · simp only [List.forall_mem_cons]
      exact ⟨endpoint _ _, endpoint _ _, List.forall_mem_nil _⟩

theorem depth_record_le (label : Label) (n : Network) : (n.record label).depth ≤ 3 := by
  rw [record]
  split
  · exact Nat.zero_le _
  · exact Nat.le_refl 3

end Network

namespace Notice

theorem decodeAll_notification {route : Route} {rs : Content} (sound : ∀ r ∈ rs, r.Sound)
    (shallow : Record.depthAll rs ≤ maxDepth) :
    decodeAll (Packet.notification route rs).contents = .ok rs := by
  show decodeAll (encodeAll rs) = _
  rw [decodeAll_encodeAll_eq sound, if_pos shallow]

/-- A notice that fits into memory is read back, if records of that size are sound. -/
theorem decodeAll_of_fits {route : Route} {rs : Content}
    (fits : (Packet.notification route rs).contents.length ≤ maxLength)
    (sound : Record.sizeAll rs ≤ maxLength → ∀ r ∈ rs, r.Sound)
    (shallow : Record.depthAll rs ≤ maxDepth) :
    decodeAll (Packet.notification route rs).contents = .ok rs := by
  have size : (Packet.notification route rs).contents.length = Record.sizeAll rs :=
    length_encodeAll rs
  exact decodeAll_notification (sound (size ▸ fits)) shallow

/-- The news in a notice are those in its records, if they are sound. -/
theorem news?_notification {route : Route} {rs : Content} (sound : ∀ r ∈ rs, r.Sound)
    (shallow : Record.depthAll rs ≤ maxDepth) (i : GameId) :
    (Packet.notification route rs).news? i = rs.news? route i := by
  rw [Packet.news?, decodeAll_notification sound shallow]
  rfl

/-- The news in a notice that fits into memory, if records of that size are sound. -/
theorem news?_of_fits {route : Route} {rs : Content}
    (fits : (Packet.notification route rs).contents.length ≤ maxLength)
    (sound : Record.sizeAll rs ≤ maxLength → ∀ r ∈ rs, r.Sound)
    (shallow : Record.depthAll rs ≤ maxDepth) (i : GameId) :
    (Packet.notification route rs).news? i = rs.news? route i := by
  rw [Packet.news?, decodeAll_of_fits fits sound shallow]
  rfl

/-! ### News of a change -/

/-- The news in content about a game that is neither set up nor joined. -/
theorem news?_about {content : Content} {route : Route} {i : GameId}
    (about : content.isAbout i = true) (setup : route ≠ Route.gameSetup)
    (added : route ≠ Route.userAdded) :
    content.news? route i =
      if route = Route.playerRemoved then (content.uint32? Field.pid).map .left
      else if route = Route.gameAttributesChanged then
        (content.attributes? Field.attr).map .attributes
      else if route = Route.gameStateChanged then (content.uint16? Field.gsta).map .state
      else if route = Route.gameSettingsChanged then (content.uint16? Field.attr).map .setting
      else none := by
  rw [Content.news?, if_neg setup, if_neg added, if_neg (not_not_intro about)]

theorem news?_playerRemoved (i : GameId) (player : PlayerId) (reason : Int64) :
    (playerRemoved i player reason).news? i = some (.left player) := by
  have sound : ∀ r ∈ [Record.nat Field.cntx 0, .nat Field.gid i.toNat, .nat Field.pid player.toNat,
      .varint Field.reas reason], r.Sound := by
    simp only [List.forall_mem_cons]
    exact ⟨trivial, trivial, trivial, trivial, List.forall_mem_nil _⟩
  rw [playerRemoved, news?_notification sound (Nat.zero_le _),
    news?_about (Content.isAbout_nat rfl) (by decide) (by decide), if_pos rfl,
    Content.uint32?_nat rfl]
  rfl

theorem news?_gameAttributesChanged (i : GameId) {a : Attributes}
    (fits : (gameAttributesChanged i a).contents.length ≤ maxLength) :
    (gameAttributesChanged i a).news? i = some (.attributes a) := by
  have sound
      (fits : Record.sizeAll [.attributes Field.attr a, .nat Field.gid i.toNat] ≤ maxLength) :
      ∀ r ∈ [Record.attributes Field.attr a, .nat Field.gid i.toNat], r.Sound := by
    simp only [List.forall_mem_cons]
    have part := Record.size_le_sizeAll (List.mem_cons_self (a := Record.attributes Field.attr a)
      (l := [.nat Field.gid i.toNat]))
    exact ⟨Record.sound_attributes (part.trans fits), trivial, List.forall_mem_nil _⟩
  rw [gameAttributesChanged, news?_of_fits fits sound (Nat.zero_le _),
    news?_about (Content.isAbout_nat rfl) (by decide) (by decide), if_neg (by decide), if_pos rfl,
    Content.attributes?_attributes rfl]
  rfl

theorem news?_gameStateChanged (i : GameId) (v : UInt16) :
    (gameStateChanged i v).news? i = some (.state v) := by
  have sound : ∀ r ∈ [Record.nat Field.gid i.toNat, .nat Field.gsta v.toNat], r.Sound := by
    simp only [List.forall_mem_cons]
    exact ⟨trivial, trivial, List.forall_mem_nil _⟩
  rw [gameStateChanged, news?_notification sound (Nat.zero_le _),
    news?_about (Content.isAbout_nat rfl) (by decide) (by decide), if_neg (by decide),
    if_neg (by decide), if_pos rfl, Content.uint16?_nat rfl]
  rfl

theorem news?_gameSettingsChanged (i : GameId) (v : UInt16) :
    (gameSettingsChanged i v).news? i = some (.setting v) := by
  have sound : ∀ r ∈ [Record.nat Field.attr v.toNat, .nat Field.gid i.toNat], r.Sound := by
    simp only [List.forall_mem_cons]
    exact ⟨trivial, trivial, List.forall_mem_nil _⟩
  rw [gameSettingsChanged, news?_notification sound (Nat.zero_le _),
    news?_about (Content.isAbout_nat rfl) (by decide) (by decide), if_neg (by decide),
    if_neg (by decide), if_neg (by decide), if_pos rfl, Content.uint16?_nat rfl]
  rfl

/-! ### News of members -/

theorem sound_extendedData (x : Session) : x.extendedData.Sound := by
  refine Group.sound_mk ?_ ?_
  · show ∀ l ∈ [(x.network.record Field.addr).label, Field.hwfl, Field.ulst], 16 ≤ l.first.val
    rw [Network.label_record]
    decide
  · simp only [List.forall_mem_cons]
    refine ⟨x.network.sound_record _, trivial, ⟨?_, trivial⟩, List.forall_mem_nil _⟩
    cases x.seat with
    | none => exact Nat.zero_le _
    | some seat => exact Nat.le_of_ble_eq_true rfl

theorem depth_extendedData_le (x : Session) : x.extendedData.depth ≤ 4 := by
  refine Group.depth_mk_le ?_
  simp only [List.forall_mem_cons]
  exact ⟨x.network.depth_record_le _, Nat.zero_le _, Nat.zero_le _, List.forall_mem_nil _⟩

/-- The data of a user lists the game that its session is linked to. -/
theorem memberships_eq (x : Session) (others : Content) :
    Content.memberships (x.extendedData :: others) =
      x.seat.toList.map fun seat => Session.membership seat.game := by
  have listed : Content.items? [x.network.record Field.addr, .nat Field.hwfl x.hardware.toNat,
      .list Field.ulst (.triples (x.seat.toList.map fun seat => Session.membership seat.game))]
        Field.ulst =
      some (.triples (x.seat.toList.map fun seat => Session.membership seat.game)) := by
    rw [Content.items?, Content.field?, List.find?_cons_of_neg]
    · rfl
    · rw [Network.label_record]
      decide
  show (match Content.items? _ Field.ulst with
    | some (.triples ts) => ts
    | _ => []) = _
  dsimp only [Group.fields]
  rw [listed]

theorem memberships_extendedData {x : Session} {seat : Seat} (seated : x.seat = some seat)
    (others : Content) :
    Content.memberships (x.extendedData :: others) = [Session.membership seat.game] := by
  rw [memberships_eq, seated]
  rfl

/-- How a player is described when it is introduced. -/
def userFields (player : Player) : Content :=
  [.nat Field.aid player.id.toNat, .nat Field.aloc Session.defaultLocale,
    .nat Field.id player.id.toNat, .string Field.name player.name]

def user (player : Player) : Record := .group Field.user (userFields player)

theorem sound_user {player : Player} (fits : (user player).size ≤ maxLength) :
    (user player).Sound := by
  have whole : (user player).size = Record.sizeAll (userFields player) + 5 := rfl
  have part : (Record.string Field.name player.name).size ≤ Record.sizeAll (userFields player) :=
    Record.size_le_sizeAll (by simp [userFields])
  refine Group.sound_mk ?_ ?_
  · show ∀ l ∈ [Field.aid, Field.aloc, Field.id, Field.name], 16 ≤ l.first.val
    decide
  · simp only [userFields, List.forall_mem_cons]
    exact ⟨trivial, trivial, trivial, Record.sound_string (by omega), List.forall_mem_nil _⟩

theorem added?_eq {x : Session} {player : Player} (login : x.player = some player) :
    x.added? = some (.notification Route.userAdded [x.extendedData, user player]) := by
  rw [Session.added?, login]
  rfl

theorem sound_added {x : Session} {player : Player}
    (fits : Record.sizeAll [x.extendedData, user player] ≤ maxLength) :
    ∀ r ∈ [x.extendedData, user player], r.Sound := by
  have part := (Record.size_le_sizeAll (List.mem_cons_of_mem x.extendedData
    (List.mem_singleton_self (user player)))).trans fits
  simp only [List.forall_mem_cons]
  exact ⟨sound_extendedData x, sound_user part, List.forall_mem_nil _⟩

theorem depth_added_le (x : Session) (player : Player) :
    Record.depthAll [x.extendedData, user player] ≤ maxDepth := by
  refine (Record.depthAll_le_iff (n := 4)).2 ?_ |>.trans (by decide)
  simp only [List.forall_mem_cons]
  exact ⟨depth_extendedData_le x, Nat.le_of_ble_eq_true rfl, List.forall_mem_nil _⟩

/-- A member is introduced to the members of its game. -/
theorem news?_added {x : Session} {player : Player} {seat : Seat} {p : Packet}
    (added : x.added? = some p) (login : x.player = some player) (seated : x.seat = some seat)
    (fits : p.contents.length ≤ maxLength) : p.news? seat.game = some (.joined player.id) := by
  rw [added?_eq login, Option.some.injEq] at added
  subst added
  rw [news?_of_fits fits sound_added (depth_added_le x player)]
  have listed := memberships_extendedData seated [user player]
  have found : Content.group? [x.extendedData, user player] Field.user =
      some (.mk false (userFields player)) := rfl
  have id : Content.uint32? (userFields player) Field.id = some player.id :=
    Content.uint32?_nat rfl
  rw [Content.news?, if_neg (by decide), if_pos rfl, Content.newcomer?, listed, found]
  simp only [List.mem_singleton, guard_true, Option.bind_eq_bind, Option.pure_def,
    Option.bind_some, Group.fields, id, Option.map_some]

/-! ### News of the whole game -/

/-- The fields of a participant apart from its addresses. -/
theorem field?_participant (i : GameId) (p : Participant) {label : Label}
    (other : label ≠ Field.pnet) :
    Content.field? (participant i p) label = Content.field?
      [.blob Field.blob [], .nat Field.gid i.toNat, .nat Field.loc Session.defaultLocale,
        .string Field.name p.member.player.name, .nat Field.pid p.member.player.id.toNat,
        .nat Field.sid p.member.slot, .nat Field.stat 0,
        .nat Field.uid p.member.session.toNat] label := by
  have skipped : decide ((p.network.record Field.pnet).label = label) = false := by
    rw [Network.label_record]
    exact decide_eq_false other.symm
  simp only [Content.field?, participant, List.find?_cons, skipped]

theorem sound_participant (i : GameId) {p : Participant}
    (fits : Record.sizeAll (participant i p) ≤ maxLength) :
    (Group.mk false (participant i p)).Sound := by
  have name : (Record.string Field.name p.member.player.name).size ≤
      Record.sizeAll (participant i p) := Record.size_le_sizeAll (by simp [participant])
  refine Group.sound_mk ?_ ?_
  · show ∀ l ∈ [Field.blob, Field.gid, Field.loc, Field.name, Field.pid,
      (p.network.record Field.pnet).label, Field.sid, Field.stat, Field.uid], 16 ≤ l.first.val
    rw [Network.label_record]
    decide
  · simp only [participant, List.forall_mem_cons]
    exact ⟨Nat.zero_le _, trivial, trivial, Record.sound_string (name.trans fits), trivial,
      p.network.sound_record _, trivial, trivial, trivial, List.forall_mem_nil _⟩

theorem depth_participant_le (i : GameId) (p : Participant) :
    (Group.mk false (participant i p)).depth ≤ 4 := by
  refine Group.depth_mk_le ?_
  simp only [participant, List.forall_mem_cons]
  exact ⟨Nat.zero_le _, Nat.zero_le _, Nat.zero_le _, Nat.zero_le _, Nat.zero_le _,
    p.network.depth_record_le _, Nat.zero_le _, Nat.zero_le _, Nat.zero_le _, List.forall_mem_nil _⟩

def gameFields (setup : GameSetup) : Content :=
  [.list Field.admn (.varints (administrators setup)),
    .attributes Field.attr setup.attributes,
    .varintList Field.cap [Int64.ofNat gameCapacity, 0], .nat Field.gid setup.game.toNat,
    .string Field.gnam setup.host.member.player.name,
    .nat Field.gset setup.setting.toNat, .nat Field.gsta setup.state.toNat,
    setup.host.network.record Field.hnet,
    .group Field.host
      [.nat Field.hpid setup.host.member.player.id.toNat, .nat Field.hslt setup.host.member.slot]]

def participants (setup : GameSetup) : Items :=
  .groups (setup.members.map fun p => .mk false (participant setup.game p))

theorem gameSetup_eq (setup : GameSetup) (context : JoinContext) :
    gameSetup setup context = .notification Route.gameSetup
      [.group Field.game (gameFields setup), .list Field.pros (participants setup),
        setupReason setup context] := rfl

theorem sound_gameFields {setup : GameSetup}
    (fits : Record.sizeAll (gameFields setup) ≤ maxLength) :
    (Record.group Field.game (gameFields setup)).Sound := by
  have part {r : Record} (hr : r ∈ gameFields setup) : r.size ≤ maxLength :=
    (Record.size_le_sizeAll hr).trans fits
  refine Group.sound_mk ?_ ?_
  · show ∀ l ∈ [Field.admn, Field.attr, Field.cap, Field.gid, Field.gnam, Field.gset, Field.gsta,
      (setup.host.network.record Field.hnet).label, Field.host], 16 ≤ l.first.val
    rw [Network.label_record]
    decide
  · intro r hr
    have part := part hr
    simp only [gameFields, List.mem_cons, List.not_mem_nil, or_false] at hr
    rcases hr with rfl | rfl | rfl | rfl | rfl | rfl | rfl | rfl | rfl
    · exact Record.sound_varints part
    · exact Record.sound_attributes part
    · exact Nat.le_of_ble_eq_true rfl
    · trivial
    · exact Record.sound_string part
    · trivial
    · trivial
    · exact setup.host.network.sound_record _
    · refine Group.sound_mk ?_ ?_
      · show ∀ l ∈ [Field.hpid, Field.hslt], 16 ≤ l.first.val
        decide
      · simp only [List.forall_mem_cons]
        exact ⟨trivial, trivial, List.forall_mem_nil _⟩

theorem sound_setupReason (setup : GameSetup) (context : JoinContext) :
    (setupReason setup context).Sound := by
  cases context with
  | created =>
    refine Group.sound_mk (show ∀ l ∈ [Field.dctx], 16 ≤ l.first.val by decide) ?_
    simp only [List.forall_mem_cons]
    exact ⟨trivial, List.forall_mem_nil _⟩
  | matchmaking =>
    refine Group.sound_mk
      (show ∀ l ∈ [Field.msid, Field.usid], 16 ≤ l.first.val by decide) ?_
    simp only [List.forall_mem_cons]
    exact ⟨trivial, trivial, List.forall_mem_nil _⟩

theorem sound_setup {setup : GameSetup} {context : JoinContext}
    (fits : Record.sizeAll [.group Field.game (gameFields setup),
      .list Field.pros (participants setup), setupReason setup context] ≤ maxLength) :
    ∀ r ∈ [Record.group Field.game (gameFields setup), .list Field.pros (participants setup),
      setupReason setup context], r.Sound := by
  have part {r : Record} (hr : r ∈ [Record.group Field.game (gameFields setup),
      .list Field.pros (participants setup), setupReason setup context]) : r.size ≤ maxLength :=
    (Record.size_le_sizeAll hr).trans fits
  have whole : (Record.group Field.game (gameFields setup)).size =
      Record.sizeAll (gameFields setup) + 5 := rfl
  have game := part List.mem_cons_self
  simp only [List.forall_mem_cons]
  refine ⟨sound_gameFields (by omega), ?_, sound_setupReason setup context, List.forall_mem_nil _⟩
  refine Record.sound_groups (part (List.mem_cons_of_mem _ List.mem_cons_self)) ?_
  intro g hg fits
  obtain ⟨p, -, rfl⟩ := List.mem_map.1 hg
  exact sound_participant setup.game ((Nat.le_add_right _ 1).trans fits)

theorem depth_setup_le (setup : GameSetup) (context : JoinContext) :
    Record.depthAll [.group Field.game (gameFields setup), .list Field.pros (participants setup),
      setupReason setup context] ≤ maxDepth := by
  refine (Record.depthAll_le_iff (n := 4)).2 ?_ |>.trans (by decide)
  simp only [List.forall_mem_cons]
  refine ⟨Group.depth_mk_le ?_, ?_, ?_, List.forall_mem_nil _⟩
  · simp only [gameFields, List.forall_mem_cons]
    exact ⟨Nat.zero_le _, Nat.zero_le _, Nat.zero_le _, Nat.zero_le _, Nat.zero_le _,
      Nat.zero_le _, Nat.zero_le _, setup.host.network.depth_record_le _,
      Nat.le_of_ble_eq_true rfl, List.forall_mem_nil _⟩
  · refine Group.depthAll_le_iff.2 fun g hg => ?_
    obtain ⟨p, -, rfl⟩ := List.mem_map.1 hg
    exact depth_participant_le setup.game p
  · cases context <;> exact Nat.le_of_ble_eq_true rfl

theorem participants?_eq (setup : GameSetup) (game reason : Record)
    (other : game.label ≠ Field.pros) :
    Content.participants? [game, .list Field.pros (participants setup), reason] =
      some (setup.members.map (·.member.player.id)) := by
  have listed : Content.items? [game, .list Field.pros (participants setup), reason] Field.pros =
      some (participants setup) := by
    rw [Content.items?, Content.field?, List.find?_cons_of_neg (by simpa using other)]
    rfl
  rw [Content.participants?, listed]
  dsimp only [participants]
  induction setup.members with
  | nil => rfl
  | cons p ps ih =>
    have first : Content.uint32? (participant setup.game p) Field.pid =
        some p.member.player.id := Content.uint32?_nat rfl
    rw [List.map_cons, List.mapM_cons, ih]
    dsimp only [Group.fields]
    rw [first]
    rfl

/-- A setup notice says everything. -/
theorem news?_gameSetup {setup : GameSetup} {context : JoinContext}
    (fits : (gameSetup setup context).contents.length ≤ maxLength) :
    (gameSetup setup context).news? setup.game = some (.setup
      ⟨(setup.members.map (·.member.player.id)).toFinset, setup.attributes, setup.state,
        setup.setting⟩) := by
  rw [gameSetup_eq] at fits ⊢
  rw [news?_of_fits fits sound_setup (depth_setup_le setup context)]
  have players := participants?_eq setup (.group Field.game (gameFields setup))
    (setupReason setup context) (show Field.game ≠ Field.pros by decide)
  have found : Content.group? [.group Field.game (gameFields setup),
      .list Field.pros (participants setup), setupReason setup context] Field.game =
        some (.mk false (gameFields setup)) := rfl
  have about : Content.isAbout (gameFields setup) setup.game = true := Content.isAbout_nat rfl
  have attributes : Content.attributes? (gameFields setup) Field.attr = some setup.attributes :=
    Content.attributes?_attributes rfl
  have state : Content.uint16? (gameFields setup) Field.gsta = some setup.state :=
    Content.uint16?_nat rfl
  have setting : Content.uint16? (gameFields setup) Field.gset = some setup.setting :=
    Content.uint16?_nat rfl
  rw [Content.news?, if_pos rfl, Content.setup?, found]
  simp only [Option.bind_eq_bind, Option.bind_some, Option.pure_def, Group.fields, about,
    guard_true, players, attributes, state, setting, Option.map_some]

/-! ### No news -/

def newsRoutes : List Route :=
  [Route.gameSetup, Route.userAdded, Route.playerRemoved, Route.gameAttributesChanged,
    Route.gameStateChanged, Route.gameSettingsChanged]

theorem news?_of_route {p : Packet} (quiet : p.header.route ∉ newsRoutes) (i : GameId) :
    p.news? i = none := by
  simp only [newsRoutes, List.mem_cons, List.not_mem_nil, or_false, not_or] at quiet
  obtain ⟨setup, added, removed, attributes, state, setting⟩ := quiet
  rw [Packet.news?]
  split
  · simp only [Content.news?, setup, added, removed, attributes, state, setting, if_false,
      ite_self]
  · rfl

end Notice

end Lobby
