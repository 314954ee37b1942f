import Lobby.Proofs.Game.News
import Lobby.Proofs.Request.Checks
import Lobby.Proofs.Server.Deeds

/-!
# Addresses on the way

The addresses of a session are written into a union, and the reader of a report takes them out of
one.  `Content.Reports` says which addresses content reports, without reading it; the reader takes
exactly these (`Content.network?_eq_some_iff`), and among them are those that were written
(`Content.network?_record`).

Notices show the addresses of sessions in three places: the data of a user, the data of a member,
and the data of a game.  `Packet.Shows` says of which session these are, and
**what a notice shows is read back from its bytes** (`Packet.Shows.shown?_eq`).
-/

namespace Lobby

/-! ## Addresses in a union -/

/-- The first group with a label has the numbers of the endpoint. -/
def Endpoint.Stands (e : Endpoint) (pair : Content) (label : Label) : Prop :=
  ∃ group ip port, pair.group? label = some group ∧
    Content.varint? group.fields Field.ip = some ip ∧ ip.toInt = e.ip.toNat ∧
    Content.varint? group.fields Field.port = some port ∧ port.toInt = e.port.toNat

namespace Content

variable (content : Content)

/-- Content reports addresses if its first record for them is a union: an absent one for addresses
that are not known, or one of a group that is labelled as a value. -/
inductive Reports : Network → Prop
  | absent {r : Record} (found : content.field? Field.addr = some r) (unset : r.value = .unset) :
      Reports .unknown
  | present {r : Record} {d : Discriminant} {pair : Group} {n : Network}
      (found : content.field? Field.addr = some r)
      (value : r.value = .union d (.mk Field.valu (.group pair)))
      (internal : n.internal.Stands pair.fields Field.inip)
      (external : n.external.Stands pair.fields Field.exip) : Reports n

def network? (label : Label) : Option Network :=
  (content.field? label).bind fun r => r.value.toUnion?.bind fun union =>
    (Network.read union).toOption

end Content

/-! ### Reading addresses -/

namespace Content

variable {content : Content} {label : Label}

theorem requireBelow_eq_ok_iff {limit n : Nat} : content.requireBelow limit label = .ok n ↔
    n < limit ∧ ∃ v, content.varint? label = some v ∧ v.toInt = n := by
  rw [requireBelow, requireVarint]
  constructor
  · intro h
    obtain ⟨v, required, below⟩ := bind_eq_ok h
    split at required
    case h_2 => cases required
    next found =>
    cases required
    split at below
    case isFalse => cases below
    next range =>
    cases below
    exact ⟨by omega, v, found, (Int.toNat_of_nonneg range.1).symm⟩
  · rintro ⟨small, v, found, value⟩
    rw [found]
    show (if 0 ≤ v.toInt ∧ v.toInt < limit then Except.ok v.toInt.toNat else .error label) = _
    rw [if_pos (by omega), value, Int.toNat_natCast]

theorem requireUInt32_eq_ok_iff {n : UInt32} : content.requireUInt32 label = .ok n ↔
    ∃ v, content.varint? label = some v ∧ v.toInt = n.toNat := by
  constructor
  · exact varint?_of_require
  · intro found
    rw [requireUInt32, requireBelow_eq_ok_iff.2 ⟨n.toNat_lt, found⟩]
    exact congrArg Except.ok UInt32.ofNat_toNat

theorem requireUInt16_eq_ok_iff {n : UInt16} : content.requireUInt16 label = .ok n ↔
    ∃ v, content.varint? label = some v ∧ v.toInt = n.toNat := by
  constructor
  · intro h
    obtain ⟨k, below, same⟩ := bind_eq_ok h
    cases same
    obtain ⟨small, found⟩ := requireBelow_eq_ok_iff.1 below
    rwa [UInt16.toNat_ofNat_of_lt' small]
  · intro found
    rw [requireUInt16, requireBelow_eq_ok_iff.2 ⟨n.toNat_lt, found⟩]
    exact congrArg Except.ok UInt16.ofNat_toNat

theorem requireGroup_eq_ok_iff {g : Group} :
    content.requireGroup label = .ok g ↔ content.group? label = some g := by
  rw [requireGroup]
  split
  · next found => rw [found, Except.ok.injEq, Option.some.injEq]
  · next missing => simp [missing]

end Content

namespace Endpoint

/-- An endpoint is read where its numbers stand, and nowhere else. -/
theorem read_eq_ok_iff {pair : Content} {label : Label} {e : Endpoint} :
    read pair label = .ok e ↔ e.Stands pair label := by
  constructor
  · intro h
    obtain ⟨group, required, h⟩ := bind_eq_ok h
    obtain ⟨ip, first, h⟩ := bind_eq_ok h
    obtain ⟨port, second, h⟩ := bind_eq_ok h
    cases h
    obtain ⟨v, ip, value⟩ := Content.requireUInt32_eq_ok_iff.1 first
    obtain ⟨w, port, value'⟩ := Content.requireUInt16_eq_ok_iff.1 second
    exact ⟨group, v, w, Content.requireGroup_eq_ok_iff.1 required, ip, value, port, value'⟩
  · rintro ⟨group, v, w, found, ip, value, port, value'⟩
    rw [read, Content.requireGroup_eq_ok_iff.2 found]
    show (Content.requireUInt32 group.fields Field.ip >>= fun ip =>
      Content.requireUInt16 group.fields Field.port >>= fun port =>
        pure (⟨ip, port⟩ : Endpoint)) = .ok e
    rw [Content.requireUInt32_eq_ok_iff.2 ⟨v, ip, value⟩,
      Content.requireUInt16_eq_ok_iff.2 ⟨w, port, value'⟩]
    rfl

/-- An endpoint stands where it was written. -/
theorem stands_record {pair : Content} {label : Label} {e : Endpoint}
    (found : pair.field? label = some (e.record label)) : e.Stands pair label := by
  refine ⟨.mk false [.nat Field.ip e.ip.toNat, .nat Field.port e.port.toNat],
    Int64.ofNat e.ip.toNat, Int64.ofNat e.port.toNat, ?_, rfl, ?_, rfl, ?_⟩
  · rw [Content.group?, found]
    rfl
  · exact Int64.toInt_ofNat_of_lt (Nat.lt_trans e.ip.toNat_lt (by decide))
  · exact Int64.toInt_ofNat_of_lt (Nat.lt_trans e.port.toNat_lt (by decide))

end Endpoint

theorem Network.read_eq_ok_iff {union : Option (Discriminant × Record)} {n : Network} :
    read union = .ok n ↔ (union = none ∧ n = .unknown) ∨
      ∃ d pair, union = some (d, .mk Field.valu (.group pair)) ∧
        n.internal.Stands pair.fields Field.inip ∧ n.external.Stands pair.fields Field.exip := by
  constructor
  · intro h
    rw [read.eq_def] at h
    split at h
    · cases h
      exact .inl ⟨rfl, rfl⟩
    · next d label pair =>
      split at h
      · next here =>
        subst here
        obtain ⟨internal, first, h⟩ := bind_eq_ok h
        obtain ⟨external, second, h⟩ := bind_eq_ok h
        cases h
        exact .inr ⟨d, pair, rfl, Endpoint.read_eq_ok_iff.1 first,
          Endpoint.read_eq_ok_iff.1 second⟩
      · cases h
    · cases h
  · rintro (⟨rfl, rfl⟩ | ⟨d, pair, rfl, internal, external⟩)
    · rfl
    · rw [read, if_pos rfl, Endpoint.read_eq_ok_iff.2 internal]
      show (Endpoint.read pair.fields Field.exip >>= fun external =>
        pure (⟨n.internal, external⟩ : Network)) = .ok n
      rw [Endpoint.read_eq_ok_iff.2 external]
      rfl

namespace Value

theorem toUnion?_eq_none_iff {v : Value} : v.toUnion? = some none ↔ v = .unset := by
  cases v <;> simp [toUnion?]

theorem toUnion?_eq_some_iff {v : Value} {d : Discriminant} {r : Record} :
    v.toUnion? = some (some (d, r)) ↔ v = .union d r := by
  cases v <;> simp [toUnion?]

end Value

namespace Content

variable {content : Content} {n : Network}

theorem network?_eq_some {label : Label} : content.network? label = some n ↔
    ∃ union, ((content.field? label).bind fun r => r.value.toUnion?) = some union ∧
      Network.read union = .ok n := by
  rw [network?]
  cases content.field? label with
  | none => simp
  | some r =>
    simp only [Option.bind_some]
    cases r.value.toUnion? with
    | none => simp
    | some union =>
      cases read : Network.read union with
      | error cause => simp [Except.toOption, read]
      | ok m => simp [Except.toOption, read]

/-- **The reader takes the addresses that content reports, and no others.** -/
theorem network?_eq_some_iff : content.network? Field.addr = some n ↔ content.Reports n := by
  rw [network?_eq_some]
  constructor
  · rintro ⟨union, found, read⟩
    obtain ⟨r, field, value⟩ := Option.bind_eq_some_iff.1 found
    rcases Network.read_eq_ok_iff.1 read with ⟨rfl, rfl⟩ | ⟨d, pair, rfl, internal, external⟩
    · exact .absent field (Value.toUnion?_eq_none_iff.1 value)
    · exact .present field (Value.toUnion?_eq_some_iff.1 value) internal external
  · rintro (⟨field, value⟩ | ⟨field, value, internal, external⟩)
    · rw [field, Option.bind_some, value]
      exact ⟨none, rfl, rfl⟩
    · rw [field, Option.bind_some, value]
      exact ⟨_, rfl, Network.read_eq_ok_iff.2 (.inr ⟨_, _, rfl, internal, external⟩)⟩

/-- Addresses are read where they were written: unknown ones were written as absent. -/
theorem network?_record {label : Label} (found : content.field? label = some (n.record label)) :
    content.network? label = some n := by
  rw [network?_eq_some, found, Option.bind_some, Network.record]
  by_cases unknown : n = .unknown
  · rw [if_pos unknown]
    exact ⟨none, rfl, congrArg Except.ok unknown.symm⟩
  · rw [if_neg unknown]
    refine ⟨_, rfl, Network.read_eq_ok_iff.2 (.inr ⟨_, _, rfl, ?_, ?_⟩)⟩
    · exact Endpoint.stands_record rfl
    · exact Endpoint.stands_record rfl

end Content

/-! ## Addresses in notices -/

/-- Where a notice shows the addresses of a session: in the data of a user, in that of a member, or
in that of a game for its host. -/
inductive Place where
  | user
  | member (session : SessionId)
  | host

namespace Content

variable (content : Content)

/-- The data of members: of the one that is expected, or of a whole roster. -/
def memberData : List Group :=
  match content.group? Field.pdat with
  | some data => [data]
  | none =>
    match content.items? Field.pros with
    | some (.groups gs) => gs
    | _ => []

def shown? : Place → Option Network
  | .user => (content.group? Field.data).bind fun data => Content.network? data.fields Field.addr
  | .member session =>
    (content.memberData.find? fun data =>
      Content.uint32? data.fields Field.uid == some session).bind fun data =>
        Content.network? data.fields Field.pnet
  | .host => (content.group? Field.game).bind fun game => Content.network? game.fields Field.hnet

end Content

/-- The addresses that the bytes of a packet show in a place. -/
def Packet.shown? (p : Packet) (place : Place) : Option Network :=
  match decodeAll p.contents with
  | .ok content => Content.shown? content place
  | .error _ => none

/-- A notice is made for some sessions from what they look like, and shows the addresses of each in
a place of its own. -/
inductive Packet.Shows (look : SessionId → Session) : SessionId → Place → Packet → Prop
  | added {id : SessionId} {p : Packet} (made : (look id).added? = some p) :
      Shows look id .user p
  | updated {id : SessionId} {p : Packet} (made : (look id).updated? = some p) :
      Shows look id .user p
  | joining (i : GameId) (m : Member) :
      Shows look m.session (.member m.session)
        (Notice.playerJoining i ⟨m, (look m.session).network⟩)
  | member {g : Game} (host : Member) (context : JoinContext) {m : Member}
      (listed : m ∈ g.roster) :
      Shows look m.session (.member m.session)
        (Notice.gameSetup (g.setup (fun id => (look id).network) host) context)
  | host (g : Game) (host : Member) (context : JoinContext) :
      Shows look host.session .host
        (Notice.gameSetup (g.setup (fun id => (look id).network) host) context)

namespace Notice

variable {x : Session} {p : Packet}

theorem shown?_extendedData (x : Session) (others : Content) :
    Content.shown? (x.extendedData :: others) .user = some x.network :=
  Content.network?_record (List.find?_cons_of_pos (by simp))

theorem shown?_added (made : x.added? = some p) (fits : p.contents.length ≤ maxLength) :
    p.shown? .user = some x.network := by
  obtain ⟨player, login, -⟩ := Option.map_eq_some_iff.1 made
  rw [added?_eq login, Option.some.injEq] at made
  subst made
  rw [Packet.shown?, decodeAll_of_fits fits sound_added (depth_added_le x player)]
  exact shown?_extendedData x _

theorem sound_updated (x : Session) (player : Player) :
    ∀ r ∈ [x.extendedData, .nat Field.flgs Session.presentFlags,
      .nat Field.id player.id.toNat], r.Sound := by
  simp only [List.forall_mem_cons]
  exact ⟨sound_extendedData x, trivial, trivial, List.forall_mem_nil _⟩

theorem depth_updated_le (x : Session) (player : Player) :
    Record.depthAll [x.extendedData, .nat Field.flgs Session.presentFlags,
      .nat Field.id player.id.toNat] ≤ maxDepth := by
  refine (Record.depthAll_le_iff (n := 4)).2 ?_ |>.trans (by decide)
  simp only [List.forall_mem_cons]
  exact ⟨depth_extendedData_le x, Nat.zero_le _, Nat.zero_le _, List.forall_mem_nil _⟩

theorem shown?_updated (made : x.updated? = some p) : p.shown? .user = some x.network := by
  obtain ⟨player, login, rfl⟩ := Option.map_eq_some_iff.1 made
  rw [Packet.shown?, decodeAll_notification (sound_updated x player) (depth_updated_le x player)]
  exact shown?_extendedData x _

/-- The fields of a participant name its session. -/
theorem uint32?_participant (i : GameId) (p : Participant) :
    Content.uint32? (participant i p) Field.uid = some p.member.session :=
  Content.uint32?_nat (field?_participant i p (by decide))

theorem network?_participant (i : GameId) (p : Participant) :
    Content.network? (participant i p) Field.pnet = some p.network := by
  refine Content.network?_record ?_
  have here : decide ((p.network.record Field.pnet).label = Field.pnet) = true := by
    rw [Network.label_record]
    decide
  simp only [Content.field?, participant, List.find?_cons, here]
  rfl

theorem sound_playerJoining {i : GameId} {p : Participant}
    (fits : Record.sizeAll [.nat Field.gid i.toNat, .group Field.pdat (participant i p)] ≤
      maxLength) :
    ∀ r ∈ [Record.nat Field.gid i.toNat, .group Field.pdat (participant i p)], r.Sound := by
  have whole : (Record.group Field.pdat (participant i p)).size =
      Record.sizeAll (participant i p) + 5 := rfl
  have part := (Record.size_le_sizeAll (r := .group Field.pdat (participant i p))
    (List.mem_cons_of_mem _ List.mem_cons_self)).trans fits
  simp only [List.forall_mem_cons]
  exact ⟨trivial, sound_participant i (by omega), List.forall_mem_nil _⟩

theorem depth_playerJoining_le (i : GameId) (p : Participant) :
    Record.depthAll [.nat Field.gid i.toNat, .group Field.pdat (participant i p)] ≤ maxDepth := by
  refine (Record.depthAll_le_iff (n := 4)).2 ?_ |>.trans (by decide)
  simp only [List.forall_mem_cons]
  exact ⟨Nat.zero_le _, depth_participant_le i p, List.forall_mem_nil _⟩

theorem shown?_playerJoining (i : GameId) (p : Participant)
    (fits : (playerJoining i p).contents.length ≤ maxLength) :
    (playerJoining i p).shown? (.member p.member.session) = some p.network := by
  rw [playerJoining] at fits ⊢
  rw [Packet.shown?, decodeAll_of_fits fits sound_playerJoining (depth_playerJoining_le i p)]
  show (([.mk false (participant i p)] : List Group).find? fun data =>
    Content.uint32? data.fields Field.uid == some p.member.session).bind _ = _
  rw [List.find?_cons_of_pos]
  · exact network?_participant i p
  · rw [Group.fields, uint32?_participant]
    exact beq_self_eq_true _

/-- Among participants the first one of a session has the addresses of that session, as all of them
do. -/
theorem shown?_participants (i : GameId) (network : SessionId → Network) {roster : List Member}
    {m : Member} (listed : m ∈ roster) :
    (((roster.map fun o => (⟨o, network o.session⟩ : Participant)).map fun p =>
        Group.mk false (participant i p)).find? fun data =>
          Content.uint32? data.fields Field.uid == some m.session).bind
      (fun data => Content.network? data.fields Field.pnet) = some (network m.session) := by
  induction roster with
  | nil => cases listed
  | cons first rest ih =>
    rw [List.map_cons, List.map_cons, List.find?_cons]
    dsimp only [Group.fields]
    rw [uint32?_participant]
    by_cases here : first.session = m.session
    · simp only [here, beq_self_eq_true, Option.bind_some]
      exact network?_participant i ⟨first, network m.session⟩
    · have other : (some first.session == some m.session) = false := by simpa using here
      simp only [other]
      refine ih ((List.mem_cons.1 listed).resolve_left ?_)
      rintro rfl
      exact here rfl

theorem memberData_setup (setup : GameSetup) (context : JoinContext) :
    Content.memberData [.group Field.game (gameFields setup),
        .list Field.pros (participants setup), setupReason setup context] =
      setup.members.map fun p => .mk false (participant setup.game p) := by
  cases context <;> rfl

variable {g : Game} {host : Member} {context : JoinContext} (network : SessionId → Network)

theorem decodeAll_gameSetup {setup : GameSetup}
    (fits : (gameSetup setup context).contents.length ≤ maxLength) :
    decodeAll (gameSetup setup context).contents = .ok
      [.group Field.game (gameFields setup), .list Field.pros (participants setup),
        setupReason setup context] := by
  rw [gameSetup_eq] at fits ⊢
  exact decodeAll_of_fits fits sound_setup (depth_setup_le setup context)

theorem shown?_gameSetup_member
    (fits : (gameSetup (g.setup network host) context).contents.length ≤ maxLength)
    {m : Member} (listed : m ∈ g.roster) :
    (gameSetup (g.setup network host) context).shown? (.member m.session) =
      some (network m.session) := by
  rw [Packet.shown?, decodeAll_gameSetup fits]
  dsimp only [Content.shown?]
  rw [memberData_setup]
  exact shown?_participants g.id network listed

theorem shown?_gameSetup_host
    (fits : (gameSetup (g.setup network host) context).contents.length ≤ maxLength) :
    (gameSetup (g.setup network host) context).shown? .host = some (network host.session) := by
  rw [Packet.shown?, decodeAll_gameSetup fits]
  show Content.network? (gameFields (g.setup network host)) Field.hnet = _
  refine Content.network?_record ?_
  have here : decide (((network host.session).record Field.hnet).label = Field.hnet) = true := by
    rw [Network.label_record]
    decide
  simp only [Content.field?, gameFields, Game.setup, List.find?_cons, here]
  rfl

end Notice

/-- **What a notice shows of a session is read back from its bytes**, if they fit into memory. -/
theorem Packet.Shows.shown?_eq {look : SessionId → Session} {id : SessionId} {place : Place}
    {p : Packet} (h : p.Shows look id place) (fits : p.contents.length ≤ maxLength) :
    p.shown? place = some (look id).network := by
  cases h with
  | added made => exact Notice.shown?_added made fits
  | updated made => exact Notice.shown?_updated made
  | joining i m => exact Notice.shown?_playerJoining i ⟨m, (look m.session).network⟩ fits
  | member host context listed =>
    exact Notice.shown?_gameSetup_member (fun id => (look id).network) fits listed
  | host g host context =>
    exact Notice.shown?_gameSetup_host (fun id => (look id).network) fits

end Lobby
