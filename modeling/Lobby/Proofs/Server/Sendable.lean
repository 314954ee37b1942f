import Lobby.Config.Validation
import Lobby.Connection
import Lobby.Proofs.Packet.RoundTrip
import Lobby.Proofs.Request.Replies

/-!
# What can be sent

A packet that a server emits can be written on every connection, whatever limit the configuration
sets, unless it bears attributes that are nearly as large as the limit: `Server.encode_run`.

Nothing keeps attributes from growing that far.  A request that a connection accepts can create a
game whose setup notice it cannot write, and then the connection ends: `Server.encode_run_large`.
-/

namespace Lobby

theorem eq_nil_of_firstFault {tests : List (Bool × String)} (none : firstFault tests = []) :
    ∀ t ∈ tests, t.1 = false := by
  rw [firstFault, Option.toList_eq_nil_iff, Option.map_eq_none_iff, List.find?_eq_none] at none
  simpa using none

/-- A configuration without faults allows every content of sixteen bits of length, and none that a
header cannot express. -/
theorem Config.limit_of_validate {c : Config} (valid : c.validate = .ok ()) :
    leastLimit ≤ c.server.maxPacketSize.toNat ∧
      c.server.maxPacketSize.toNat ≤ maxExpressible := by
  have faultless : c.faults = [] := by
    rw [validate] at valid
    split at valid
    · next empty => exact List.isEmpty_iff.1 empty
    · cases valid
  simp only [faults, Limits.faults, List.append_eq_nil_iff] at faultless
  have packet := eq_nil_of_firstFault faultless.1.1.2
  simp only [List.forall_mem_cons] at packet
  obtain ⟨low, high, -⟩ := packet
  have low := Nat.le_of_not_lt (of_decide_eq_false low)
  exact ⟨low, Nat.le_of_not_lt (of_decide_eq_false high)⟩

/-- If the first packet that is queued for a client is above the limit, the next request of the
client ends its connection. -/
theorem Connection.Work.answer_of_lt {router : Router} {limit : Nat} {w : Work} {request p : Packet}
    (ps : List Packet)
    (heard : ((router.dispatch
        (w.server.count fun m => m.packetReceived (UInt64.ofNat request.frameSize))
        w.connection.session request).2.session w.connection.session).heard = p :: ps)
    (large : limit < p.contents.length) :
    (w.answer router limit request).1 = .error (.oversized p.contents.length) := by
  have tooLarge : ¬p.Fits limit := fun fits => absurd fits.1 (Nat.not_le.2 large)
  have first (ps : List Packet) (w : Work) :
      (sendRound limit (p :: ps) w).1 = .error (.oversized p.contents.length) := by
    rw [sendRound, sendAll, send, Frame.encode_of_not_fits tooLarge]
  dsimp only [answer]
  generalize router.dispatch _ _ request = result at heard ⊢
  obtain ⟨replies, after⟩ := result
  show (sendRound limit ((after.session w.connection.session).heard ++ replies) _).1 = _
  rw [heard]
  exact first _ _

namespace Server

/-- A session has heard the packet, or it is among the replies to a request that the session might
make. -/
def Emits (s : Server) (p : Packet) : Prop :=
  ∃ id, p ∈ (s.session id).heard ∨ (s.findSession? id).isSome = true ∧
    ∃ request, p ∈ (Router.standard.dispatch s id request).1

theorem modest_run {store : Store} {events : List Event} (feasible : (start store).Feasible events)
    (modest : store.Modest) (restocked : ∀ t, .restock t ∈ events → t.Modest) :
    ((start store).run events).stage.Modest := by
  refine keep_run (fun e he _ _ _ h deed => h.deed ?_ deed) (coherent_start store) feasible
    ⟨modest, nofun, nofun, nofun⟩
  rintro t rfl
  exact restocked t he

/-- **Whatever a server emits can be sent, but for large attributes.** -/
theorem encode_run {c : Config} (valid : c.validate = .ok ()) (store : Store)
    (modest : store.Modest) (events : List Event)
    (restocked : ∀ t, .restock t ∈ events → t.Modest) (feasible : (start store).Feasible events)
    {p : Packet} (emitted : ((start store).run events).Emits p) :
    let limit := c.server.maxPacketSize.toNat
    (∃ frame, Frame.encode limit p [] = .ok frame) ∨
      ∃ a, p.Bears a ∧ limit < overhead + (Record.attributes Field.attr a).size := by
  intro limit
  obtain ⟨least, expressible⟩ := Config.limit_of_validate valid
  have modest := modest_run feasible modest restocked
  have moderate : p.Moderate := by
    obtain ⟨id, heard | ⟨there, request, reply⟩⟩ := emitted
    · exact modest.heard id p heard
    · exact Router.moderate_dispatch modest there request p reply
  have encodes (fits : p.contents.length ≤ limit) : ∃ frame, Frame.encode limit p [] = .ok frame :=
    ⟨_, Frame.encode_of_fits ⟨fits, fits.trans expressible⟩ []⟩
  rcases moderate with small | ⟨a, bears, size⟩
  · exact .inl (encodes (small.trans least))
  · by_cases fits : p.contents.length ≤ limit
    · exact .inl (encodes fits)
    · exact .inr ⟨a, bears, by omega⟩

/-- A player creates a game with a map. -/
theorem encode_run_map :
    let player : Player := ⟨1, "a@b"⟩
    let store : Store := ⟨.ofList [(1, ⟨player, "a@b", "word", "token"⟩)], ∅, ∅, 2, true⟩
    let login : Packet :=
      .request Route.login 0 [.string Field.mail "a@b", .string Field.pass "word"]
    let attributes : Attributes := .ofList [("ME3map", "map01")]
    let create : Packet := .request Route.createGame 0 [.attributes Field.attr attributes]
    let events : List Event := [.connect none, .request 1 login, .request 1 create]
    let s := (start store).run events
    let limit := Config.standard.server.maxPacketSize.toNat
    Config.standard.validate = .ok () ∧ store.Modest ∧ (start store).Feasible events ∧
      ∃ p ∈ (s.session 1).heard, p.header.route = Route.gameSetup ∧
        ((∃ frame, Frame.encode limit p [] = .ok frame) ∨
          ∃ a, p.Bears a ∧ limit < overhead + (Record.attributes Field.attr a).size) := by
  intro player store login attributes create events s limit
  have valid : Config.standard.validate = .ok () := if_pos (by decide +kernel)
  have modest : store.Modest := ⟨by decide +kernel, by decide +kernel⟩
  have restocked : ∀ t, .restock t ∈ events → t.Modest := by simp [events]
  have feasible : (start store).Feasible events :=
    ⟨by decide +kernel, by decide +kernel, by decide +kernel⟩
  have routes : (s.session 1).heard.map (·.header.route) = [Route.gameSetup] := by decide +kernel
  have listed : Route.gameSetup ∈ (s.session 1).heard.map (·.header.route) := by
    rw [routes]
    exact List.mem_singleton_self _
  obtain ⟨p, heard, route⟩ := List.mem_map.1 listed
  exact ⟨valid, modest, feasible, p, heard, route,
    encode_run valid store modest events restocked feasible ⟨1, .inl heard⟩⟩

/-- The creator of a game hears its setup notice, whatever map the game has, and its connection ends
if the notice is above the limit. -/
theorem heard_create (map : String) :
    let player : Player := ⟨1, "a@b"⟩
    let store : Store := ⟨.ofList [(1, ⟨player, "a@b", "word", "token"⟩)], ∅, ∅, 2, true⟩
    let login : Packet :=
      .request Route.login 0 [.string Field.mail "a@b", .string Field.pass "word"]
    let attributes : Attributes := .ofList [("ME3map", map)]
    let create : Packet := .request Route.createGame 0 [.attributes Field.attr attributes]
    let before := (start store).run [.connect none, .request 1 login]
    let setup := (Game.hosted 1 0x10000001 1 player attributes 0).setup (fun _ => .unknown)
      ⟨1, player, 0⟩
    let notice := Notice.gameSetup setup .created
    ((before.after (.request 1 create)).session 1).heard = [notice] ∧
      ∀ limit, limit < notice.contents.length →
        (Connection.Work.answer .standard limit ⟨.opened 1, before⟩ create).1 =
          .error (.oversized notice.contents.length) := by
  refine ⟨by rfl, fun limit large => ?_⟩
  refine Connection.Work.answer_of_lt [] ?_ large
  rfl

theorem textSize_map (map : String) :
    Record.textSize (.ofList [("ME3map", map)]) = 6 + (Bytes.ofString map).length := by
  show 6 + (Bytes.ofString map).length + 0 = _
  rfl

theorem length_ofString_replicate (n : Nat) :
    (Bytes.ofString (.ofList (List.replicate n 'x'))).length = n := by
  show (String.ofList (List.replicate n 'x')).utf8ByteSize = n
  induction n with
  | zero => rfl
  | succ n ih =>
    rw [List.replicate_succ, ← List.singleton_append, String.ofList_append,
      String.utf8ByteSize_append, ih]
    exact Nat.add_comm 1 n

/-- A player creates a game with a map of a very long name, in a request that the limit allows.  The
setup notice of the game is above the limit, so the connection of the player ends. -/
theorem encode_run_large :
    let player : Player := ⟨1, "a@b"⟩
    let store : Store := ⟨.ofList [(1, ⟨player, "a@b", "word", "token"⟩)], ∅, ∅, 2, true⟩
    let c : Config := ⟨{ Limits.standard with maxPacketSize := 0xffff }, .standard⟩
    let limit := c.server.maxPacketSize.toNat
    let login : Packet :=
      .request Route.login 0 [.string Field.mail "a@b", .string Field.pass "word"]
    let attributes : Attributes := .ofList [("ME3map", .ofList (List.replicate 65490 'x'))]
    let create : Packet := .request Route.createGame 0 [.attributes Field.attr attributes]
    let before := (start store).run [.connect none, .request 1 login]
    c.validate = .ok () ∧ store.Modest ∧
      (start store).Feasible [.connect none, .request 1 login, .request 1 create] ∧
      login.contents.length ≤ limit ∧ create.contents.length ≤ limit ∧
      (¬∀ p, (before.after (.request 1 create)).Emits p → p.contents.length ≤ limit) ∧
      ∃ n, (Connection.Work.answer .standard limit ⟨.opened 1, before⟩ create).1 =
        .error (.oversized n) := by
  intro player store c limit login attributes create before
  let setup : GameSetup := (Game.hosted 1 0x10000001 1 player attributes 0).setup
    (fun _ => .unknown) ⟨1, player, 0⟩
  have size : Record.textSize attributes = 65496 := by
    rw [textSize_map, length_ofString_replicate]
  have small : create.contents.length ≤ limit := by
    have part := Record.size_attributes_le_add Field.attr attributes
    have length : create.contents.length = Record.sizeAll [.attributes Field.attr attributes] :=
      length_encodeAll _
    rw [size] at part
    rw [length, Record.sizeAll_cons, Record.sizeAll_nil]
    exact part.trans (Nat.le_of_ble_eq_true rfl)
  have large : limit < (Notice.gameSetup setup .created).contents.length := by
    have whole := Notice.le_length_gameSetup setup .created
    have part := Record.textSize_le_size Field.attr attributes
    rw [size] at part
    exact Nat.lt_of_lt_of_le (Nat.lt_of_lt_of_le (by decide) (Nat.add_le_add_right part 45)) whole
  obtain ⟨heard, ended⟩ := heard_create (.ofList (List.replicate 65490 'x'))
  refine ⟨if_pos (by decide +kernel), ⟨by decide +kernel, by decide +kernel⟩,
    ⟨by decide +kernel, by decide +kernel, by decide +kernel⟩, by decide +kernel, small,
    fun all => ?_, _, ended limit large⟩
  exact absurd (all _ ⟨1, .inl (heard ▸ List.mem_singleton_self _)⟩) (Nat.not_le.2 large)

end Server

end Lobby
