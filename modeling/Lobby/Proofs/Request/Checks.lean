import Lobby.Proofs.SortedMap
import Lobby.Request.Router

/-!
# What a check has found

A check that passes says where everything it found came from: the account from the store, the rest
from the content of the request.  A number that it found is one the content holds in range.
-/

namespace Lobby

theorem bind_eq_ok {ε α β : Type} {first : Except ε α} {next : α → Except ε β} {b : β}
    (h : first >>= next = .ok b) : ∃ a, first = .ok a ∧ next a = .ok b := by
  cases first with
  | error cause => cases h
  | ok a => exact ⟨a, rfl, h⟩

/-! ### Numbers out of range -/

/-- The content has a number under a label, and it is not below a limit. -/
def Content.Exceeds (content : Content) (label : Label) (limit : Nat) : Prop :=
  ∃ n, content.varint? label = some n ∧ ¬(0 ≤ n.toInt ∧ n.toInt < limit)

namespace Content

variable {content : Content} {label : Label}

theorem not_exceeds_of_below {limit n : Nat} (h : content.requireBelow limit label = .ok n) :
    ¬content.Exceeds label limit := by
  rintro ⟨m, found, outside⟩
  rw [requireBelow, requireVarint, found] at h
  obtain ⟨k, same, h⟩ := bind_eq_ok h
  cases same
  rw [if_neg outside] at h
  cases h

theorem not_exceeds_of_uint32 {n : UInt32} (h : content.requireUInt32 label = .ok n) :
    ¬content.Exceeds label UInt32.size := by
  obtain ⟨_, below, -⟩ := bind_eq_ok h
  exact not_exceeds_of_below below

theorem not_exceeds_of_uint16 {n : UInt16} (h : content.requireUInt16 label = .ok n) :
    ¬content.Exceeds label UInt16.size := by
  obtain ⟨_, below, -⟩ := bind_eq_ok h
  exact not_exceeds_of_below below

theorem string?_of_require {text : String} (h : content.requireString label = .ok text) :
    content.string? label = some text := by
  rw [requireString] at h
  split at h
  · next found =>
    cases h
    exact found
  · cases h

/-- A number that has passed as 32 bits is the one in the content. -/
theorem varint?_of_require {n : UInt32} (h : content.requireUInt32 label = .ok n) :
    ∃ m, content.varint? label = some m ∧ m.toInt = n.toNat := by
  obtain ⟨k, below, same⟩ := bind_eq_ok h
  cases same
  rw [requireBelow] at below
  obtain ⟨m, required, below⟩ := bind_eq_ok below
  rw [requireVarint] at required
  split at required
  case h_2 => cases required
  next found =>
  cases required
  split at below
  case isFalse => cases below
  next range =>
  cases below
  obtain ⟨positive, small⟩ := range
  refine ⟨m, found, ?_⟩
  rw [UInt32.toNat_ofNat_of_lt' (by omega), Int.toNat_of_nonneg positive]

theorem attributes?_of_require {a : Attributes} (h : content.requireAttributes label = .ok a) :
    content.attributes? label = some a := by
  rw [requireAttributes] at h
  split at h
  · next found =>
    cases h
    exact found
  · cases h

end Content

/-! ### Steps of a check -/

namespace Check

variable {server : Server} {session : SessionId} {request : Packet}

theorem player_eq_ok {player : Player} (h : Check.player server session request = .ok player) :
    (server.session session).player = some player := by
  rw [Check.player] at h
  split at h
  · next login =>
    cases h
    exact login
  · cases h

theorem mapError_eq_ok {ε ε' α : Type} {f : ε → ε'} {r : Except ε α} {a : α}
    (h : r.mapError f = .ok a) : r = .ok a := by
  cases r with
  | error cause => cases h
  | ok b =>
    cases h
    rfl

theorem content_eq_ok {content : Content} (h : Check.content request = .ok content) :
    request.records = .ok content :=
  mapError_eq_ok h

theorem field_eq_ok {α : Type} {r : Except Label α} {a : α} (h : Check.field r = .ok a) :
    r = .ok a :=
  mapError_eq_ok h

/-- Only an available store answers. -/
theorem stored_ask_eq_ok {α : Type} {store : Store} {answer a : α}
    (h : Check.stored (store.ask answer) = .ok a) : answer = a := by
  have asked := mapError_eq_ok h
  rw [Store.ask] at asked
  split at asked
  · exact Except.ok.inj asked
  · cases asked

theorem orCode_eq_ok {α : Type} {code : RefusalCode} {found : Option α} {a : α}
    (h : Check.orCode code found = .ok a) : found = some a := by
  cases found with
  | none => cases h
  | some b =>
    cases h
    rfl

end Check

open Check

variable {server : Server} {session : SessionId} {request : Packet}

/-! ### Logging in -/

namespace Authentication

/-- An account is found by its email, and then the password must be its own. -/
theorem checkPassword_eq_ok {account : Account}
    (h : checkPassword server session request = .ok account) :
    ∃ content email, request.records = .ok content ∧
      content.requireString Field.mail = .ok email ∧ '@' ∈ email.toList ∧
      content.requireString Field.pass = .ok account.password ∧
      server.store.accounts.values.find? (fun a => Text.sameUpToCase a.email email) =
        some account := by
  obtain ⟨content, records, h⟩ := bind_eq_ok h
  obtain ⟨email, mail, h⟩ := bind_eq_ok h
  obtain ⟨password, pass, h⟩ := bind_eq_ok h
  dsimp only at h
  split at h
  case isFalse => cases h
  next valid =>
  obtain ⟨found, stored, h⟩ := bind_eq_ok h
  obtain ⟨a, some, h⟩ := bind_eq_ok h
  have search := (stored_ask_eq_ok stored).trans (orCode_eq_ok some)
  split at h
  · next same =>
    cases h
    rw [← same] at pass
    exact ⟨content, email, content_eq_ok records, field_eq_ok mail, by simpa using valid,
      field_eq_ok pass, search⟩
  · cases h

theorem mem_of_checkPassword {account : Account}
    (h : checkPassword server session request = .ok account) :
    account ∈ server.store.accounts.values := by
  obtain ⟨content, email, -, -, -, -, search⟩ := checkPassword_eq_ok h
  exact List.mem_of_find?_eq_some search

/-- An account is found by the id of its player, and then the token must be its own. -/
theorem checkToken_eq_ok {account : Account}
    (h : checkToken server session request = .ok account) :
    ∃ content id, request.records = .ok content ∧
      content.requireUInt32 Field.pid = .ok id ∧
      content.requireString Field.auth = .ok account.token ∧
      server.store.accounts.get? id = some account := by
  obtain ⟨content, records, h⟩ := bind_eq_ok h
  obtain ⟨token, auth, h⟩ := bind_eq_ok h
  obtain ⟨id, number, h⟩ := bind_eq_ok h
  obtain ⟨found, stored, h⟩ := bind_eq_ok h
  obtain ⟨a, some, h⟩ := bind_eq_ok h
  have search := (stored_ask_eq_ok stored).trans (orCode_eq_ok some)
  split at h
  · next same =>
    cases h
    rw [← same] at auth
    exact ⟨content, id, content_eq_ok records, field_eq_ok number, field_eq_ok auth, search⟩
  · cases h

theorem mem_of_checkToken {account : Account}
    (h : checkToken server session request = .ok account) :
    account ∈ server.store.accounts.values := by
  obtain ⟨content, id, -, -, -, search⟩ := checkToken_eq_ok h
  exact SortedMap.mem_values_of_get? search

end Authentication

/-! ### Settings and reports -/

theorem Utility.checkSetting_eq_ok {store : Store}
    (h : checkSetting server session request = .ok store) :
    ∃ settings, store = { server.store with settings } := by
  obtain ⟨player, -, h⟩ := bind_eq_ok h
  obtain ⟨content, -, h⟩ := bind_eq_ok h
  obtain ⟨key, -, h⟩ := bind_eq_ok h
  obtain ⟨value, -, h⟩ := bind_eq_ok h
  exact ⟨_, (stored_ask_eq_ok h).symm⟩

namespace Presence

theorem checkNetwork_eq_ok {network : Network}
    (h : checkNetwork server session request = .ok network) :
    ∃ content union, request.records = .ok content ∧
      ((content.field? Field.addr).bind fun r => r.value.toUnion?) = some union ∧
        Network.read union = .ok network := by
  obtain ⟨content, records, h⟩ := bind_eq_ok h
  split at h
  · cases h
  · next union found => exact ⟨content, union, content_eq_ok records, found, field_eq_ok h⟩

theorem checkHardware_eq_ok {hardware : UInt16}
    (h : checkHardware server session request = .ok hardware) :
    ∃ content, request.records = .ok content ∧
      content.requireUInt16 Field.hwfg = .ok hardware := by
  obtain ⟨content, records, h⟩ := bind_eq_ok h
  exact ⟨content, content_eq_ok records, field_eq_ok h⟩

end Presence

/-! ### Games -/

namespace Games

theorem checkGame_eq_ok {found : Player × Content × GameId × Game}
    (h : checkGame server session request = .ok found) :
    request.records = .ok found.2.1 ∧ found.2.1.requireUInt32 Field.gid = .ok found.2.2.1 ∧
      server.findGame? found.2.2.1 = some found.2.2.2 := by
  obtain ⟨player, -, h⟩ := bind_eq_ok h
  obtain ⟨content, records, h⟩ := bind_eq_ok h
  obtain ⟨id, number, h⟩ := bind_eq_ok h
  split at h
  · next g registered =>
    cases h
    exact ⟨content_eq_ok records, field_eq_ok number, registered⟩
  · cases h

/-- A creation brings the attributes of the request, or none. -/
theorem checkCreation_eq_ok {attributes : Attributes} {setting : UInt16}
    (h : checkCreation server session request = .ok (attributes, setting)) :
    (server.session session).player.isSome = true ∧
      ∃ content, request.records = .ok content ∧
        attributes = (content.attributes? Field.attr).getD ∅ ∧
          ¬content.Exceeds Field.gset UInt16.size := by
  obtain ⟨player, login, h⟩ := bind_eq_ok h
  obtain ⟨content, records, h⟩ := bind_eq_ok h
  refine ⟨by rw [player_eq_ok login]; rfl, content, content_eq_ok records, ?_⟩
  split at h
  · obtain ⟨value, number, h⟩ := bind_eq_ok h
    cases h
    exact ⟨rfl, Content.not_exceeds_of_uint16 (field_eq_ok number)⟩
  · next missing =>
    obtain ⟨value, -, h⟩ := bind_eq_ok h
    cases h
    refine ⟨rfl, ?_⟩
    rintro ⟨n, found, -⟩
    rw [missing] at found
    cases found

theorem checkAttributes_eq_ok {id : GameId} {attributes : Attributes}
    (h : checkAttributes server session request = .ok (id, attributes)) :
    ∃ content, request.records = .ok content ∧ content.requireUInt32 Field.gid = .ok id ∧
      content.attributes? Field.attr = some attributes := by
  obtain ⟨found, game, h⟩ := bind_eq_ok h
  obtain ⟨records, number, -⟩ := checkGame_eq_ok game
  obtain ⟨value, required, h⟩ := bind_eq_ok h
  cases h
  exact ⟨_, records, number, Content.attributes?_of_require (field_eq_ok required)⟩

theorem checkNumber_eq_ok {label : Label} {id : GameId} {value : UInt16}
    (h : checkNumber label server session request = .ok (id, value)) :
    ∃ content, request.records = .ok content ∧ content.requireUInt32 Field.gid = .ok id ∧
      content.requireUInt16 label = .ok value := by
  obtain ⟨found, game, h⟩ := bind_eq_ok h
  obtain ⟨records, number, -⟩ := checkGame_eq_ok game
  obtain ⟨v, required, h⟩ := bind_eq_ok h
  cases h
  exact ⟨_, records, number, field_eq_ok required⟩

theorem checkRemoval_eq_ok {id : GameId} {player : PlayerId} {reason : Int64}
    (h : checkRemoval server session request = .ok (id, player, reason)) :
    ∃ content, request.records = .ok content ∧ content.requireUInt32 Field.gid = .ok id ∧
      content.requireUInt32 Field.pid = .ok player := by
  obtain ⟨login, -, h⟩ := bind_eq_ok h
  obtain ⟨content, records, h⟩ := bind_eq_ok h
  obtain ⟨i, number, h⟩ := bind_eq_ok h
  obtain ⟨p, removed, h⟩ := bind_eq_ok h
  split at h
  · cases h
    exact ⟨content, content_eq_ok records, field_eq_ok number, field_eq_ok removed⟩
  · cases h

theorem checkMesh_eq_ok {joined : Option (GameId × PlayerId)}
    (h : checkMesh server session request = .ok joined) :
    ∃ content id, request.records = .ok content ∧ content.requireUInt32 Field.gid = .ok id := by
  obtain ⟨found, game, -⟩ := bind_eq_ok h
  obtain ⟨records, number, -⟩ := checkGame_eq_ok game
  exact ⟨_, _, records, number⟩

theorem checkSearch_eq_ok {rules : RuleSet}
    (h : checkSearch server session request = .ok rules) :
    (server.session session).player.isSome = true := by
  obtain ⟨player, login, -⟩ := bind_eq_ok h
  rw [player_eq_ok login]
  rfl

end Games

end Lobby
