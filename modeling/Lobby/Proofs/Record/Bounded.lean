import Lobby.Proofs.Record.Extension
import Lobby.Proofs.Record.Parsing
import Lobby.Proofs.Record.Weight

/-!
# Decoding is bounded

The count in front of a collection is any number of 63 bits.  Since every element takes a byte, a
collection that claims more elements than there are bytes left is refused, and which number it
claims makes no difference: the bytes end first.  `read.Refuses bytes` is closed under sequencing
from either side, so refusals are followed through a record to its count and its elements.

With the weights of records this bounds all that content can be decoded to by the number of its
bytes (`decodeAll_bounded`).
-/

namespace Lobby

namespace Reader

variable {α β : Type}

/-! ### Collections that claim too much -/

/-- `read` gives no value for these bytes, for whatever cause. -/
def Refuses (read : Reader α) (bytes : Bytes) : Prop := ∃ cause, read bytes = .error cause

/-- Two readers refuse what the second refuses after the first. -/
theorem Refuses.bind {read : Reader α} {next : α → Reader β} {bytes : Bytes}
    (h : ∀ a middle, read bytes = .ok (a, middle) → (next a).Refuses middle) :
    (read >>= next).Refuses bytes := by
  rw [Refuses, bind_apply]
  cases first : read bytes with
  | error cause => exact ⟨cause, rfl⟩
  | ok p => exact h p.1 p.2 first

/-- Two readers refuse what the first refuses. -/
theorem Refuses.first {read : Reader α} {next : α → Reader β} {bytes : Bytes}
    (h : read.Refuses bytes) : (read >>= next).Refuses bytes := by
  obtain ⟨cause, h⟩ := h
  rw [Refuses, bind_apply, h]
  exact ⟨cause, rfl⟩

/-- More elements than there are bytes are not there. -/
theorem refuses_times {read : Reader α} (h : read.Consumes fun _ => 1) {n : Nat} {bytes : Bytes}
    (few : bytes.length < n) : (times read n).Refuses bytes := by
  cases result : times read n bytes with
  | error cause => exact ⟨cause, result⟩
  | ok p =>
    obtain ⟨as, rest⟩ := p
    have count := length_of_times result
    have taken : (as.map fun _ => 1).sum + rest.length ≤ bytes.length := consumes_times h n result
    rw [List.map_const', List.sum_replicate_nat, Nat.mul_one] at taken
    omega

/-- Which number of elements is claimed makes no difference once there are fewer bytes: the bytes
end first. -/
theorem times_eq_of_length_lt {read : Reader α} (h : read.Consumes fun _ => 1) {n : Nat} :
    ∀ {m : Nat} {bytes : Bytes}, bytes.length < n → bytes.length < m →
      times read n bytes = times read m bytes := by
  induction n with
  | zero =>
    intro m bytes few
    omega
  | succ n ih =>
    intro m bytes few few'
    obtain ⟨m, rfl⟩ := Nat.exists_eq_succ_of_ne_zero (Nat.ne_zero_of_lt few')
    rw [times_succ, times_succ, bind_apply, bind_apply]
    cases first : read bytes with
    | error cause => rfl
    | ok p =>
      obtain ⟨a, rest⟩ := p
      have less : 1 + rest.length ≤ bytes.length := h first
      dsimp only [Except.bind]
      rw [bind_apply, bind_apply, ih (m := m) (by omega) (by omega)]

section Claim

variable {group : Reader Group} {bytes rest : Bytes} {count : Nat}

/-- A number of elements is read after it was claimed. -/
theorem Refuses.claimed {next : Nat → Reader α} (claim : length bytes = .ok (count, rest))
    (h : (next count).Refuses rest) : (length >>= next).Refuses bytes := by
  refine .bind fun count' left counted => ?_
  obtain ⟨rfl, rfl⟩ := Prod.mk.inj (Except.ok.inj (claim.symm.trans counted))
  exact h

/-- The code of a kind is one byte. -/
theorem Refuses.coded {next : ValueKind → Reader α} (h : ∀ kind, (next kind).Refuses bytes)
    (code : UInt8) : (valueKind >>= next).Refuses (code :: bytes) := by
  refine .bind fun kind left known => ?_
  obtain ⟨_, same, rfl⟩ := accepts_valueKind.1 known
  obtain ⟨-, rfl⟩ := List.cons.inj same
  exact h kind

theorem Refuses.item {next : ItemKind → Reader α} (h : ∀ kind, (next kind).Refuses bytes)
    (kind : ValueKind) : (itemKind kind >>= next).Refuses bytes := by
  refine .bind fun item left known => ?_
  obtain ⟨_, rfl, -, rfl⟩ := (accepts_itemKind kind).1 known
  exact h item

theorem Refuses.cell {next : CellKind → Reader α} (h : ∀ kind, (next kind).Refuses bytes)
    (kind : ValueKind) : (cellKind kind >>= next).Refuses bytes := by
  refine .bind fun cell left known => ?_
  obtain ⟨_, rfl, -, rfl⟩ := (accepts_cellKind kind).1 known
  exact h cell

theorem refuses_items (hg : group.Consumes fun _ => 1) (claim : length bytes = .ok (count, rest))
    (few : rest.length < count) (code : UInt8) : (items group).Refuses (code :: bytes) := by
  refine .coded (fun kind => .claimed claim (.item (fun kind => ?_) kind)) code
  cases kind with
  | varint => exact (refuses_times consumes_varint few).first
  | string => exact (refuses_times (consumes_string.mono fun _ => Nat.le_add_left ..) few).first
  | group => exact (refuses_times hg few).first
  | triple => exact (refuses_times consumes_triple few).first

theorem refuses_columns (hc : ∀ kind, (Reader.cell group kind).Consumes fun _ => 1)
    (claim : length bytes = .ok (count, rest)) (few : rest.length < count) (key value : UInt8) :
    (columns group).Refuses (key :: value :: bytes) := by
  refine .coded (fun keyKind => .coded (fun valueKind => ?_) value) key
  refine .claimed claim (.cell (fun keyKind => .cell (fun valueKind => ?_) valueKind) keyKind)
  have row : Consumes (do
      let key ← Reader.cell group keyKind
      let value ← Reader.cell group valueKind
      return (key, value)) fun _ => 1 :=
    (hc keyKind).bind fun _ => (hc valueKind).map fun _ => Nat.zero_le 1
  exact (refuses_times row few).first

end Claim

/-- The bytes of a record that open with the count of a collection and end too soon for so many
elements. -/
inductive Overclaimed : Bytes → Prop
  | varintList (a b c : UInt8) {bytes rest : Bytes} {count : Nat}
      (claim : length bytes = .ok (count, rest)) (few : rest.length < count) :
      Overclaimed (a :: b :: c :: ValueKind.varintList.code :: bytes)
  | list (a b c kind : UInt8) {bytes rest : Bytes} {count : Nat}
      (claim : length bytes = .ok (count, rest)) (few : rest.length < count) :
      Overclaimed (a :: b :: c :: ValueKind.list.code :: kind :: bytes)
  | map (a b c keyKind valueKind : UInt8) {bytes rest : Bytes} {count : Nat}
      (claim : length bytes = .ok (count, rest)) (few : rest.length < count) :
      Overclaimed (a :: b :: c :: ValueKind.map.code :: keyKind :: valueKind :: bytes)

theorem header_code (a b c : UInt8) (kind : ValueKind) (bytes : Bytes) :
    header (a :: b :: c :: kind.code :: bytes) = .ok ((.ofTag a b c, kind), bytes) := by
  rw [header, ValueKind.ofCode?_code]

theorem refuses_recordOver {group : Reader Group} {record : Reader Record} {kind : ValueKind}
    {bytes : Bytes} (h : (value group record kind).Refuses bytes) (a b c : UInt8) :
    (recordOver group record).Refuses (a :: b :: c :: kind.code :: bytes) := by
  refine .bind fun front left known => ?_
  rw [header_code] at known
  cases known
  exact h.first

/-- **Nobody gets a collection by claiming it.** -/
theorem refuses_record_of_overclaimed (n : Nat) {bytes : Bytes} (h : Overclaimed bytes) :
    (record n).Refuses bytes := by
  rw [record_eq]
  cases h with
  | varintList a b c claim few =>
    exact refuses_recordOver (.claimed claim (refuses_times consumes_varint few).first) a b c
  | list a b c kind claim few =>
    exact refuses_recordOver (refuses_items (consumes_element n .group) claim few kind).first a b c
  | map a b c key value claim few =>
    exact refuses_recordOver (refuses_columns (consumes_element n) claim few key value).first a b c

end Reader

/-- Content with a record that is refused is refused, whatever could be read before it. -/
theorem decodeAll_append_refused {front bytes : Bytes} {rs : List Record}
    (read : decodeAll front = .ok rs) (more : bytes ≠ []) (refused : readRecord.Refuses bytes) :
    ∃ cause, decodeAll (front ++ bytes) = .error cause := by
  obtain ⟨cause, refused⟩ := refused
  refine ⟨cause, ?_⟩
  rw [decodeAll_append read, decodeAll_eq_bind more, refused]
  rfl

/-- Content weighs no more than its bytes, by induction on the number of bytes. -/
theorem totalAll_le_of_decodeAll {bytes : Bytes} {rs : List Record}
    (h : decodeAll bytes = .ok rs) : Record.totalAll Value.weight rs ≤ bytes.length := by
  induction bytes using (measure List.length).wf.induction generalizing rs with
  | h bytes ih =>
    by_cases more : bytes = []
    · subst more
      cases h
      exact Nat.le_refl _
    · obtain ⟨r, rest, rs, first, others, rfl⟩ := of_decodeAll h more
      have less := Reader.shortens_record maxDepth first
      have front := Reader.consumes_record maxDepth first
      have := ih rest less others
      rw [Record.totalAll]
      omega

/-- **Decoding ends and never amplifies.**  The loops over content and over a group go on until the
bytes or the group end, whatever bounds them; every record takes five bytes at least and every
element of a collection one.  So content has no more records, elements and bytes of texts, records
counting five times, than there were bytes, and a collection that claims more elements than bytes
follow its count is refused at every depth, after as many elements as there are bytes. -/
theorem decodeAll_bounded :
    (∀ bytes, decodeAll bytes = if bytes = [] then .ok [] else
      (readRecord bytes).bind fun first => (decodeAll first.2).map (first.1 :: ·)) ∧
    (∀ n b bytes, Reader.groupWithin (n + 1) (b :: bytes) =
      if b = groupEnd then .ok (.mk false [], bytes)
      else if b = groupMark then
        (Reader.groupWithin (n + 1) bytes).map fun p => (.mk true p.1.fields, p.2)
      else
        (Reader.record n (b :: bytes)).bind fun first =>
          (Reader.groupWithin (n + 1) first.2).map fun p =>
            (.mk p.1.extended (first.1 :: p.1.fields), p.2)) ∧
    (∀ bytes rs, decodeAll bytes = .ok rs →
      5 * Record.countAll rs + Record.totalAll Value.elements rs + Record.totalAll Value.octets rs
        ≤ bytes.length) ∧
    (∀ n bytes r rest, Reader.record n bytes = .ok (r, rest) →
      rest.length + 5 ≤ bytes.length) ∧
    (∀ n kind bytes c rest, Reader.cell (Reader.groupWithin n) kind bytes = .ok (c, rest) →
      rest.length + 1 ≤ bytes.length) ∧
    (∀ bytes t rest, Reader.triple bytes = .ok (t, rest) → rest.length + 1 ≤ bytes.length) ∧
    (∀ n kind count bytes, bytes.length < count →
      Reader.times (Reader.cell (Reader.groupWithin n) kind) count bytes =
        Reader.times (Reader.cell (Reader.groupWithin n) kind) (bytes.length + 1) bytes) ∧
    (∀ bytes, Reader.Overclaimed bytes →
      (∀ n, ∃ cause, Reader.record n bytes = .error cause) ∧
      ∀ front rs, decodeAll front = .ok rs →
        ∃ cause, decodeAll (front ++ bytes) = .error cause) := by
  refine ⟨fun bytes => ?loop, fun n b bytes => ?turn, fun bytes rs h => ?total,
    fun n bytes r rest h => ?record, fun n kind bytes c rest h => ?element,
    fun bytes t rest h => ?triple, fun n kind count bytes few => ?count,
    fun bytes claimed => ?claimed⟩
  case loop =>
    split
    · next empty => rw [empty, decodeAll_nil]
    · next more => exact decodeAll_eq_bind more
  case turn => exact Reader.groupOver_cons (Reader.shortens_record n) b bytes
  case total =>
    rw [← Record.totalAll_weight]
    exact totalAll_le_of_decodeAll h
  case record =>
    obtain ⟨label, v⟩ := r
    have taken := Reader.consumes_record n h
    simp only [Record.total, Value.weight] at taken
    omega
  case element =>
    rw [Nat.add_comm]
    exact Reader.consumes_element n kind h
  case triple =>
    rw [Nat.add_comm]
    exact Reader.consumes_triple h
  case count =>
    exact Reader.times_eq_of_length_lt (Reader.consumes_element n kind) few (Nat.lt_succ_self _)
  case claimed =>
    have refused (n : Nat) := Reader.refuses_record_of_overclaimed n claimed
    refine ⟨refused, fun front rs read => decodeAll_append_refused read ?_ (refused maxDepth)⟩
    rintro rfl
    cases claimed

/-- Content of three records, one of them in a list of groups, and a list that claims as many
elements as a count can say. -/
theorem decodeAll_bounded_nested :
    let bytes : Bytes :=
      [1, 2, 3, 4, 3, 2, 9, 9, 9, 2, 2, 0xff, 0xfe, 0, 0x02, 0,
        1, 2, 3, 5, 0, 1, 1, 7, 3, 0x61, 0x62, 0]
    let rs : List Record :=
      [.list (.ofTag 1 2 3) (.groups [.mk false [.blob (.ofTag 9 9 9) [0xff, 0xfe]], .mk true []]),
        .mk (.ofTag 1 2 3) (.map (.varints [7]) (.strings ["ab"]))]
    let claim : Bytes :=
      [1, 2, 3, 4, 0, 0xbf, 0xff, 0xff, 0xff, 0xff, 0xff, 0xff, 0xff, 0xff, 1, 5, 5]
    decodeAll bytes = .ok rs ∧
      5 * Record.countAll rs = 15 ∧ Record.totalAll Value.elements rs = 4 ∧
      Record.totalAll Value.octets rs = 4 ∧ 15 + 4 + 4 ≤ bytes.length ∧
      Reader.length (claim.drop 5) = .ok (0x7fffffffffffffff, [5, 5]) ∧
      (∃ cause, decodeAll claim = .error cause) ∧
      ∃ cause, decodeAll (bytes ++ claim) = .error cause := by
  intro bytes rs claim
  have read : decodeAll bytes = .ok rs := by rfl
  have counted : Reader.length (claim.drop 5) = .ok (0x7fffffffffffffff, [5, 5]) := by rfl
  have claimed : Reader.Overclaimed claim := .list 1 2 3 0 counted (by decide)
  obtain ⟨-, -, bound, -, -, -, -, refused⟩ := decodeAll_bounded
  obtain ⟨-, content⟩ := refused claim claimed
  exact ⟨read, by rfl, by rfl, by decide +kernel, bound bytes rs read, counted, content [] [] rfl,
    content bytes rs read⟩

end Lobby
