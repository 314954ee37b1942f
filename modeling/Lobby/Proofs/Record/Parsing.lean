import Lobby.Proofs.Record.Acceptance

/-!
# Reading is parsing

The readers of nested values accept the grammar up to a depth, by recursion on the depth as the
readers themselves.  A group is read byte by byte: its first byte tells whether it ends, is marked
or goes on with a record.

**The decoder accepts exactly the grammar** (`readRecord_iff_spelling`), so the grammar is
unambiguous: the reader is a function, and it takes every spelling whatever follows it.
-/

namespace Lobby.Reader

/-! ### Kinds -/

theorem accepts_valueKind : valueKind.Accepts fun kind p => p = [kind.code] := by
  refine (accepts_byte.bind (?next : ∀ code, Accepts _ fun kind p =>
    ValueKind.ofCode? code = some kind ∧ p = [])).congr fun kind p => ?_
  case next =>
    intro code
    cases ValueKind.ofCode? code with
    | none => exact (Accepts.fail _).congr fun kind p => by simp
    | some kind => exact (Accepts.pure kind).congr fun kind' p => by simp [eq_comm]
  constructor
  · rintro ⟨code, q, r, rfl, rfl, known, rfl⟩
    rw [ValueKind.code_of_ofCode? known]
    rfl
  · rintro rfl
    exact ⟨_, _, [], rfl, rfl, ValueKind.ofCode?_code kind, rfl⟩

theorem accepts_itemKind (kind : ValueKind) :
    (itemKind kind).Accepts fun k p => k.valueKind = kind ∧ p = [] := by
  cases kind <;> first
    | exact (Accepts.fail _).congr fun k p => by cases k <;> simp [ItemKind.valueKind]
    | exact (Accepts.pure _).congr fun k p => by cases k <;> simp [ItemKind.valueKind]

theorem accepts_cellKind (kind : ValueKind) :
    (cellKind kind).Accepts fun k p => k.valueKind = kind ∧ p = [] := by
  cases kind <;> first
    | exact (Accepts.fail _).congr fun k p => by cases k <;> simp [CellKind.valueKind]
    | exact (Accepts.pure _).congr fun k p => by cases k <;> simp [CellKind.valueKind]

theorem accepts_header : header.Accepts fun front p =>
    ∃ a b c, front.1 = .ofTag a b c ∧ p = [a, b, c, front.2.code] := by
  intro bytes front rest
  constructor
  · intro result
    match bytes with
    | a :: b :: c :: code :: bytes =>
      simp only [header] at result
      split at result
      · next known =>
        cases result
        exact ⟨_, rfl, a, b, c, rfl, by rw [ValueKind.code_of_ofCode? known]⟩
      · cases result
    | [] | [_] | [_, _] | [_, _, _] => cases result
  · obtain ⟨label, kind⟩ := front
    rintro ⟨p, rfl, a, b, c, same, rfl⟩
    obtain rfl : label = .ofTag a b c := same
    simp [header]

/-! ### Nested values

`group` and `record` are the readers of what is nested one level deeper. -/

section Nested

variable {group : Reader Group} {record : Reader Record} {n : Nat}

/-- The elements of a list, with the code of their kind and their count. -/
theorem accepts_items (hg : group.Accepts fun g p => g.Spelling p ∧ g.depth ≤ n) :
    (items group).Accepts fun xs p => (Value.list xs).Spelling p ∧ xs.depth ≤ n := by
  have flat : 0 ≤ n := Nat.zero_le n
  refine (accepts_valueKind.bind fun kind => accepts_length.bind fun count =>
    (accepts_itemKind kind).bind (?next : ∀ kind, Accepts _ fun xs p =>
      (xs.kind = kind ∧ xs.length = count) ∧ xs.Spelling p ∧ xs.depth ≤ n)).congr fun xs p => ?_
  case next =>
    intro kind
    cases kind with
    | varint =>
      refine ((accepts_times accepts_varint count).map Items.varints).congr fun xs p => ?_
      constructor
      · rintro ⟨ns, rfl, rfl, numbers⟩
        exact ⟨⟨rfl, rfl⟩, .varints numbers, flat⟩
      · rintro ⟨⟨kind, rfl⟩, spelled, -⟩
        cases spelled with
        | varints numbers => exact ⟨_, rfl, rfl, numbers⟩
        | _ => cases kind
    | string =>
      refine ((accepts_times accepts_string count).map Items.strings).congr fun xs p => ?_
      constructor
      · rintro ⟨ss, rfl, rfl, texts⟩
        exact ⟨⟨rfl, rfl⟩, .strings texts, flat⟩
      · rintro ⟨⟨kind, rfl⟩, spelled, -⟩
        cases spelled with
        | strings texts => exact ⟨_, rfl, rfl, texts⟩
        | _ => cases kind
    | group =>
      refine ((accepts_times hg count).map Items.groups).congr fun xs p => ?_
      constructor
      · rintro ⟨gs, rfl, rfl, chain⟩
        obtain ⟨bodies, shallow⟩ := Chain.and_iff.1 chain
        exact ⟨⟨rfl, rfl⟩, .groups bodies, Group.depthAll_le_iff.2 shallow⟩
      · rintro ⟨⟨kind, rfl⟩, spelled, shallow⟩
        cases spelled with
        | groups bodies =>
          exact ⟨_, rfl, rfl, Chain.and_iff.2 ⟨bodies, Group.depthAll_le_iff.1 shallow⟩⟩
        | _ => cases kind
    | triple =>
      refine ((accepts_times accepts_triple count).map Items.triples).congr fun xs p => ?_
      constructor
      · rintro ⟨ts, rfl, rfl, triples⟩
        exact ⟨⟨rfl, rfl⟩, .triples triples, flat⟩
      · rintro ⟨⟨kind, rfl⟩, spelled, -⟩
        cases spelled with
        | triples triples => exact ⟨_, rfl, rfl, triples⟩
        | _ => cases kind
  constructor
  · rintro ⟨_, _, _, rfl, rfl, _, q, _, rfl, length, _, _, r, rfl, ⟨rfl, rfl⟩, ⟨rfl, rfl⟩, spelled,
      shallow⟩
    have whole := Value.Spelling.list length spelled
    exact ⟨whole, shallow⟩
  · rintro ⟨spelled, shallow⟩
    cases spelled with
    | list length spelled =>
      exact ⟨_, _, _, rfl, rfl, _, _, _, rfl, length, _, [], _, rfl, ⟨rfl, rfl⟩, ⟨rfl, rfl⟩,
        spelled, shallow⟩

theorem accepts_cell (hg : group.Accepts fun g p => g.Spelling p ∧ g.depth ≤ n) (kind : CellKind) :
    (cell group kind).Accepts fun c p => kind.Spelling c p ∧ kind.depth c ≤ n := by
  have flat : 0 ≤ n := Nat.zero_le n
  cases kind with
  | varint =>
    refine accepts_varint.congr fun v p => ⟨fun h => ⟨.varint h, flat⟩, ?_⟩
    rintro ⟨spelled, -⟩
    cases spelled with
    | varint number => exact number
  | string =>
    refine accepts_string.congr fun s p => ⟨fun h => ⟨.string h, flat⟩, ?_⟩
    rintro ⟨spelled, -⟩
    cases spelled with
    | string text => exact text
  | group =>
    refine hg.congr fun g p => ⟨fun h => ⟨.group h.1, h.2⟩, ?_⟩
    rintro ⟨spelled, shallow⟩
    cases spelled with
    | group body => exact ⟨body, shallow⟩
  | float =>
    refine accepts_float.congr fun bits p => ⟨fun h => ⟨.float h, flat⟩, ?_⟩
    rintro ⟨spelled, -⟩
    cases spelled with
    | float number => exact number

theorem depth_columns_le_iff {k v : CellKind} {rows : List (k.Cell × v.Cell)} :
    max (k.column (rows.map (·.1))).depth (v.column (rows.map (·.2))).depth ≤ n ↔
      ∀ row ∈ rows, k.depth row.1 ≤ n ∧ v.depth row.2 ≤ n := by
  rw [Nat.max_le, CellKind.depth_column_le_iff, CellKind.depth_column_le_iff, List.forall_mem_map,
    List.forall_mem_map]
  exact ⟨fun h row hr => ⟨h.1 row hr, h.2 row hr⟩, fun h =>
    ⟨fun row hr => (h row hr).1, fun row hr => (h row hr).2⟩⟩

/-- The rows of a map of some kinds. -/
theorem accepts_rows (hg : group.Accepts fun g p => g.Spelling p ∧ g.depth ≤ n) (k v : CellKind)
    (count : Nat) : Accepts (times (do
      let key ← cell group k
      let value ← cell group v
      return (key, value)) count) fun rows p => rows.length = count ∧ Rows.Spelling k v rows p ∧
        ∀ row ∈ rows, k.depth row.1 ≤ n ∧ v.depth row.2 ≤ n := by
  have row : Accepts (do
      let key ← cell group k
      let value ← cell group v
      return (key, value)) fun row p => (∃ q r, p = q ++ r ∧ k.Spelling row.1 q ∧
        v.Spelling row.2 r) ∧ k.depth row.1 ≤ n ∧ v.depth row.2 ≤ n := by
    refine ((accepts_cell hg k).bind fun key => (accepts_cell hg v).map fun value =>
      (key, value)).congr fun row p => ?_
    constructor
    · rintro ⟨key, q, r, rfl, ⟨hk, dk⟩, value, rfl, hv, dv⟩
      exact ⟨⟨q, r, rfl, hk, hv⟩, dk, dv⟩
    · rintro ⟨⟨q, r, rfl, hk, hv⟩, dk, dv⟩
      exact ⟨row.1, q, r, rfl, ⟨hk, dk⟩, row.2, rfl, hv, dv⟩
  exact (accepts_times row count).congr fun rows p => by rw [Chain.and_iff, Rows.spelling_iff]

theorem accepts_columns (hg : group.Accepts fun g p => g.Spelling p ∧ g.depth ≤ n) :
    (columns group).Accepts fun c p =>
      (Value.map c.1 c.2).Spelling p ∧ max c.1.depth c.2.depth ≤ n := by
  have body (k v : CellKind) (count : Nat) := (accepts_rows hg k v count).map fun rows =>
    (k.column (rows.map (·.1)), v.column (rows.map (·.2)))
  have whole := accepts_valueKind.bind fun keyKind => accepts_valueKind.bind fun valueKind =>
    accepts_length.bind fun count => (accepts_cellKind keyKind).bind fun k =>
    (accepts_cellKind valueKind).bind fun v => body k v count
  refine Accepts.congr whole fun c p => ?_
  constructor
  · rintro ⟨_, _, _, rfl, rfl, _, _, _, rfl, rfl, _, q, _, rfl, length, k, _, _, rfl, ⟨rfl, rfl⟩,
      v, _, r, rfl, ⟨rfl, rfl⟩, rows, rfl, rfl, cells, shallow⟩
    have whole := Value.Spelling.map length cells
    exact ⟨whole, depth_columns_le_iff.2 shallow⟩
  · rintro ⟨spelled, shallow⟩
    obtain ⟨keys, values⟩ := c
    cases spelled with
    | map length cells =>
      exact ⟨_, _, _, rfl, rfl, _, _, _, rfl, rfl, _, _, _, rfl, length, _, [], _, rfl, ⟨rfl, rfl⟩,
        _, [], _, rfl, ⟨rfl, rfl⟩, _, rfl, rfl, cells, depth_columns_le_iff.1 shallow⟩

theorem accepts_union (hr : record.Accepts fun r p => r.Spelling p ∧ r.depth + 1 ≤ n) :
    (union record).Accepts fun v p => v.kind = .union ∧ v.Spelling p ∧ v.depth ≤ n := by
  have next (d : UInt8) : Accepts (if h : d ≠ unsetDiscriminant then do
      return Value.union ⟨d, h⟩ (← record) else return .unset)
      fun v p => v.kind = .union ∧ v.Spelling (d :: p) ∧ v.depth ≤ n := by
    by_cases present : d ≠ unsetDiscriminant
    · rw [dif_pos present]
      refine (hr.map fun r => Value.union ⟨d, present⟩ r).congr fun v p => ?_
      constructor
      · rintro ⟨r, rfl, spelled, shallow⟩
        exact ⟨rfl, .union ⟨d, present⟩ spelled, shallow⟩
      · rintro ⟨kind, spelled, shallow⟩
        cases v <;> cases kind
        · cases spelled
          exact absurd rfl present
        · cases spelled with
          | union d spelled => exact ⟨_, rfl, spelled, shallow⟩
    · rw [dif_neg present]
      refine (Accepts.pure Value.unset).congr fun v p => ?_
      constructor
      · rintro ⟨rfl, rfl⟩
        obtain rfl : d = unsetDiscriminant := Decidable.of_not_not present
        exact ⟨rfl, .unset, Nat.zero_le n⟩
      · rintro ⟨kind, spelled, shallow⟩
        cases v <;> cases kind
        · cases spelled
          exact ⟨rfl, rfl⟩
        · next d _ =>
          cases spelled
          exact absurd d.property present
  refine (accepts_byte.bind next).congr fun v p => ?_
  constructor
  · rintro ⟨d, _, q, rfl, rfl, whole⟩
    exact whole
  · rintro ⟨kind, spelled, shallow⟩
    cases p with
    | nil => cases v <;> cases kind <;> cases spelled
    | cons d p => exact ⟨d, [d], p, rfl, rfl, kind, spelled, shallow⟩

theorem accepts_value (hg : group.Accepts fun g p => g.Spelling p ∧ g.depth ≤ n)
    (hr : record.Accepts fun r p => r.Spelling p ∧ r.depth + 1 ≤ n) (kind : ValueKind) :
    (value group record kind).Accepts fun v p => v.kind = kind ∧ v.Spelling p ∧ v.depth ≤ n := by
  have flat : 0 ≤ n := Nat.zero_le n
  cases kind with
  | varint =>
    refine (accepts_varint.map Value.varint).congr fun v p => ?_
    constructor
    · rintro ⟨m, rfl, number⟩
      exact ⟨rfl, .varint number, flat⟩
    · rintro ⟨kind, spelled, -⟩
      cases spelled with
      | varint number => exact ⟨_, rfl, number⟩
      | _ => cases kind
  | string =>
    refine (accepts_string.map Value.string).congr fun v p => ?_
    constructor
    · rintro ⟨s, rfl, text⟩
      exact ⟨rfl, .string text, flat⟩
    · rintro ⟨kind, spelled, -⟩
      cases spelled with
      | string text => exact ⟨_, rfl, text⟩
      | _ => cases kind
  | blob =>
    refine (accepts_blob.map Value.blob).congr fun v p => ?_
    constructor
    · rintro ⟨bytes, rfl, q, rfl, length⟩
      exact ⟨rfl, .blob length, flat⟩
    · rintro ⟨kind, spelled, -⟩
      cases spelled with
      | blob length => exact ⟨_, rfl, _, rfl, length⟩
      | _ => cases kind
  | group =>
    refine (hg.map Value.group).congr fun v p => ?_
    constructor
    · rintro ⟨g, rfl, body, shallow⟩
      exact ⟨rfl, .group body, shallow⟩
    · rintro ⟨kind, spelled, shallow⟩
      cases spelled with
      | group body => exact ⟨_, rfl, body, shallow⟩
      | _ => cases kind
  | list =>
    refine ((accepts_items hg).map Value.list).congr fun v p => ?_
    constructor
    · rintro ⟨xs, rfl, spelled, shallow⟩
      exact ⟨rfl, spelled, shallow⟩
    · rintro ⟨kind, spelled, shallow⟩
      cases v <;> cases kind
      exact ⟨_, rfl, spelled, shallow⟩
  | map =>
    refine ((accepts_columns hg).map fun c => Value.map c.1 c.2).congr fun v p => ?_
    constructor
    · rintro ⟨c, rfl, spelled, shallow⟩
      exact ⟨rfl, spelled, shallow⟩
    · rintro ⟨kind, spelled, shallow⟩
      cases v <;> cases kind
      exact ⟨(_, _), rfl, spelled, shallow⟩
  | union => exact accepts_union hr
  | varintList =>
    refine (accepts_length.bind fun count =>
      (accepts_times accepts_varint count).map Value.varintList).congr fun v p => ?_
    constructor
    · rintro ⟨_, q, r, rfl, length, ns, rfl, rfl, numbers⟩
      exact ⟨rfl, .varintList length numbers, flat⟩
    · rintro ⟨kind, spelled, -⟩
      cases spelled with
      | varintList length numbers => exact ⟨_, _, _, rfl, length, _, rfl, rfl, numbers⟩
      | _ => cases kind
  | pair =>
    refine (accepts_varint.bind fun a => accepts_varint.map (Value.pair a)).congr fun v p => ?_
    constructor
    · rintro ⟨a, q, r, rfl, first, b, rfl, second⟩
      exact ⟨rfl, .pair first second, flat⟩
    · rintro ⟨kind, spelled, -⟩
      cases spelled with
      | pair first second => exact ⟨_, _, _, rfl, first, _, rfl, second⟩
      | _ => cases kind
  | triple =>
    refine (accepts_triple.map fun t => Value.triple t.1 t.2.1 t.2.2).congr fun v p => ?_
    constructor
    · rintro ⟨t, rfl, numbers⟩
      exact ⟨rfl, .triple numbers, flat⟩
    · rintro ⟨kind, spelled, -⟩
      cases spelled with
      | triple numbers => exact ⟨_, rfl, numbers⟩
      | _ => cases kind
  | float =>
    refine (accepts_float.map Value.float).congr fun v p => ?_
    constructor
    · rintro ⟨bits, rfl, number⟩
      exact ⟨rfl, .float number, flat⟩
    · rintro ⟨kind, spelled, -⟩
      cases spelled with
      | float number => exact ⟨_, rfl, number⟩
      | _ => cases kind

theorem accepts_recordOver (hg : group.Accepts fun g p => g.Spelling p ∧ g.depth ≤ n)
    (hr : record.Accepts fun r p => r.Spelling p ∧ r.depth + 1 ≤ n) :
    (recordOver group record).Accepts fun r p => r.Spelling p ∧ r.depth ≤ n := by
  refine (accepts_header.bind fun front =>
    (accepts_value hg hr front.2).map (Record.mk front.1)).congr fun r p => ?_
  constructor
  · rintro ⟨⟨label, kind⟩, _, q, rfl, ⟨a, b, c, rfl, rfl⟩, v, rfl, rfl, spelled, shallow⟩
    exact ⟨.mk a b c spelled, shallow⟩
  · rintro ⟨spelled, shallow⟩
    cases spelled with
    | mk a b c spelled =>
      exact ⟨(_, _), [a, b, c, _], _, rfl, ⟨a, b, c, rfl, rfl⟩, _, rfl, rfl, spelled, shallow⟩

/-- The records up to the closing byte are read in turn, and a mark makes the group extended
wherever it stands.  There are turns enough, since a record takes a byte at least. -/
theorem groupOver_go_eq_ok_iff (hr : record.Accepts fun r p => r.Spelling p ∧ r.depth ≤ n)
    (turns : Bytes) : ∀ {extended : Bool} {done : List Record} {bytes rest : Bytes} {g : Group},
      bytes.length ≤ turns.length →
      (groupOver.go record turns extended done bytes = .ok (g, rest) ↔
        ∃ e fields p, g = .mk (extended || e) (done.reverse ++ fields) ∧ bytes = p ++ rest ∧
          Group.Spelling (.mk e fields) p ∧ ∀ r ∈ fields, r.depth ≤ n) := by
  induction turns with
  | nil =>
    intro extended done bytes rest g enough
    obtain rfl : bytes = [] := List.eq_nil_of_length_eq_zero (Nat.le_zero.1 enough)
    constructor
    · intro result
      cases result
    · rintro ⟨e, fields, p, -, empty, spelled, -⟩
      exact absurd (List.append_eq_nil_iff.1 empty.symm).1 spelled.ne_nil
  | cons turn turns ih =>
    intro extended done bytes rest g enough
    cases bytes with
    | nil =>
      constructor
      · intro result
        cases result
      · rintro ⟨e, fields, p, -, empty, spelled, -⟩
        exact absurd (List.append_eq_nil_iff.1 empty.symm).1 spelled.ne_nil
    | cons b bytes =>
      have fewer : bytes.length ≤ turns.length := Nat.le_of_succ_le_succ enough
      rw [groupOver.go]
      by_cases last : b = groupEnd
      · rw [if_pos last]
        constructor
        · intro result
          cases result
          exact ⟨false, [], [b], by simp, rfl, last ▸ .close, by simp⟩
        · rintro ⟨e, fields, p, rfl, same, spelled, -⟩
          obtain ⟨q, rfl, spelled⟩ := spelled.of_cons_eq_append same
          rcases Group.spelling_cons_iff.1 spelled with
            ⟨-, rfl, rfl, rfl⟩ | ⟨rfl, -⟩ | ⟨⟨no, -⟩, -⟩
          · simp
          · cases last
          · exact absurd last no
      · rw [if_neg last]
        by_cases isMark : b = groupMark
        · rw [if_pos isMark, ih fewer]
          constructor
          · rintro ⟨e, fields, p, rfl, rfl, spelled, shallow⟩
            exact ⟨true, fields, b :: p, by simp, rfl, isMark ▸ .mark spelled, shallow⟩
          · rintro ⟨e, fields, p, rfl, same, spelled, shallow⟩
            obtain ⟨q, rfl, spelled⟩ := spelled.of_cons_eq_append same
            rcases Group.spelling_cons_iff.1 spelled with
              ⟨no, -⟩ | ⟨-, rfl, e', spelled⟩ | ⟨⟨-, no⟩, -⟩
            · exact absurd no last
            · exact ⟨e', fields, q, by simp, rfl, spelled, shallow⟩
            · exact absurd isMark no
        · rw [if_neg isMark]
          constructor
          · intro result
            cases first : record (b :: bytes) with
            | error cause =>
              rw [first] at result
              cases result
            | ok taken =>
              obtain ⟨r, middle⟩ := taken
              rw [first] at result
              obtain ⟨p, same, spelled, hr⟩ := hr.1 first
              obtain ⟨c, q, rfl⟩ := spelled.exists_cons
              obtain ⟨rfl, rfl⟩ := List.cons.inj same
              obtain ⟨e, fields, p', rfl, rfl, others, shallow⟩ :=
                (ih (by simp at fewer ⊢; omega)).1 result
              exact ⟨e, r :: fields, b :: q ++ p', by simp, by simp,
                .field last isMark spelled others, List.forall_mem_cons.2 ⟨hr, shallow⟩⟩
          · rintro ⟨e, fields, p, rfl, same, spelled, shallow⟩
            obtain ⟨q, rfl, spelled⟩ := spelled.of_cons_eq_append same
            rcases Group.spelling_cons_iff.1 spelled with
              ⟨no, -⟩ | ⟨no, -⟩ | ⟨-, r, rs, q, q', rfl, rfl, spelled, others⟩
            · exact absurd no last
            · exact absurd no isMark
            · obtain ⟨deep, shallow⟩ := List.forall_mem_cons.1 shallow
              have first : record (b :: (q ++ q' ++ rest)) = .ok (r, q' ++ rest) :=
                hr.2 ⟨b :: q, by simp, spelled, deep⟩
              rw [first]
              exact (ih (by simp at fewer ⊢; omega)).2 ⟨e, rs, q', by simp, rfl, others, shallow⟩

theorem accepts_groupOver (hr : record.Accepts fun r p => r.Spelling p ∧ r.depth ≤ n) :
    (groupOver record).Accepts fun g p => g.Spelling p ∧ g.depth ≤ n + 1 := by
  intro bytes g rest
  rw [groupOver, groupOver_go_eq_ok_iff hr bytes (Nat.le_refl _)]
  constructor
  · rintro ⟨e, fields, p, rfl, rfl, spelled, shallow⟩
    exact ⟨p, rfl, spelled, Nat.succ_le_succ (Record.depthAll_le_iff.2 shallow)⟩
  · rintro ⟨p, rfl, spelled, shallow⟩
    obtain ⟨e, fields⟩ := g
    exact ⟨e, fields, p, by simp, rfl, spelled,
      Record.depthAll_le_iff.1 (Nat.le_of_succ_le_succ shallow)⟩

end Nested

/-- **A reader of records takes exactly the spellings of records that it goes deep enough for.** -/
theorem accepts_record (n : Nat) : (record n).Accepts fun r p => r.Spelling p ∧ r.depth ≤ n := by
  induction n with
  | zero =>
    refine accepts_recordOver ((Accepts.fail _).congr fun g p => ?_)
      ((Accepts.fail _).congr fun r p => ?_)
    · obtain ⟨e, fields⟩ := g
      simp [Group.depth]
    · simp
  | succ n ih =>
    exact accepts_recordOver (accepts_groupOver ih) (ih.congr fun r p => by
      rw [Nat.succ_le_succ_iff])

end Lobby.Reader

namespace Lobby

open Reader

/-! ### Content -/

theorem decodeAll_go_eq_ok_iff (turns : Bytes) : ∀ {done rs : List Record} {bytes : Bytes},
    bytes.length ≤ turns.length → (decodeAll.go turns done bytes = .ok rs ↔
      ∃ new, rs = done.reverse ++ new ∧
        Chain (fun r p => r.Spelling p ∧ r.depth ≤ maxDepth) new bytes) := by
  have ended {done rs : List Record} : .ok done.reverse = Except.ok (ε := DecodeError) rs ↔
      ∃ new, rs = done.reverse ++ new ∧
        Chain (fun r p => r.Spelling p ∧ r.depth ≤ maxDepth) new [] := by
    constructor
    · intro result
      cases result
      exact ⟨[], by simp, .nil⟩
    · rintro ⟨new, rfl, chain⟩
      cases new with
      | nil => simp
      | cons r new =>
        obtain ⟨q, q', empty, ⟨spelled, -⟩, -⟩ := Chain.cons_iff.1 chain
        obtain ⟨b, q, rfl⟩ := spelled.exists_cons
        cases empty
  induction turns with
  | nil =>
    intro done rs bytes enough
    obtain rfl : bytes = [] := List.eq_nil_of_length_eq_zero (Nat.le_zero.1 enough)
    exact ended
  | cons turn turns ih =>
    intro done rs bytes enough
    cases bytes with
    | nil => exact ended
    | cons b bytes =>
      have fewer : bytes.length ≤ turns.length := Nat.le_of_succ_le_succ enough
      rw [decodeAll.go]
      constructor
      · intro result
        cases first : readRecord (b :: bytes) with
        | error cause =>
          rw [first] at result
          cases result
        | ok taken =>
          obtain ⟨r, rest⟩ := taken
          rw [first] at result
          obtain ⟨p, same, spelled⟩ := (accepts_record maxDepth).1 first
          obtain ⟨c, q, rfl⟩ := spelled.1.exists_cons
          obtain ⟨rfl, rfl⟩ := List.cons.inj same
          obtain ⟨new, rfl, chain⟩ := (ih (by simp at fewer ⊢; omega)).1 result
          exact ⟨r :: new, by simp, .cons spelled chain⟩
      · rintro ⟨new, rfl, chain⟩
        cases new with
        | nil => cases chain
        | cons r new =>
          obtain ⟨q, rest, same, spelled, chain⟩ := Chain.cons_iff.1 chain
          obtain ⟨c, p, rfl⟩ := spelled.1.exists_cons
          have first : readRecord (b :: bytes) = .ok (r, rest) :=
            (accepts_record maxDepth).2 ⟨c :: p, same, spelled⟩
          have taken := congrArg List.length same
          simp only [List.length_append, List.length_cons] at taken
          rw [first]
          exact (ih (by omega)).2 ⟨new, by simp, chain⟩

/-- **The decoder accepts exactly the grammar.**  It takes a record off the front exactly if the
bytes open with a spelling of it that is nested no deeper than 128 levels; two spellings that some
bytes open with are one, of one record; and content is decoded exactly if it is such spellings, one
after the other. -/
theorem readRecord_iff_spelling :
    (∀ bytes r rest, readRecord bytes = .ok (r, rest) ↔
      ∃ p, bytes = p ++ rest ∧ r.Spelling p ∧ r.depth ≤ 128) ∧
    (∀ p q rest rest' (r s : Record), r.Spelling p → s.Spelling q → p ++ rest = q ++ rest' →
      r = s ∧ p = q ∧ rest = rest') ∧
    ∀ bytes rs, decodeAll bytes = .ok rs ↔
      Chain (fun r p => r.Spelling p ∧ r.depth ≤ 128) rs bytes := by
  refine ⟨fun bytes r rest => @accepts_record maxDepth bytes r rest,
    fun p q rest rest' r s hr hs same => ?_, fun bytes rs => ?_⟩
  · have deepR := Nat.le_max_left r.depth s.depth
    have deepS := Nat.le_max_right r.depth s.depth
    exact (accepts_record (max r.depth s.depth)).unique ⟨hr, deepR⟩ ⟨hs, deepS⟩ same
  · rw [decodeAll, decodeAll_go_eq_ok_iff bytes (Nat.le_refl _)]
    simp [maxDepth]

/-- A group with two marks and a negative zero, and a text without a closing byte. -/
theorem readRecord_iff_spelling_loose :
    let p : Bytes := [1, 2, 3, 3, 0x02, 9, 9, 9, 0, 0x40, 0x02, 0x00]
    let rest : Bytes := [4, 4, 4, 1, 0x80, 0x00]
    let r : Record := .mk (.ofTag 1 2 3) (.group (.mk true [.mk (.ofTag 9 9 9) (.varint 0)]))
    let s : Record := .mk (.ofTag 4 4 4) (.string "")
    Chain (fun r p => r.Spelling p ∧ r.depth ≤ 128) [r, s] (p ++ rest) ∧
      ∃ q, p ++ rest = q ++ rest ∧ (r.Spelling q ∧ r.depth ≤ 128) ∧ p = q := by
  intro p rest r s
  have first : readRecord (p ++ rest) = .ok (r, rest) := by rfl
  have both : decodeAll (p ++ rest) = .ok [r, s] := by rfl
  have zero : Varint.Spelling 0 [0x40] := ⟨by decide, by simp [Varint.Ends], by decide⟩
  have derived : r.Spelling p :=
    .mk 1 2 3 (.group (.mark (.field (by decide) (by decide) (.mk 9 9 9 (.varint zero))
      (.mark .close))))
  obtain ⟨q, same, spelled⟩ := (readRecord_iff_spelling.1 _ _ _).1 first
  have alike := readRecord_iff_spelling.2.1 p q rest rest r r derived spelled.1 same
  exact ⟨(readRecord_iff_spelling.2.2 _ _).1 both, q, same, spelled, alike.2.1⟩

end Lobby
