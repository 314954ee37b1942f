import Lobby.Proofs.Record.Nesting
import Lobby.Proofs.Record.Varint

/-!
# The grammar of records

Which bytes spell a record is said here by rules, without a reader.  A value has many spellings:
numbers of any length up to ten bytes, a negative zero, an empty text with and without a closing
byte, any closing byte, any number of marks in an extended group.  The rules bound no nesting;
`Record.depth` counts it.

* `Chain R`: spellings by `R` one after the other.
* `Record.Spelling`: a tag, the code of a kind and a spelling of a value of that kind.
* `Group.Spelling`: marks and records up to the closing byte; the group is extended if there is a
  mark.
-/

namespace Lobby

/-- Spellings of several values, one after the other. -/
inductive Chain {α : Type} (R : α → Bytes → Prop) : List α → Bytes → Prop
  | nil : Chain R [] []
  | cons {a : α} {as : List α} {p q : Bytes} (first : R a p) (rest : Chain R as q) :
      Chain R (a :: as) (p ++ q)

namespace Chain

variable {α : Type} {R S : α → Bytes → Prop}

theorem nil_iff {p : Bytes} : Chain R [] p ↔ p = [] := by
  constructor
  · intro h
    cases h
    rfl
  · rintro rfl
    exact nil

theorem cons_iff {a : α} {as : List α} {p : Bytes} :
    Chain R (a :: as) p ↔ ∃ q r, p = q ++ r ∧ R a q ∧ Chain R as r := by
  constructor
  · intro h
    cases h with
    | cons first rest => exact ⟨_, _, rfl, first, rest⟩
  · rintro ⟨q, r, rfl, first, rest⟩
    exact cons first rest

/-- A condition on the values of a chain is one on each of them. -/
theorem and_iff {P : α → Prop} {as : List α} {p : Bytes} :
    Chain (fun a p => R a p ∧ P a) as p ↔ Chain R as p ∧ ∀ a ∈ as, P a := by
  induction as generalizing p with
  | nil => simp [nil_iff]
  | cons a as ih =>
    simp only [cons_iff, ih, List.forall_mem_cons]
    constructor
    · rintro ⟨q, r, rfl, ⟨first, ha⟩, rest, has⟩
      exact ⟨⟨q, r, rfl, first, rest⟩, ha, has⟩
    · rintro ⟨⟨q, r, rfl, first, rest⟩, ha, has⟩
      exact ⟨q, r, rfl, ⟨first, ha⟩, rest, has⟩

end Chain

/-! ### Scalars -/

def Length.Spelling (n : Nat) (p : Bytes) : Prop :=
  ∃ v : Int64, v.toInt = n ∧ Varint.Spelling v p

/-- A text is spelled by its length, its bytes and any byte, which the length counts; the empty text
also by a length of zero. -/
inductive Text.Spelling : String → Bytes → Prop
  | empty {p : Bytes} (length : Length.Spelling 0 p) : Text.Spelling "" p
  | closed {s : String} {p : Bytes} (length : Length.Spelling ((Bytes.ofString s).length + 1) p)
      (close : UInt8) : Text.Spelling s (p ++ (Bytes.ofString s ++ [close]))

inductive Triple.Spelling : Int64 × Int64 × Int64 → Bytes → Prop
  | mk {a b c : Int64} {p q r : Bytes} (first : Varint.Spelling a p) (second : Varint.Spelling b q)
      (third : Varint.Spelling c r) : Triple.Spelling (a, b, c) (p ++ (q ++ r))

/-- The bits of a float, high byte first. -/
inductive Bits.Spelling : UInt32 → Bytes → Prop
  | mk (a b c d : UInt8) : Bits.Spelling (UInt32.ofNat (Bytes.toNat32 a b c d)) [a, b, c, d]

/-! ### Nested values -/

mutual

inductive Record.Spelling : Record → Bytes → Prop
  | mk (a b c : UInt8) {v : Value} {p : Bytes} (value : Value.Spelling v p) :
      Record.Spelling (.mk (.ofTag a b c) v) (a :: b :: c :: v.kind.code :: p)

inductive Value.Spelling : Value → Bytes → Prop
  | varint {n : Int64} {p : Bytes} (number : Varint.Spelling n p) : Value.Spelling (.varint n) p
  | string {s : String} {p : Bytes} (text : Text.Spelling s p) : Value.Spelling (.string s) p
  | blob {bytes p : Bytes} (length : Length.Spelling bytes.length p) :
      Value.Spelling (.blob bytes) (p ++ bytes)
  | group {g : Group} {p : Bytes} (body : Group.Spelling g p) : Value.Spelling (.group g) p
  | list {xs : Items} {count p : Bytes} (length : Length.Spelling xs.length count)
      (items : Items.Spelling xs p) :
      Value.Spelling (.list xs) (xs.kind.valueKind.code :: (count ++ p))
  | map {k v : CellKind} {rows : List (k.Cell × v.Cell)} {count p : Bytes}
      (length : Length.Spelling rows.length count) (cells : Rows.Spelling k v rows p) :
      Value.Spelling (.map (k.column (rows.map (·.1))) (v.column (rows.map (·.2))))
        (k.valueKind.code :: v.valueKind.code :: (count ++ p))
  | unset : Value.Spelling .unset [unsetDiscriminant]
  | union (d : Discriminant) {r : Record} {p : Bytes} (record : Record.Spelling r p) :
      Value.Spelling (.union d r) (d.val :: p)
  | varintList {ns : List Int64} {count p : Bytes} (length : Length.Spelling ns.length count)
      (numbers : Chain Varint.Spelling ns p) : Value.Spelling (.varintList ns) (count ++ p)
  | pair {a b : Int64} {p q : Bytes} (first : Varint.Spelling a p) (second : Varint.Spelling b q) :
      Value.Spelling (.pair a b) (p ++ q)
  | triple {a b c : Int64} {p : Bytes} (numbers : Triple.Spelling (a, b, c) p) :
      Value.Spelling (.triple a b c) p
  | float {bits : UInt32} {p : Bytes} (number : Bits.Spelling bits p) :
      Value.Spelling (.float bits) p

/-- What stands between the start of a group and the byte after it. -/
inductive Group.Spelling : Group → Bytes → Prop
  | close : Group.Spelling (.mk false []) [groupEnd]
  | mark {e : Bool} {fields : List Record} {p : Bytes} (rest : Group.Spelling (.mk e fields) p) :
      Group.Spelling (.mk true fields) (groupMark :: p)
  | field {e : Bool} {r : Record} {fields : List Record} {b : UInt8} {p q : Bytes}
      (noEnd : b ≠ groupEnd) (noMark : b ≠ groupMark) (record : Record.Spelling r (b :: p))
      (rest : Group.Spelling (.mk e fields) q) : Group.Spelling (.mk e (r :: fields)) (b :: p ++ q)

/-- The elements of a list, without their count. -/
inductive Items.Spelling : Items → Bytes → Prop
  | varints {ns : List Int64} {p : Bytes} (numbers : Chain Varint.Spelling ns p) :
      Items.Spelling (.varints ns) p
  | strings {ss : List String} {p : Bytes} (texts : Chain Text.Spelling ss p) :
      Items.Spelling (.strings ss) p
  | groups {gs : List Group} {p : Bytes} (bodies : Chain Group.Spelling gs p) :
      Items.Spelling (.groups gs) p
  | triples {ts : List (Int64 × Int64 × Int64)} {p : Bytes} (triples : Chain Triple.Spelling ts p) :
      Items.Spelling (.triples ts) p

inductive CellKind.Spelling : (kind : CellKind) → kind.Cell → Bytes → Prop
  | varint {n : Int64} {p : Bytes} (number : Varint.Spelling n p) : CellKind.Spelling .varint n p
  | string {s : String} {p : Bytes} (text : Text.Spelling s p) : CellKind.Spelling .string s p
  | group {g : Group} {p : Bytes} (body : Group.Spelling g p) : CellKind.Spelling .group g p
  | float {bits : UInt32} {p : Bytes} (number : Bits.Spelling bits p) :
      CellKind.Spelling .float bits p

/-- The rows of a map, without their count: each a key and its value. -/
inductive Rows.Spelling : (k v : CellKind) → List (k.Cell × v.Cell) → Bytes → Prop
  | nil {k v : CellKind} : Rows.Spelling k v [] []
  | cons {k v : CellKind} {x : k.Cell} {y : v.Cell} {rows : List (k.Cell × v.Cell)} {p q r : Bytes}
      (key : CellKind.Spelling k x p) (value : CellKind.Spelling v y q)
      (rest : Rows.Spelling k v rows r) : Rows.Spelling k v ((x, y) :: rows) (p ++ q ++ r)

end

/-- The rows of a map are a chain of pairs. -/
theorem Rows.spelling_iff {k v : CellKind} {rows : List (k.Cell × v.Cell)} {p : Bytes} :
    Rows.Spelling k v rows p ↔ Chain (fun row p => ∃ q r, p = q ++ r ∧
      CellKind.Spelling k row.1 q ∧ CellKind.Spelling v row.2 r) rows p := by
  constructor
  · intro h
    induction rows generalizing p with
    | nil =>
      cases h
      exact .nil
    | cons row rows ih =>
      cases h with
      | cons key value rest => exact .cons ⟨_, _, rfl, key, value⟩ (ih rest)
  · intro h
    induction h with
    | nil => exact .nil
    | cons first _ ih =>
      obtain ⟨q, r, rfl, key, value⟩ := first
      exact .cons key value ih

/-- A group opens with its closing byte, with a mark or with a record. -/
theorem Group.spelling_cons_iff {e : Bool} {fields : List Record} {b : UInt8} {p : Bytes} :
    Group.Spelling (.mk e fields) (b :: p) ↔
      b = groupEnd ∧ e = false ∧ fields = [] ∧ p = [] ∨
      b = groupMark ∧ e = true ∧ (∃ e', Group.Spelling (.mk e' fields) p) ∨
      (b ≠ groupEnd ∧ b ≠ groupMark) ∧ ∃ r rs q q', fields = r :: rs ∧ p = q ++ q' ∧
        Record.Spelling r (b :: q) ∧ Group.Spelling (.mk e rs) q' := by
  constructor
  · intro h
    cases h with
    | close => exact .inl ⟨rfl, rfl, rfl, rfl⟩
    | mark rest => exact .inr (.inl ⟨rfl, rfl, _, rest⟩)
    | field noEnd noMark record rest =>
      exact .inr (.inr ⟨⟨noEnd, noMark⟩, _, _, _, _, rfl, rfl, record, rest⟩)
  · rintro (⟨rfl, rfl, rfl, rfl⟩ | ⟨rfl, rfl, e', rest⟩ | ⟨⟨noEnd, noMark⟩, r, rs, q, q', rfl, rfl,
      record, rest⟩)
    · exact .close
    · exact .mark rest
    · exact .field noEnd noMark record rest

theorem Group.Spelling.ne_nil {g : Group} {p : Bytes} (h : Group.Spelling g p) : p ≠ [] := by
  cases h <;> exact List.cons_ne_nil _ _

/-- The first byte of some bytes is the first of the spelling that they open with. -/
theorem Group.Spelling.of_cons_eq_append {g : Group} {b : UInt8} {bytes p rest : Bytes}
    (h : Group.Spelling g p) (same : b :: bytes = p ++ rest) :
    ∃ q, bytes = q ++ rest ∧ Group.Spelling g (b :: q) := by
  obtain ⟨c, q, rfl⟩ := List.exists_cons_of_ne_nil h.ne_nil
  obtain ⟨rfl, rfl⟩ := List.cons.inj same
  exact ⟨q, rfl, h⟩

theorem Record.Spelling.exists_cons {r : Record} {p : Bytes} (h : Record.Spelling r p) :
    ∃ b q, p = b :: q := by
  cases h
  exact ⟨_, _, rfl⟩

end Lobby
