import Lobby.Proofs.Record.Acceptance
import Lobby.Proofs.Record.Loops
import Lobby.Record.Lookup
import Mathlib.Algebra.BigOperators.Group.List.Basic
import Mathlib.Algebra.GroupWithZero.Nat
import Mathlib.Algebra.Order.Group.Nat

/-!
# What a record weighs

A reader never makes much out of little.  A value weighs five for the record it belongs to, one for
each element of its collections and one for each byte of its texts, so the weight of content counts
its records, its elements and its bytes at all levels (`Record.totalAll_weight`).

`read.Consumes w` says that a value takes at least as many bytes as `w` gives for it.  As with
`Reader.Yields`, each reader has one law, and **a record weighs no more than the bytes it was read
from** (`Reader.consumes_record`).
-/

namespace Lobby

/-! ### Totals -/

mutual

/-- The sum of `f` over the values of a record and of all records inside it. -/
def Record.total (f : Value → Nat) : Record → Nat
  | .mk _ v => f v + Value.inside f v

def Value.inside (f : Value → Nat) : Value → Nat
  | .group g => Group.total f g
  | .list items => Items.total f items
  | .map keys values => Column.total f keys + Column.total f values
  | .union _ r => Record.total f r
  | _ => 0

def Group.total (f : Value → Nat) : Group → Nat
  | .mk _ fields => Record.totalAll f fields

def Items.total (f : Value → Nat) : Items → Nat
  | .groups gs => Group.totalAll f gs
  | _ => 0

def Column.total (f : Value → Nat) : Column → Nat
  | .groups gs => Group.totalAll f gs
  | _ => 0

def Record.totalAll (f : Value → Nat) : List Record → Nat
  | [] => 0
  | r :: rs => Record.total f r + Record.totalAll f rs

def Group.totalAll (f : Value → Nat) : List Group → Nat
  | [] => 0
  | g :: gs => Group.total f g + Group.totalAll f gs

end

def Text.octets (s : String) : Nat := (Bytes.ofString s).length

def Items.octets : Items → Nat
  | .strings ss => (ss.map Text.octets).sum
  | _ => 0

def Column.octets : Column → Nat
  | .strings ss => (ss.map Text.octets).sum
  | _ => 0

namespace Value

/-- The number of elements of a collection.  A key and a value of a map are two. -/
def elements : Value → Nat
  | list items => items.length
  | map keys values => keys.length + values.length
  | varintList ns => ns.length
  | _ => 0

/-- The number of bytes of the texts and the blob in a value, apart from records inside it. -/
def octets : Value → Nat
  | string s => Text.octets s
  | blob bytes => bytes.length
  | list items => items.octets
  | map keys values => keys.octets + values.octets
  | _ => 0

def weight (v : Value) : Nat := 5 + v.elements + v.octets

end Value

mutual

theorem Record.total_weight : ∀ r : Record,
    r.total Value.weight = 5 * r.count + r.total Value.elements + r.total Value.octets
  | .mk _ v => by
    have := Value.inside_weight v
    simp only [Record.total, Record.count, Value.weight]
    omega

theorem Value.inside_weight : ∀ v : Value,
    v.inside Value.weight = 5 * v.count + v.inside Value.elements + v.inside Value.octets
  | .group g => Group.total_weight g
  | .list items => Items.total_weight items
  | .map keys values => by
    have := Column.total_weight keys
    have := Column.total_weight values
    simp only [Value.inside, Value.count]
    omega
  | .union _ r => Record.total_weight r
  | .varint _ | .string _ | .blob _ | .unset | .varintList _ | .pair _ _ | .triple _ _ _
  | .float _ => rfl

theorem Group.total_weight : ∀ g : Group,
    g.total Value.weight = 5 * g.count + g.total Value.elements + g.total Value.octets
  | .mk _ fields => Record.totalAll_weight fields

theorem Items.total_weight : ∀ items : Items,
    items.total Value.weight =
      5 * items.count + items.total Value.elements + items.total Value.octets
  | .groups gs => Group.totalAll_weight gs
  | .varints _ | .strings _ | .triples _ => rfl

theorem Column.total_weight : ∀ c : Column,
    c.total Value.weight = 5 * c.count + c.total Value.elements + c.total Value.octets
  | .groups gs => Group.totalAll_weight gs
  | .varints _ | .strings _ | .floats _ => rfl

/-- The weight of content counts its records, its elements and its bytes. -/
theorem Record.totalAll_weight : ∀ rs : List Record,
    Record.totalAll Value.weight rs =
      5 * Record.countAll rs + Record.totalAll Value.elements rs + Record.totalAll Value.octets rs
  | [] => rfl
  | r :: rs => by
    have := Record.total_weight r
    have := Record.totalAll_weight rs
    simp only [Record.totalAll, Record.countAll]
    omega

theorem Group.totalAll_weight : ∀ gs : List Group,
    Group.totalAll Value.weight gs =
      5 * Group.countAll gs + Group.totalAll Value.elements gs + Group.totalAll Value.octets gs
  | [] => rfl
  | g :: gs => by
    have := Group.total_weight g
    have := Group.totalAll_weight gs
    simp only [Group.totalAll, Group.countAll]
    omega

end

theorem Group.totalAll_eq_sum (f : Value → Nat) (gs : List Group) :
    Group.totalAll f gs = (gs.map (Group.total f)).sum := by
  induction gs with
  | nil => rfl
  | cons g gs ih => rw [Group.totalAll, ih, List.map_cons, List.sum_cons]

/-- What a cell weighs, apart from being an element. -/
def CellKind.load : (kind : CellKind) → kind.Cell → Nat
  | .string, s => Text.octets s
  | .group, g => g.total Value.weight
  | .varint, _ => 0
  | .float, _ => 0

theorem CellKind.load_column {kind : CellKind} (cells : List kind.Cell) :
    (kind.column cells).total Value.weight + (kind.column cells).octets =
      (cells.map kind.load).sum := by
  cases kind with
  | varint =>
    show 0 = (cells.map fun _ => 0).sum
    simp
  | string =>
    show 0 + (cells.map Text.octets).sum = (cells.map Text.octets).sum
    rw [Nat.zero_add]
  | group =>
    show Group.totalAll Value.weight cells + 0 = (cells.map (Group.total Value.weight)).sum
    rw [Nat.add_zero, Group.totalAll_eq_sum]
  | float =>
    show 0 = (cells.map fun _ => 0).sum
    simp

/-- A sum of numbers that are one more each. -/
theorem sum_map_succ {α : Type} (f : α → Nat) (xs : List α) :
    (xs.map fun x => f x + 1).sum = (xs.map f).sum + xs.length := by
  induction xs with
  | nil => rfl
  | cons x xs ih =>
    simp only [List.map_cons, List.sum_cons, List.length_cons, ih]
    omega

namespace Reader

variable {α β : Type}

/-- A value takes at least as many bytes as `w` gives for it. -/
def Consumes (read : Reader α) (w : α → Nat) : Prop :=
  ∀ ⦃bytes a rest⦄, read bytes = .ok (a, rest) → w a + rest.length ≤ bytes.length

namespace Consumes

variable {read : Reader α} {w w' : α → Nat} {v : β → Nat}

theorem pure {a : α} (free : w a = 0) : Consumes (pure a) w := by
  intro bytes b rest result
  cases result
  omega

theorem fail (cause : DecodeError) : Consumes (fail cause) w := by
  intro bytes a rest result
  cases result

/-- The second reader takes what the first has left to take. -/
theorem bind {next : α → Reader β} (h : read.Consumes w)
    (hn : ∀ a, (next a).Consumes fun b => v b - w a) : Consumes (read >>= next) v := by
  intro bytes b rest result
  obtain ⟨a, middle, first, second⟩ := of_bind result
  have := h first
  have : v b - w a + rest.length ≤ middle.length := hn a second
  omega

theorem mono (h : read.Consumes w) (less : ∀ a, w' a ≤ w a) : read.Consumes w' := by
  intro bytes a rest result
  have := h result
  have := less a
  omega

theorem map {f : α → β} (h : read.Consumes w) (less : ∀ a, v (f a) ≤ w a) :
    Consumes (read >>= fun a => Pure.pure (f a)) v :=
  h.bind fun a => .pure (Nat.sub_eq_zero_of_le (less a))

end Consumes

/-! ### Scalars -/

theorem consumes_byte : byte.Consumes fun _ => 1 := by
  intro bytes b rest result
  cases bytes with
  | nil => cases result
  | cons b bytes =>
    cases result
    simp only [List.length_cons]
    omega

theorem consumes_take (n : Nat) : (take n).Consumes List.length := by
  intro bytes front rest result
  simp only [take] at result
  split at result
  · cases result
  · cases result
    simp only [List.length_take, List.length_drop]
    omega

theorem consumes_varint : varint.Consumes fun _ => 1 := by
  intro bytes v rest result
  obtain ⟨p, rfl, spelled⟩ := accepts_varint.1 result
  have nonempty : p ≠ [] := by
    rintro rfl
    exact spelled.ends
  have := List.length_pos_iff.2 nonempty
  rw [List.length_append]
  exact Nat.add_le_add_right this rest.length

theorem consumes_length : length.Consumes fun _ => 1 := by
  refine consumes_varint.bind fun n => ?_
  split
  · exact .fail _
  · exact .pure rfl

theorem consumes_string : string.Consumes fun s => Text.octets s + 1 := by
  refine consumes_length.bind fun n => ?_
  split
  · exact .pure (by decide)
  · refine (consumes_take n).bind fun bytes => ?_
    split
    · next s text =>
      refine .pure ?_
      have bytes := congrArg List.length (Bytes.eq_ofString_of_toString? text)
      rw [List.length_dropLast] at bytes
      rw [Text.octets]
      omega
    · exact .fail _

theorem consumes_blob : blob.Consumes fun bytes => bytes.length + 1 :=
  consumes_length.bind fun n => (consumes_take n).mono fun _ => Nat.le_of_eq (Nat.add_sub_cancel ..)

theorem consumes_triple : triple.Consumes fun _ => 1 :=
  consumes_varint.bind fun _ => consumes_varint.bind fun _ => consumes_varint.map fun _ =>
    Nat.zero_le 1

theorem consumes_float : float.Consumes fun _ => 1 := by
  intro bytes bits rest result
  match bytes with
  | a :: b :: c :: d :: bytes =>
    cases result
    simp only [List.length_cons]
    omega
  | [] | [_] | [_, _] | [_, _, _] => cases result

/-! ### Sequences -/

theorem consumes_times {read : Reader α} {w : α → Nat} (h : read.Consumes w) (n : Nat) :
    (times read n).Consumes fun as => (as.map w).sum := by
  induction n with
  | zero => exact .pure rfl
  | succ n ih =>
    rw [times_succ]
    refine h.bind fun a => ih.map fun as => ?_
    simp only [List.map_cons, List.sum_cons]
    omega

/-! ### Nested values -/

section Nested

variable {group : Reader Group} {record : Reader Record}

theorem consumes_valueKind : valueKind.Consumes fun _ => 1 := by
  refine consumes_byte.bind fun code => ?_
  split
  · exact .pure rfl
  · exact .fail _

theorem consumes_itemKind (kind : ValueKind) : (itemKind kind).Consumes fun _ => 0 := by
  unfold itemKind
  split
  · exact .pure rfl
  · exact .fail _

theorem consumes_cellKind (kind : ValueKind) : (cellKind kind).Consumes fun _ => 0 := by
  unfold cellKind
  split
  · exact .pure rfl
  · exact .fail _

theorem consumes_items (hg : group.Consumes fun g => g.total Value.weight + 1) :
    (items group).Consumes fun items =>
      items.total Value.weight + items.octets + items.length + 1 := by
  refine consumes_valueKind.bind fun kind => consumes_length.bind fun count => ?_
  refine (consumes_itemKind kind).bind fun kind => ?_
  cases kind with
  | varint =>
    refine (consumes_times consumes_varint count).map fun ns => ?_
    simp [Items.total, Items.octets, Items.length]
  | string =>
    refine (consumes_times consumes_string count).map fun ss => ?_
    simp only [Items.total, Items.octets, Items.length, sum_map_succ]
    omega
  | group =>
    refine (consumes_times hg count).map fun gs => ?_
    simp only [Items.total, Items.octets, Items.length, sum_map_succ, Group.totalAll_eq_sum]
    omega
  | triple =>
    refine (consumes_times consumes_triple count).map fun ts => ?_
    simp [Items.total, Items.octets, Items.length]

theorem consumes_cell (hg : group.Consumes fun g => g.total Value.weight + 1) (kind : CellKind) :
    (cell group kind).Consumes fun c => kind.load c + 1 := by
  cases kind with
  | varint => exact consumes_varint
  | string => exact consumes_string
  | group => exact hg
  | float => exact consumes_float

theorem consumes_columns (hg : group.Consumes fun g => g.total Value.weight + 1) :
    (columns group).Consumes fun c =>
      (Value.map c.1 c.2).inside Value.weight + (Value.map c.1 c.2).octets +
        (Value.map c.1 c.2).elements + 1 := by
  refine consumes_valueKind.bind fun keyKind => consumes_valueKind.bind fun valueKind => ?_
  refine consumes_length.bind fun count => ?_
  refine (consumes_cellKind keyKind).bind fun keyKind => ?_
  refine (consumes_cellKind valueKind).bind fun valueKind => ?_
  have row : Consumes (do
      let key ← cell group keyKind
      let value ← cell group valueKind
      return (key, value)) fun r => keyKind.load r.1 + 1 + (valueKind.load r.2 + 1) := by
    refine (consumes_cell hg keyKind).bind fun key => (consumes_cell hg valueKind).map fun v => ?_
    exact Nat.le_of_eq (Nat.add_sub_cancel_left ..)
  refine (consumes_times row count).map fun rows => ?_
  have keys := CellKind.load_column (rows.map (·.1))
  have values := CellKind.load_column (rows.map (·.2))
  rw [List.map_map] at keys values
  have sum : (rows.map fun r => keyKind.load r.1 + 1 + (valueKind.load r.2 + 1)).sum =
      (rows.map fun r => keyKind.load r.1 + 1).sum +
        (rows.map fun r => valueKind.load r.2 + 1).sum :=
    List.sum_map_add
  simp only [sum_map_succ] at sum
  simp only [Value.inside, Value.octets, Value.elements, CellKind.length_column, List.length_map]
  simp only [Function.comp_def] at keys values
  omega

theorem consumes_union (hr : record.Consumes (Record.total Value.weight)) :
    (union record).Consumes fun v => v.inside Value.weight + v.octets + v.elements + 1 := by
  refine consumes_byte.bind fun d => ?_
  split
  · refine hr.map fun r => ?_
    simp [Value.inside, Value.octets, Value.elements]
  · exact .pure rfl

theorem consumes_value (hg : group.Consumes fun g => g.total Value.weight + 1)
    (hr : record.Consumes (Record.total Value.weight)) (kind : ValueKind) :
    (value group record kind).Consumes fun v =>
      v.inside Value.weight + v.octets + v.elements + 1 := by
  cases kind with
  | varint => exact consumes_varint.map fun _ => Nat.le_refl _
  | string =>
    refine consumes_string.map fun s => ?_
    simp [Value.inside, Value.octets, Value.elements]
  | blob =>
    refine consumes_blob.map fun bytes => ?_
    simp [Value.inside, Value.octets, Value.elements]
  | group => exact hg.map fun g => Nat.le_refl _
  | list => exact (consumes_items hg).map fun items => Nat.le_refl _
  | map => exact (consumes_columns hg).map fun c => Nat.le_refl _
  | union => exact consumes_union hr
  | varintList =>
    refine consumes_length.bind fun count => (consumes_times consumes_varint count).map fun ns => ?_
    simp [Value.inside, Value.octets, Value.elements]
  | pair =>
    exact consumes_varint.bind fun _ => consumes_varint.map fun _ => Nat.zero_le 1
  | triple => exact consumes_triple.map fun _ => Nat.le_refl _
  | float => exact consumes_float.map fun _ => Nat.le_refl _

theorem consumes_header : header.Consumes fun _ => 4 := by
  intro bytes front rest result
  obtain ⟨label, kind⟩ := front
  rw [eq_of_header result]
  simp only [List.length_cons]
  omega

theorem consumes_recordOver (hg : group.Consumes fun g => g.total Value.weight + 1)
    (hr : record.Consumes (Record.total Value.weight)) :
    (recordOver group record).Consumes (Record.total Value.weight) := by
  refine consumes_header.bind fun (label, kind) => (consumes_value hg hr kind).map fun v => ?_
  simp only [Record.total, Value.weight]
  omega

/-- By induction on the number of bytes, one turn of the loop at a time.  The closing byte is what a
group takes besides its records. -/
theorem consumes_groupOver (shorter : record.Shortens)
    (hr : record.Consumes (Record.total Value.weight)) :
    (groupOver record).Consumes fun g => g.total Value.weight + 1 := by
  intro bytes
  induction bytes using (measure List.length).wf.induction with
  | h bytes ih =>
    intro g rest result
    cases bytes with
    | nil => cases result
    | cons b bytes =>
      rw [List.length_cons]
      rcases of_groupOver_cons shorter result with
        ⟨rfl, rfl⟩ | ⟨⟨extended, fields⟩, others, rfl⟩ |
        ⟨r, middle, ⟨extended, fields⟩, first, others, rfl⟩
      · simp only [Group.total, Record.totalAll]
        omega
      · have := ih bytes (Nat.lt_succ_self _) others
        simp only [Group.total, Group.fields] at this ⊢
        omega
      · have less := shorter first
        have front := hr first
        rw [List.length_cons] at less front
        have := ih middle (shorter first) others
        simp only [Group.total, Group.fields, Record.totalAll] at this ⊢
        omega

end Nested

/-- **A record weighs no more than the bytes it was read from.** -/
theorem consumes_record (n : Nat) : (record n).Consumes (Record.total Value.weight) := by
  induction n with
  | zero => exact consumes_recordOver (.fail _) (.fail _)
  | succ n ih => exact consumes_recordOver (consumes_groupOver (shortens_record n) ih) ih

theorem consumes_groupWithin : ∀ n : Nat,
    (groupWithin n).Consumes fun g => g.total Value.weight + 1
  | 0 => .fail _
  | n + 1 => consumes_groupOver (shortens_record n) (consumes_record n)

/-- An element of a collection takes at least a byte. -/
theorem consumes_element (n : Nat) (kind : CellKind) :
    (cell (groupWithin n) kind).Consumes fun _ => 1 :=
  (consumes_cell (consumes_groupWithin n) kind).mono fun _ => Nat.le_add_left ..

end Reader

end Lobby
