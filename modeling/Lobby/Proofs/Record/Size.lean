import Lobby.Proofs.Record.Nesting
import Lobby.Record.Lookup
import Lobby.Record.Writer
import Mathlib.Algebra.GroupWithZero.Nat
import Mathlib.Algebra.Order.BigOperators.Group.List
import Mathlib.Algebra.Order.Group.Nat
import Mathlib.Data.List.Forall2

/-!
# Sizes of records

`size` counts the bytes that the writer takes for a value, whatever follows them.  So the bytes of
content are as many as the sizes of its records add up to, and a text or a map is never larger than
the content it is in.

Texts and attributes that fit into memory therefore have no length that a varint cannot express, so
they are sound (`Record.sound_string`, `Record.sound_attributes`).
-/

namespace Lobby

/-! ### Numbers and texts -/

namespace Varint

theorem digitCount_zero : digitCount 0 = 0 := by rw [digitCount, if_pos rfl]

theorem digitCount_of_pos {n : Nat} (positive : 0 < n) :
    digitCount n = digitCount (n / 128) + 1 := by
  rw [digitCount, if_neg (by omega)]

theorem length_writeDigits (n : Nat) (rest : Bytes) (positive : 0 < n) :
    (writeDigits n rest).length = digitCount n + rest.length := by
  induction n using writeDigits.induct with
  | case1 n small =>
    rw [writeDigits, if_pos small, digitCount_of_pos positive, Nat.div_eq_of_lt small,
      digitCount_zero, List.length_cons]
    omega
  | case2 n large ih =>
    rw [writeDigits, if_neg large, List.length_cons, ih (by omega), digitCount_of_pos positive]
    omega

theorem length_write (v : Int64) (rest : Bytes) : (write v rest).length = size v + rest.length := by
  rw [write, size]
  split
  · next small =>
    rw [Nat.div_eq_of_lt small, digitCount_zero, List.length_cons]
    omega
  · next large =>
    rw [List.length_cons, length_writeDigits _ _ (by omega)]
    omega

theorem digitCount_le {k : Nat} : ∀ {n : Nat}, n < 128 ^ k → digitCount n ≤ k := by
  induction k with
  | zero =>
    intro n small
    obtain rfl := Nat.lt_one_iff.1 small
    exact Nat.le_of_eq digitCount_zero
  | succ k ih =>
    intro n small
    rw [digitCount]
    split
    · exact Nat.zero_le _
    · have fewer : n / 128 < 128 ^ k := by
        rw [Nat.div_lt_iff_lt_mul (by decide), ← Nat.pow_succ]
        exact small
      exact Nat.succ_le_succ (ih fewer)

/-- A number takes at most ten bytes. -/
theorem size_le (v : Int64) : size v ≤ 10 := by
  have low := v.le_toInt
  have high := v.toInt_lt
  have small : v.toInt.natAbs / 64 < 128 ^ 9 := by omega
  exact Nat.succ_le_succ (digitCount_le small)

theorem one_le_size (v : Int64) : 1 ≤ size v := Nat.le_add_left 1 _

end Varint

namespace Writer

def lengthSize (n : Nat) : Nat := Varint.size (Int64.ofNat n)

def stringSize (s : String) : Nat :=
  lengthSize ((Bytes.ofString s).length + 1) + (Bytes.ofString s).length + 1

theorem length_length (n : Nat) (rest : Bytes) :
    (length n rest).length = lengthSize n + rest.length :=
  Varint.length_write _ rest

theorem length_string (s : String) (rest : Bytes) :
    (string s rest).length = stringSize s + rest.length := by
  rw [string, length_length, List.length_append, List.length_cons, stringSize]
  omega

def tripleSize (t : Int64 × Int64 × Int64) : Nat :=
  Varint.size t.1 + Varint.size t.2.1 + Varint.size t.2.2

theorem length_triple (t : Int64 × Int64 × Int64) (rest : Bytes) :
    (triple t rest).length = tripleSize t + rest.length := by
  rw [triple, Varint.length_write, Varint.length_write, Varint.length_write, tripleSize]
  omega

theorem length_float (bits : UInt32) (rest : Bytes) :
    (float bits rest).length = 4 + rest.length := by
  rw [float, List.length_append]
  rfl

theorem length_all {α : Type} {write : α → Bytes → Bytes} {size : α → Nat} {xs : List α}
    (one : ∀ x ∈ xs, ∀ rest, (write x rest).length = size x + rest.length) (rest : Bytes) :
    (all write xs rest).length = (xs.map size).sum + rest.length := by
  induction xs with
  | nil => simp [all]
  | cons x xs ih =>
    have others := ih fun y hy => one y (List.mem_cons_of_mem x hy)
    rw [all, List.foldr_cons, ← all, one x List.mem_cons_self, others, List.map_cons, List.sum_cons,
      Nat.add_assoc]

/-- `write` takes `size` bytes, whatever follows them. -/
def Takes (write : Bytes → Bytes) (size : Nat) : Prop :=
  ∀ rest, (write rest).length = size + rest.length

theorem takes_map {α : Type} {write : α → Bytes → Bytes} {size : α → Nat}
    (one : ∀ x, Takes (write x) (size x)) (xs : List α) :
    List.Forall₂ Takes (xs.map write) (xs.map size) := by
  rw [List.forall₂_map_left_iff, List.forall₂_map_right_iff]
  exact List.forall₂_same.2 fun x _ => one x

theorem length_rows {keys values : List (Bytes → Bytes)} {ks vs : List Nat}
    (key : List.Forall₂ Takes keys ks) (value : List.Forall₂ Takes values vs) (rest : Bytes) :
    (rows keys values rest).length = (List.zipWith (· + ·) ks vs).sum + rest.length := by
  induction key generalizing values vs with
  | nil => simp [rows, all]
  | @cons k n keys ks hk _ ih =>
    cases value with
    | nil => simp [rows, all]
    | @cons v m values vs hv others =>
      have tail := ih others
      rw [rows] at tail
      rw [rows, List.zip_cons_cons, all, List.foldr_cons, ← all, hk, hv, tail,
        List.zipWith_cons_cons, List.sum_cons]
      omega

end Writer

/-! ### Nested values -/

mutual

def Record.size : Record → Nat
  | .mk _ value => Value.size value + 4

def Value.size : Value → Nat
  | .varint n => Varint.size n
  | .string s => Writer.stringSize s
  | .blob bytes => Writer.lengthSize bytes.length + bytes.length
  | .group g => Group.size g
  | .list items => Writer.lengthSize items.length + Items.size items + 1
  | .map keys values =>
    Writer.lengthSize keys.length +
      (List.zipWith (· + ·) (Column.sizes keys) (Column.sizes values)).sum + 2
  | .unset => 1
  | .union _ r => Record.size r + 1
  | .varintList ns => Writer.lengthSize ns.length + (ns.map Varint.size).sum
  | .pair a b => Varint.size a + Varint.size b
  | .triple a b c => Writer.tripleSize (a, b, c)
  | .float _ => 4

def Group.size : Group → Nat
  | .mk extended fields => Record.sizeAll fields + if extended then 2 else 1

def Items.size : Items → Nat
  | .varints ns => (ns.map Varint.size).sum
  | .strings ss => (ss.map Writer.stringSize).sum
  | .groups gs => (Group.sizes gs).sum
  | .triples ts => (ts.map Writer.tripleSize).sum

def Column.sizes : Column → List Nat
  | .varints ns => ns.map Varint.size
  | .strings ss => ss.map Writer.stringSize
  | .groups gs => Group.sizes gs
  | .floats bits => bits.map fun _ => 4

def Record.sizeAll : List Record → Nat
  | [] => 0
  | r :: rs => Record.size r + Record.sizeAll rs

def Group.sizes : List Group → List Nat
  | [] => []
  | g :: gs => Group.size g :: Group.sizes gs

end

mutual

theorem Record.length_write : ∀ (r : Record) (rest : Bytes),
    (Record.write r rest).length = r.size + rest.length
  | .mk label value, rest => by
    simp only [Record.write, List.length_cons, Value.length_write value rest, Record.size]
    omega

theorem Value.length_write : ∀ (v : Value) (rest : Bytes),
    (Value.write v rest).length = v.size + rest.length
  | .varint n, rest => Varint.length_write n rest
  | .string s, rest => Writer.length_string s rest
  | .blob bytes, rest => by
    simp only [Value.write, Writer.blob, Writer.length_length, List.length_append, Value.size]
    omega
  | .group g, rest => Group.length_write g rest
  | .list items, rest => by
    simp only [Value.write, List.length_cons, Writer.length_length, Items.length_write items rest,
      Value.size]
    omega
  | .map keys values, rest => by
    simp only [Value.write, List.length_cons, Writer.length_length,
      Writer.length_rows (Column.takes_cells keys) (Column.takes_cells values), Value.size]
    omega
  | .unset, rest => by
    simp only [Value.write, List.length_cons, Value.size]
    omega
  | .union d r, rest => by
    simp only [Value.write, List.length_cons, Record.length_write r rest, Value.size]
    omega
  | .varintList ns, rest => by
    simp only [Value.write, Writer.length_length, Value.size,
      Writer.length_all fun n _ rest => Varint.length_write n rest]
    omega
  | .pair a b, rest => by
    simp only [Value.write, Varint.length_write, Value.size]
    omega
  | .triple a b c, rest => Writer.length_triple (a, b, c) rest
  | .float bits, rest => Writer.length_float bits rest

theorem Group.length_write : ∀ (g : Group) (rest : Bytes),
    (Group.write g rest).length = g.size + rest.length
  | .mk extended fields, rest => by
    have body := Record.length_writeAll fields (groupEnd :: rest)
    rw [List.length_cons] at body
    cases extended with
    | false =>
      show (Record.writeAll fields (groupEnd :: rest)).length = Record.sizeAll fields + 1 + _
      omega
    | true =>
      show (Record.writeAll fields (groupEnd :: rest)).length + 1 = Record.sizeAll fields + 2 + _
      omega

theorem Items.length_write : ∀ (items : Items) (rest : Bytes),
    (Items.write items rest).length = items.size + rest.length
  | .varints _, rest => Writer.length_all (fun n _ rest => Varint.length_write n rest) rest
  | .strings _, rest => Writer.length_all (fun s _ rest => Writer.length_string s rest) rest
  | .groups gs, rest => Group.length_writeAll gs rest
  | .triples _, rest => Writer.length_all (fun t _ rest => Writer.length_triple t rest) rest

theorem Column.takes_cells : ∀ c : Column, List.Forall₂ Writer.Takes c.cells c.sizes
  | .varints ns => Writer.takes_map Varint.length_write ns
  | .strings ss => Writer.takes_map Writer.length_string ss
  | .groups gs => Group.takes_cells gs
  | .floats bits => Writer.takes_map Writer.length_float bits

theorem Record.length_writeAll : ∀ (rs : List Record) (rest : Bytes),
    (Record.writeAll rs rest).length = Record.sizeAll rs + rest.length
  | [], rest => by
    simp only [Record.writeAll, Record.sizeAll]
    omega
  | r :: rs, rest => by
    simp only [Record.writeAll, Record.length_write r, Record.length_writeAll rs rest,
      Record.sizeAll]
    omega

theorem Group.length_writeAll : ∀ (gs : List Group) (rest : Bytes),
    (Group.writeAll gs rest).length = (Group.sizes gs).sum + rest.length
  | [], rest => by
    simp only [Group.writeAll, Group.sizes, List.sum_nil]
    omega
  | g :: gs, rest => by
    simp only [Group.writeAll, Group.length_write g, Group.length_writeAll gs rest, Group.sizes,
      List.sum_cons]
    omega

theorem Group.takes_cells : ∀ gs : List Group,
    List.Forall₂ Writer.Takes (Group.cells gs) (Group.sizes gs)
  | [] => .nil
  | g :: gs => .cons (Group.length_write g) (Group.takes_cells gs)

end

/-- **The bytes of content are as many as the sizes of its records add up to.** -/
theorem length_encodeAll (rs : List Record) : (encodeAll rs).length = Record.sizeAll rs :=
  Record.length_writeAll rs []

/-! ### Parts of content -/

theorem Group.sizes_eq_map (gs : List Group) : sizes gs = gs.map Group.size := by
  induction gs with
  | nil => rfl
  | cons g gs ih => rw [sizes, ih, List.map_cons]

theorem Group.one_le_size (g : Group) : 1 ≤ g.size := by
  obtain ⟨extended, fields⟩ := g
  cases extended
  · exact Nat.le_add_left 1 _
  · exact Nat.le_add_left_of_le (by decide)

namespace Record

theorem size_le_sizeAll {r : Record} {rs : List Record} (h : r ∈ rs) : r.size ≤ sizeAll rs := by
  induction rs with
  | nil => cases h
  | cons s rs ih =>
    rw [sizeAll]
    rcases List.mem_cons.1 h with rfl | h
    · exact Nat.le_add_right _ _
    · exact Nat.le_add_left_of_le (ih h)

def rowSize (e : String × String) : Nat := Writer.stringSize e.1 + Writer.stringSize e.2

theorem size_attributes (label : Label) (a : Attributes) :
    (attributes label a).size = Writer.lengthSize a.size + (a.entries.map rowSize).sum + 6 := by
  have rows : List.zipWith (· + ·) (a.keys.map Writer.stringSize) (a.values.map Writer.stringSize) =
      a.entries.map rowSize := by
    rw [SortedMap.keys, SortedMap.values, List.map_map, List.map_map, List.zipWith_map,
      List.zipWith_self]
    rfl
  have columns : (attributes label a).size = Writer.lengthSize a.keys.length +
      (List.zipWith (· + ·) (a.keys.map Writer.stringSize)
        (a.values.map Writer.stringSize)).sum + 2 + 4 := rfl
  rw [columns, rows, SortedMap.keys, List.length_map]
  rfl

/-! ### Bounds

Labels and numbers take little, so what content takes depends on the texts in it.  `grind` adds the
bounds up. -/

theorem sizeAll_nil : sizeAll [] = 0 := rfl

theorem sizeAll_cons (r : Record) (rs : Content) : sizeAll (r :: rs) = r.size + sizeAll rs := rfl

theorem size_group (label : Label) (fields : Content) :
    (group label fields).size = sizeAll fields + 5 := rfl

theorem size_union (label : Label) (d : Discriminant) (r : Record) :
    (union label d r).size = r.size + 5 := rfl

/-- A record takes more than its label and the code of its kind. -/
theorem five_le_size (r : Record) : 5 ≤ r.size := by
  cases r with
  | mk label value =>
    have positive : 1 ≤ value.size := by
      cases value with
      | varint n => exact Varint.one_le_size n
      | group g => exact g.one_le_size
      | varintList ns => exact Nat.le_add_right_of_le (Varint.one_le_size _)
      | pair a b => exact Nat.le_add_right_of_le (Varint.one_le_size a)
      | triple a b c => exact Nat.le_add_left_of_le (Varint.one_le_size c)
      | float bits => exact Nat.le_of_ble_eq_true rfl
      | blob bytes => exact Nat.le_add_right_of_le (Varint.one_le_size _)
      | map keys values => exact Nat.le_add_left_of_le (Nat.le_of_ble_eq_true rfl)
      | _ => exact Nat.le_add_left 1 _
    exact Nat.add_le_add_right positive 4

theorem size_nat_le (label : Label) (n : Nat) : (nat label n).size ≤ 14 :=
  Nat.add_le_add_right (Varint.size_le _) 4

grind_pattern size_nat_le => (nat label n).size

theorem size_varint_le (label : Label) (n : Int64) : (varint label n).size ≤ 14 :=
  Nat.add_le_add_right (Varint.size_le n) 4

grind_pattern size_varint_le => (varint label n).size

theorem size_blob_le (label : Label) (bytes : Bytes) :
    (blob label bytes).size ≤ bytes.length + 14 := by
  have count : Writer.lengthSize bytes.length ≤ 10 := Varint.size_le _
  show Writer.lengthSize _ + _ + 4 ≤ _
  omega

grind_pattern size_blob_le => (blob label bytes).size

theorem stringSize_le (s : String) : Writer.stringSize s ≤ (Bytes.ofString s).length + 11 := by
  have count : Writer.lengthSize ((Bytes.ofString s).length + 1) ≤ 10 := Varint.size_le _
  rw [Writer.stringSize]
  omega

theorem size_string_le (label : Label) (s : String) :
    (string label s).size ≤ (Bytes.ofString s).length + 15 :=
  Nat.add_le_add_right (stringSize_le s) 4

grind_pattern size_string_le => (string label s).size

/-- The size of a list of elements none of which is too large. -/
theorem size_list_le {label : Label} {items : Items} (sizes : List Nat) {n : Nat}
    (size : items.size = sizes.sum) (length : sizes.length = items.length)
    (small : ∀ k ∈ sizes, k ≤ n) : (list label items).size ≤ items.length * n + 15 := by
  have count : Writer.lengthSize items.length ≤ 10 := Varint.size_le _
  have elements : sizes.sum ≤ sizes.length * n := List.sum_le_card_nsmul sizes n small
  rw [length, ← size] at elements
  show Writer.lengthSize _ + _ + 1 + 4 ≤ _
  omega

theorem size_varints_le (label : Label) (ns : List Int64) :
    (list label (.varints ns)).size ≤ ns.length * 10 + 15 := by
  refine size_list_le (ns.map Varint.size) rfl (List.length_map _) ?_
  simp only [List.forall_mem_map]
  exact fun n _ => Varint.size_le n

theorem size_triples_le (label : Label) (ts : List (Int64 × Int64 × Int64)) :
    (list label (.triples ts)).size ≤ ts.length * 30 + 15 := by
  refine size_list_le (ts.map Writer.tripleSize) rfl (List.length_map _) ?_
  simp only [List.forall_mem_map]
  intro t _
  have first := Varint.size_le t.1
  have second := Varint.size_le t.2.1
  have third := Varint.size_le t.2.2
  rw [Writer.tripleSize]
  omega

theorem size_groups_le (label : Label) (gs : List Group) {n : Nat} (small : ∀ g ∈ gs, g.size ≤ n) :
    (list label (.groups gs)).size ≤ gs.length * n + 15 := by
  refine size_list_le (gs.map Group.size) (Group.sizes_eq_map gs ▸ rfl)
    (List.length_map _) ?_
  simpa only [List.forall_mem_map] using small

theorem size_varintList_le (label : Label) (ns : List Int64) :
    (varintList label ns).size ≤ ns.length * 10 + 14 := by
  have count : Writer.lengthSize ns.length ≤ 10 := Varint.size_le _
  have numbers : (ns.map Varint.size).sum ≤ (ns.map Varint.size).length * 10 := by
    refine List.sum_le_card_nsmul _ 10 ?_
    simp only [List.forall_mem_map]
    exact fun n _ => Varint.size_le n
  rw [List.length_map] at numbers
  show Writer.lengthSize _ + _ + 4 ≤ _
  omega

grind_pattern size_varintList_le => (varintList label ns).size

/-! ### Attributes of bounded texts -/

def textSize (a : Attributes) : Nat :=
  (a.entries.map fun e => (Bytes.ofString e.1).length + (Bytes.ofString e.2).length).sum

theorem ofString_ne_nil {s : String} (h : s ≠ "") : Bytes.ofString s ≠ [] := by
  intro empty
  have same : some s = some "" := by
    rw [← Bytes.toString?_ofString, empty, ← Bytes.toString?_ofString ""]
    rfl
  exact h (Option.some.inj same)

/-- Names differ, so all of them but one have a byte at least. -/
theorem length_entries_le (a : Attributes) : a.entries.length ≤ textSize a + 1 := by
  have distinct : (a.entries.map (·.1)).Nodup := a.nodup_keys
  rw [textSize]
  -- the induction is on the entries; once the empty name has been seen, no other is empty
  have named (es : List (String × String)) (named : ∀ e ∈ es, e.1 ≠ "") : es.length ≤
      (es.map fun e => (Bytes.ofString e.1).length + (Bytes.ofString e.2).length).sum := by
    have each := List.length_le_sum_of_one_le
      (es.map fun e => (Bytes.ofString e.1).length + (Bytes.ofString e.2).length) (by
        simp only [List.forall_mem_map]
        intro e he
        have positive := List.length_pos_iff.2 (ofString_ne_nil (named e he))
        omega)
    rwa [List.length_map] at each
  generalize a.entries = entries at distinct ⊢
  induction entries with
  | nil => exact Nat.zero_le _
  | cons e es ih =>
    obtain ⟨new, distinct⟩ := List.nodup_cons.1 distinct
    rw [List.length_cons, List.map_cons, List.sum_cons]
    by_cases empty : e.1 = ""
    · have others := named es fun d hd same =>
        new (List.mem_map.2 ⟨d, hd, same.trans empty.symm⟩)
      omega
    · have first := List.length_pos_iff.2 (ofString_ne_nil empty)
      have others := ih distinct
      omega

theorem size_attributes_le_add (label : Label) (a : Attributes) :
    (attributes label a).size ≤ textSize a + a.size * 22 + 16 := by
  have count : Writer.lengthSize a.size ≤ 10 := Varint.size_le _
  have rows : (a.entries.map rowSize).sum ≤ textSize a + a.entries.length * 22 := by
    rw [textSize]
    induction a.entries with
    | nil => exact Nat.zero_le _
    | cons e es ih =>
      have name := stringSize_le e.1
      have value := stringSize_le e.2
      rw [List.map_cons, List.sum_cons, List.map_cons, List.sum_cons, List.length_cons, rowSize]
      omega
  rw [size_attributes]
  exact Nat.add_le_add_right (Nat.add_comm _ _ ▸ Nat.add_le_add rows count) 6

theorem size_attributes_le (label : Label) (a : Attributes) :
    (attributes label a).size ≤ 23 * textSize a + 38 := by
  have size := size_attributes_le_add label a
  have entries : a.size ≤ textSize a + 1 := length_entries_le a
  omega

theorem textSize_le_size (label : Label) (a : Attributes) :
    textSize a ≤ (attributes label a).size := by
  have rows : textSize a ≤ (a.entries.map rowSize).sum := by
    refine List.sum_le_sum fun e _ => ?_
    rw [rowSize, Writer.stringSize, Writer.stringSize]
    omega
  rw [size_attributes]
  omega

/-! ### Content that fits into memory -/

theorem sound_string {label : Label} {s : String} (fits : (string label s).size ≤ maxLength) :
    (string label s).Sound := by
  rw [string, Record.size, Value.size, Writer.stringSize] at fits
  show (Bytes.ofString s).length < maxLength
  omega

theorem sound_varints {label : Label} {ns : List Int64}
    (fits : (list label (.varints ns)).size ≤ maxLength) : (list label (.varints ns)).Sound := by
  have few : (ns.map Varint.size).length ≤ (ns.map Varint.size).sum := by
    refine List.length_le_sum_of_one_le _ fun n hn => ?_
    obtain ⟨v, -, rfl⟩ := List.mem_map.1 hn
    exact Varint.one_le_size v
  rw [List.length_map] at few
  rw [list, Record.size, Value.size, Items.size] at fits
  refine ⟨?_, trivial⟩
  show ns.length ≤ maxLength
  omega

theorem sound_groups {label : Label} {gs : List Group}
    (fits : (list label (.groups gs)).size ≤ maxLength)
    (sound : ∀ g ∈ gs, g.size ≤ maxLength → g.Sound) : (list label (.groups gs)).Sound := by
  rw [list, Record.size, Value.size, Items.size, Group.sizes_eq_map] at fits
  have few : (gs.map Group.size).length ≤ (gs.map Group.size).sum := by
    refine List.length_le_sum_of_one_le _ fun n hn => ?_
    obtain ⟨g, -, rfl⟩ := List.mem_map.1 hn
    exact g.one_le_size
  rw [List.length_map] at few
  refine ⟨?_, Group.allSound_iff.2 fun g hg => sound g hg ?_⟩
  · show gs.length ≤ maxLength
    omega
  · have part : g.size ≤ (gs.map Group.size).sum := List.le_sum_of_mem (List.mem_map_of_mem hg)
    omega

/-- **Attributes that fit into memory are sound**: no length in them is too large for a varint. -/
theorem sound_attributes {label : Label} {a : Attributes}
    (fits : (attributes label a).size ≤ maxLength) : (attributes label a).Sound := by
  rw [size_attributes] at fits
  have short (e : String × String) (he : e ∈ a.entries) :
      (Bytes.ofString e.1).length < maxLength ∧ (Bytes.ofString e.2).length < maxLength := by
    have row : rowSize e ≤ (a.entries.map rowSize).sum :=
      List.le_sum_of_mem (List.mem_map_of_mem he)
    rw [rowSize, Writer.stringSize, Writer.stringSize] at row
    omega
  have few : (a.entries.map rowSize).length ≤ (a.entries.map rowSize).sum := by
    refine List.length_le_sum_of_one_le _ fun n hn => ?_
    obtain ⟨e, -, rfl⟩ := List.mem_map.1 hn
    rw [rowSize, Writer.stringSize]
    omega
  rw [List.length_map] at few
  refine ⟨?_, ?_, ?_, ?_⟩
  · show a.keys.length = a.values.length
    rw [SortedMap.keys, SortedMap.values, List.length_map, List.length_map]
  · show a.keys.length ≤ maxLength
    rw [SortedMap.keys, List.length_map]
    omega
  · intro s hs
    obtain ⟨e, he, rfl⟩ := List.mem_map.1 hs
    exact (short e he).1
  · intro s hs
    obtain ⟨e, he, rfl⟩ := List.mem_map.1 hs
    exact (short e he).2

end Record

end Lobby
