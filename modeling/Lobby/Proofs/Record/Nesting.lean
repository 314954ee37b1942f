import Lobby.Proofs.Record.Label
import Lobby.Record.Reader

/-!
# Depth and soundness of records

What a reader can get back depends on two things.  `depth` counts the groups and present unions
that stand inside one another, and a reader goes only so deep.  `Sound` says that the bytes of a
value are its own: every length fits into a varint, the columns of a map are equally long, and no
field of a group opens with a byte that ends or marks the group.
-/

namespace Lobby

/-- The greatest length a varint can express. -/
def maxLength : Nat := 0x7fffffffffffffff

/-! ### Depth -/

mutual

/-- The number of groups and present unions on the longest way into a record. -/
def Record.depth : Record → Nat
  | .mk _ v => Value.depth v

def Value.depth : Value → Nat
  | .group g => Group.depth g
  | .list items => Items.depth items
  | .map keys values => max (Column.depth keys) (Column.depth values)
  | .union _ r => Record.depth r + 1
  | _ => 0

def Group.depth : Group → Nat
  | .mk _ fields => Record.depthAll fields + 1

def Items.depth : Items → Nat
  | .groups gs => Group.depthAll gs
  | _ => 0

def Column.depth : Column → Nat
  | .groups gs => Group.depthAll gs
  | _ => 0

def Record.depthAll : List Record → Nat
  | [] => 0
  | r :: rs => max (Record.depth r) (Record.depthAll rs)

def Group.depthAll : List Group → Nat
  | [] => 0
  | g :: gs => max (Group.depth g) (Group.depthAll gs)

end

/-! ### Soundness -/

mutual

/-- Are the bytes of a record its own? -/
def Record.Sound : Record → Prop
  | .mk _ v => Value.Sound v

def Value.Sound : Value → Prop
  | .string s => (Bytes.ofString s).length < maxLength
  | .blob bytes => bytes.length ≤ maxLength
  | .group g => Group.Sound g
  | .list items => items.length ≤ maxLength ∧ Items.Sound items
  | .map keys values =>
    keys.length = values.length ∧ keys.length ≤ maxLength ∧ Column.Sound keys ∧ Column.Sound values
  | .union _ r => Record.Sound r
  | .varintList ns => ns.length ≤ maxLength
  | _ => True

def Group.Sound : Group → Prop
  | .mk _ fields => Record.FieldsSound fields

def Items.Sound : Items → Prop
  | .strings ss => ∀ s ∈ ss, (Bytes.ofString s).length < maxLength
  | .groups gs => Group.AllSound gs
  | _ => True

def Column.Sound : Column → Prop
  | .strings ss => ∀ s ∈ ss, (Bytes.ofString s).length < maxLength
  | .groups gs => Group.AllSound gs
  | _ => True

def Record.FieldsSound : List Record → Prop
  | [] => True
  | r :: rs => (r.label.OpensField ∧ Record.Sound r) ∧ Record.FieldsSound rs

def Group.AllSound : List Group → Prop
  | [] => True
  | g :: gs => Group.Sound g ∧ Group.AllSound gs

end

theorem Record.fieldsSound_iff {rs : List Record} :
    FieldsSound rs ↔ ∀ r ∈ rs, r.label.OpensField ∧ r.Sound := by
  induction rs with
  | nil => simp [FieldsSound]
  | cons r rs ih => simp [FieldsSound, ih]

theorem Group.allSound_iff {gs : List Group} : AllSound gs ↔ ∀ g ∈ gs, g.Sound := by
  induction gs with
  | nil => simp [AllSound]
  | cons g gs ih => simp [AllSound, ih]

theorem Record.depthAll_le_iff {rs : List Record} {n : Nat} :
    depthAll rs ≤ n ↔ ∀ r ∈ rs, r.depth ≤ n := by
  induction rs with
  | nil => simp [depthAll]
  | cons r rs ih => rw [depthAll, Nat.max_le, ih, List.forall_mem_cons]

theorem Group.depthAll_le_iff {gs : List Group} {n : Nat} :
    depthAll gs ≤ n ↔ ∀ g ∈ gs, g.depth ≤ n := by
  induction gs with
  | nil => simp [depthAll]
  | cons g gs ih => rw [depthAll, Nat.max_le, ih, List.forall_mem_cons]

/-! ### Columns cell by cell -/

namespace CellKind

def Sound : (kind : CellKind) → kind.Cell → Prop
  | .string, s => (Bytes.ofString s).length < maxLength
  | .group, g => g.Sound
  | .varint, _ => True
  | .float, _ => True

def depth : (kind : CellKind) → kind.Cell → Nat
  | .group, g => g.depth
  | .varint, _ => 0
  | .string, _ => 0
  | .float, _ => 0

variable {kind : CellKind} {cells : List kind.Cell}

theorem exists_column (c : Column) : ∃ (kind : CellKind) (cells : List kind.Cell),
    c = kind.column cells := by
  cases c with
  | varints ns => exact ⟨.varint, ns, rfl⟩
  | strings ss => exact ⟨.string, ss, rfl⟩
  | groups gs => exact ⟨.group, gs, rfl⟩
  | floats bits => exact ⟨.float, bits, rfl⟩

@[simp] theorem kind_column : (kind.column cells).kind = kind := by cases kind <;> rfl

@[simp] theorem length_column : (kind.column cells).length = cells.length := by cases kind <;> rfl

theorem sound_column_iff : (kind.column cells).Sound ↔ ∀ c ∈ cells, kind.Sound c := by
  cases kind with
  | varint => simp [column, Column.Sound, Sound]
  | string => rfl
  | group => exact Group.allSound_iff
  | float => simp [column, Column.Sound, Sound]

theorem depth_column_le_iff {n : Nat} :
    (kind.column cells).depth ≤ n ↔ ∀ c ∈ cells, kind.depth c ≤ n := by
  cases kind with
  | varint => simp [column, Column.depth, depth]
  | string => simp [column, Column.depth, depth]
  | group => exact Group.depthAll_le_iff
  | float => simp [column, Column.depth, depth]

end CellKind

end Lobby
