import Lobby.Packet.Basic
import Lobby.Proofs.Record.Reader
import Lobby.Proofs.Record.Varint

/-!
# Reading what was written

A reader that goes `n` levels deep answers the bytes of a sound value with that value if it is at
most `n` levels deep, and refuses it for its depth otherwise: `within n depth`.  The law holds for
whatever follows the bytes, so it passes from the parts of a value to the whole.

`record_write` carries it from the values to records by recursion on `n`.  The depth is counted anew
in every part, so parts beside one another do not add up.
-/

namespace Lobby

namespace Reader

variable {α β : Type} {n : Nat}

/-- The answer of a reader that goes `n` levels deep to a value that is `depth` levels deep. -/
def within (n depth : Nat) (result : α × Bytes) : Except DecodeError (α × Bytes) :=
  if depth ≤ n then .ok result else .error (.tooDeep maxDepth)

@[simp] theorem within_zero (result : α × Bytes) : within n 0 result = .ok result := by
  simp [within]

theorem within_succ (depth : Nat) (result : α × Bytes) :
    within (n + 1) (depth + 1) result = within n depth result := by
  simp [within]

theorem within_congr {d e : Nat} (h : d ≤ n ↔ e ≤ n) (result : α × Bytes) :
    within n d result = within n e result := by
  simp only [within, h]

/-- One value after the other is as deep as the deeper of them. -/
theorem within_bind {d e : Nat} {result : α × Bytes}
    {next : α × Bytes → Except DecodeError (β × Bytes)} {last : β × Bytes}
    (h : next result = within n e last) :
    (within n d result).bind next = within n (max d e) last := by
  by_cases hd : d ≤ n
  · rw [within, if_pos hd, within_congr (e := e) (by omega)]
    exact h
  · rw [within, if_neg hd, within, if_neg (by omega)]
    rfl

/-- `read` answers what `write` writes of values up to `n` levels deep. -/
def Answers (read : Reader α) (write : α → Bytes → Bytes) (n : Nat) (depth : α → Nat) (a : α) :
    Prop :=
  ∀ rest, read (write a rest) = within n (depth a) (a, rest)

/-- What is made of a value is read as deep as the value. -/
theorem within_map {read : Reader α} {bytes rest : Bytes} {d : Nat} {a : α}
    (h : read bytes = within n d (a, rest)) (f : α → β) :
    (read >>= fun a => pure (f a)) bytes = within n d (f a, rest) := by
  rw [bind_apply, h]
  by_cases hd : d ≤ n
  · rw [within, if_pos hd, within, if_pos hd]
    rfl
  · rw [within, if_neg hd, within, if_neg hd]
    rfl

theorem within_of_ok {read : Reader α} {bytes rest : Bytes} {a : α}
    (h : read bytes = .ok (a, rest)) :
    read bytes = within n 0 (a, rest) := by
  rw [h, within_zero]

/-! ### Scalars -/

theorem varint_write (v : Int64) (rest : Bytes) : varint (Varint.write v rest) = .ok (v, rest) :=
  Varint.read_write v rest

theorem length_write {k : Nat} (h : k ≤ maxLength) (rest : Bytes) :
    length (Writer.length k rest) = .ok (k, rest) := by
  have value : (Int64.ofNat k).toInt = k := Int64.toInt_ofNat_of_lt (by
    have : maxLength = 2 ^ 63 - 1 := rfl
    omega)
  rw [length, Writer.length, bind_apply, varint_write]
  simp only [Except.bind, value]
  rw [if_neg (by omega)]
  rfl

theorem take_append (front rest : Bytes) :
    take front.length (front ++ rest) = .ok (front, rest) := by
  simp [take]

theorem string_write {s : String} (h : (Bytes.ofString s).length < maxLength) (rest : Bytes) :
    string (Writer.string s rest) = .ok (s, rest) := by
  have front : Bytes.ofString s ++ 0 :: rest = (Bytes.ofString s ++ [0]) ++ rest := by simp
  have size : (Bytes.ofString s).length + 1 = (Bytes.ofString s ++ [0]).length := by simp
  rw [string, Writer.string, bind_apply, length_write (by omega)]
  simp only [Except.bind]
  rw [if_neg (by omega), bind_apply, front, size, take_append]
  simp only [Except.bind, List.dropLast_concat, Bytes.toString?_ofString]
  rfl

theorem blob_write {bytes : Bytes} (h : bytes.length ≤ maxLength) (rest : Bytes) :
    blob (Writer.blob bytes rest) = .ok (bytes, rest) := by
  rw [blob, Writer.blob, bind_apply, length_write h]
  exact take_append bytes rest

theorem triple_write (t : Int64 × Int64 × Int64) (rest : Bytes) :
    triple (Writer.triple t rest) = .ok (t, rest) := by
  simp only [triple, Writer.triple, bind_apply, varint_write, Except.bind]
  rfl

theorem float_write (bits : UInt32) (rest : Bytes) :
    float (Writer.float bits rest) = .ok (bits, rest) := by
  have value := Bytes.toNat32_ofNat bits.toNat
  have bound := bits.toNat_lt
  simp only [Writer.float, Bytes.ofNat32, List.cons_append, List.nil_append, float, value]
  rw [Nat.mod_eq_of_lt bound, UInt32.ofNat_toNat]

/-! ### Sequences -/

def deepest (depth : α → Nat) (xs : List α) : Nat := (xs.map depth).foldr max 0

theorem deepest_le_iff {depth : α → Nat} {xs : List α} :
    deepest depth xs ≤ n ↔ ∀ x ∈ xs, depth x ≤ n := by
  induction xs with
  | nil => simp [deepest]
  | cons x xs ih =>
    rw [List.forall_mem_cons, ← ih]
    exact Nat.max_le

theorem times_go_write {read : Reader α} {write : α → Bytes → Bytes} {depth : α → Nat} (xs : List α)
    (h : ∀ x ∈ xs, read.Answers write n depth x) (rest : Bytes) : ∀ done : List α,
      times.go read xs.length done (Writer.all write xs rest) =
        within n (deepest depth xs) (done.reverse ++ xs, rest) := by
  induction xs with
  | nil =>
    intro done
    simp [times.go, Writer.all, deepest]
  | cons x xs ih =>
    intro done
    have first := h x (List.mem_cons_self ..) (Writer.all write xs rest)
    have others := ih (fun y hy => h y (List.mem_cons_of_mem _ hy)) (x :: done)
    have whole : deepest depth (x :: xs) = max (depth x) (deepest depth xs) := rfl
    have bytes : Writer.all write (x :: xs) rest = write x (Writer.all write xs rest) := rfl
    rw [List.length_cons, times.go, bytes, first, whole]
    by_cases hx : depth x ≤ n
    · rw [within, if_pos hx]
      dsimp only
      rw [others, within_congr (e := max (depth x) (deepest depth xs)) (by omega)]
      simp
    · rw [within, if_neg hx, within, if_neg (by omega)]

theorem times_write {read : Reader α} {write : α → Bytes → Bytes} {depth : α → Nat} {xs : List α}
    (h : ∀ x ∈ xs, read.Answers write n depth x) :
    Answers (times read xs.length) (Writer.all write) n (deepest depth) xs :=
  fun rest => times_go_write xs h rest []

/-- Values that are nested in nothing. -/
theorem times_write_flat {read : Reader α} {write : α → Bytes → Bytes} {xs : List α}
    (h : ∀ x ∈ xs, ∀ rest, read (write x rest) = .ok (x, rest)) :
    Answers (times read xs.length) (Writer.all write) n (fun _ => 0) xs := by
  intro rest
  have flat : ∀ x ∈ xs, read.Answers write n (fun _ => 0) x := fun x hx rest =>
    within_of_ok (h x hx rest)
  rw [times_write flat]
  exact within_congr (by simp [deepest_le_iff]) _

/-! ### Kinds -/

theorem valueKind_code (kind : ValueKind) (rest : Bytes) :
    valueKind (kind.code :: rest) = .ok (kind, rest) := by
  rw [valueKind, bind_apply]
  simp only [byte, Except.bind, ValueKind.ofCode?_code]
  rfl

theorem itemKind_valueKind (kind : ItemKind) (bytes : Bytes) :
    itemKind kind.valueKind bytes = .ok (kind, bytes) := by
  rw [itemKind, ItemKind.ofValueKind?_valueKind]
  rfl

theorem cellKind_valueKind (kind : CellKind) (bytes : Bytes) :
    cellKind kind.valueKind bytes = .ok (kind, bytes) := by
  rw [cellKind, CellKind.ofValueKind?_valueKind]
  rfl

theorem header_write (label : Label) (kind : ValueKind) (rest : Bytes) :
    header (label.tag.1 :: label.tag.2.1 :: label.tag.2.2 :: kind.code :: rest) =
      .ok ((label, kind), rest) := by
  simp only [header, ValueKind.ofCode?_code, Label.ofTag_tag]

end Reader

/-! ### Columns cell by cell -/

namespace CellKind

def write : (kind : CellKind) → kind.Cell → Bytes → Bytes
  | .varint => Varint.write
  | .string => Writer.string
  | .group => Group.write
  | .float => Writer.float

end CellKind

theorem Group.cells_eq_map (gs : List Group) : Group.cells gs = gs.map Group.write := by
  induction gs with
  | nil => rfl
  | cons g gs ih => rw [Group.cells, ih, List.map_cons]

theorem Group.writeAll_eq_all (gs : List Group) (rest : Bytes) :
    Group.writeAll gs rest = Writer.all Group.write gs rest := by
  induction gs with
  | nil => rfl
  | cons g gs ih =>
    rw [Group.writeAll, ih]
    rfl

theorem Group.depthAll_eq_deepest (gs : List Group) :
    Group.depthAll gs = Reader.deepest Group.depth gs := by
  induction gs with
  | nil => rfl
  | cons g gs ih =>
    rw [Group.depthAll, ih]
    rfl

theorem CellKind.cells_column {kind : CellKind} (cells : List kind.Cell) :
    (kind.column cells).cells = cells.map kind.write := by
  cases kind with
  | varint => rfl
  | string => rfl
  | group => exact Group.cells_eq_map cells
  | float => rfl

/-- The rows of two columns are written row by row. -/
theorem Writer.rows_map {α β : Type} (f : α → Bytes → Bytes) (g : β → Bytes → Bytes) (as : List α)
    (bs : List β) (rest : Bytes) :
    rows (as.map f) (bs.map g) rest =
      all (fun (row : α × β) rest => f row.1 (g row.2 rest)) (as.zip bs) rest := by
  simp only [rows, all, List.zip_map, List.foldr_map, Prod.map]

/-- A record opens with the first byte of its tag. -/
theorem Record.exists_write (r : Record) (rest : Bytes) :
    ∃ bytes, r.write rest = r.label.tag.1 :: bytes := by
  obtain ⟨label, v⟩ := r
  exact ⟨_, rfl⟩

/-! ### Nested values

`group` and `record` are readers of what is nested one level deeper, and answer for it. -/

namespace Reader

section Nested

variable {group : Reader Group} {record : Reader Record} {n : Nat}

theorem items_write (hg : ∀ g : Group, g.Sound → group.Answers Group.write n Group.depth g)
    {xs : Items} (length : xs.length ≤ maxLength) (sound : xs.Sound) (rest : Bytes) :
    items group (xs.kind.valueKind.code :: Writer.length xs.length (Items.write xs rest)) =
      within n xs.depth (xs, rest) := by
  rw [items, bind_apply, valueKind_code]
  simp only [Except.bind, bind_apply]
  rw [length_write length]
  simp only [itemKind_valueKind]
  cases xs with
  | varints ns => exact within_map (times_write_flat (fun v _ => varint_write v) rest) Items.varints
  | strings ss =>
    exact within_map (times_write_flat (fun s hs => string_write (sound s hs)) rest) Items.strings
  | groups gs =>
    have sound : ∀ g ∈ gs, g.Sound := Group.allSound_iff.1 sound
    rw [Items.write, Group.writeAll_eq_all, Items.depth, Group.depthAll_eq_deepest]
    exact within_map (times_write (fun g h => hg g (sound g h)) rest) Items.groups
  | triples ts => exact within_map (times_write_flat (fun t _ => triple_write t) rest) Items.triples

theorem cell_write (hg : ∀ g : Group, g.Sound → group.Answers Group.write n Group.depth g)
    {kind : CellKind} {c : kind.Cell} (sound : kind.Sound c) :
    (cell group kind).Answers kind.write n kind.depth c := by
  intro rest
  cases kind with
  | varint => exact within_of_ok (varint_write c rest)
  | string => exact within_of_ok (string_write sound rest)
  | group => exact hg c sound rest
  | float => exact within_of_ok (float_write c rest)

theorem columns_write (hg : ∀ g : Group, g.Sound → group.Answers Group.write n Group.depth g)
    {keys values : Column} (sound : (Value.map keys values).Sound) (rest : Bytes) :
    columns group (keys.kind.valueKind.code :: values.kind.valueKind.code ::
        Writer.length keys.length (Writer.rows keys.cells values.cells rest)) =
      within n (max keys.depth values.depth) ((keys, values), rest) := by
  obtain ⟨keyKind, ks, rfl⟩ := CellKind.exists_column keys
  obtain ⟨valueKind, vs, rfl⟩ := CellKind.exists_column values
  obtain ⟨same, short, soundKeys, soundValues⟩ := sound
  rw [CellKind.length_column, CellKind.length_column] at same
  rw [CellKind.length_column] at short
  rw [CellKind.sound_column_iff] at soundKeys soundValues
  have row : ∀ r ∈ ks.zip vs, Answers (do
      let key ← cell group keyKind
      let value ← cell group valueKind
      return (key, value)) (fun r rest => keyKind.write r.1 (valueKind.write r.2 rest)) n
        (fun r => max (keyKind.depth r.1) (valueKind.depth r.2)) r := by
    intro r hr rest
    have hk := cell_write hg (soundKeys r.1 (List.of_mem_zip hr).1)
    have hv := cell_write hg (soundValues r.2 (List.of_mem_zip hr).2)
    rw [bind_apply, hk]
    exact within_bind (within_map (hv rest) fun v => (r.1, v))
  have firsts : (ks.zip vs).map (·.1) = ks := List.map_fst_zip (Nat.le_of_eq same)
  have seconds : (ks.zip vs).map (·.2) = vs := List.map_snd_zip (Nat.le_of_eq same.symm)
  have deep : deepest (fun r => max (keyKind.depth r.1) (valueKind.depth r.2)) (ks.zip vs) ≤ n ↔
      max (keyKind.column ks).depth (valueKind.column vs).depth ≤ n := by
    rw [deepest_le_iff, Nat.max_le, CellKind.depth_column_le_iff, CellKind.depth_column_le_iff]
    constructor
    · intro h
      refine ⟨fun k hk => ?_, fun v hv => ?_⟩
      · rw [← firsts] at hk
        obtain ⟨r, hr, rfl⟩ := List.mem_map.1 hk
        exact (Nat.max_le.1 (h r hr)).1
      · rw [← seconds] at hv
        obtain ⟨r, hr, rfl⟩ := List.mem_map.1 hv
        exact (Nat.max_le.1 (h r hr)).2
    · intro h r hr
      exact Nat.max_le.2 ⟨h.1 _ (List.of_mem_zip hr).1, h.2 _ (List.of_mem_zip hr).2⟩
  have count : (ks.zip vs).length = ks.length := by simp [same]
  have rows := within_map (times_write row rest)
    fun rows => (keyKind.column (rows.map (·.1)), valueKind.column (rows.map (·.2)))
  rw [firsts, seconds, within_congr deep, count] at rows
  rw [columns, bind_apply, valueKind_code]
  simp only [Except.bind, bind_apply, valueKind_code, CellKind.kind_column, CellKind.length_column]
  rw [length_write short]
  simp only [cellKind_valueKind, CellKind.cells_column, Writer.rows_map]
  exact rows

theorem union_write (hr : ∀ r : Record, r.Sound → record.Answers Record.write n (·.depth + 1) r)
    (d : Discriminant) {r : Record} (sound : r.Sound) (rest : Bytes) :
    union record (d.val :: Record.write r rest) = within n (r.depth + 1) (.union d r, rest) := by
  rw [union, bind_apply]
  simp only [byte, Except.bind]
  rw [dif_pos d.property]
  exact within_map (hr r sound rest) fun r => Value.union d r

theorem value_write (hg : ∀ g : Group, g.Sound → group.Answers Group.write n Group.depth g)
    (hr : ∀ r : Record, r.Sound → record.Answers Record.write n (·.depth + 1) r) {v : Value}
    (sound : v.Sound) : (value group record v.kind).Answers Value.write n Value.depth v := by
  intro rest
  cases v with
  | varint v => exact within_map (within_of_ok (varint_write v rest)) Value.varint
  | string s => exact within_map (within_of_ok (string_write sound rest)) Value.string
  | blob bytes => exact within_map (within_of_ok (blob_write sound rest)) Value.blob
  | group g => exact within_map (hg g sound rest) Value.group
  | list xs => exact within_map (items_write hg sound.1 sound.2 rest) Value.list
  | map keys values => exact within_map (columns_write hg sound rest) fun c => Value.map c.1 c.2
  | unset => rfl
  | union d r => exact union_write hr d sound rest
  | varintList ns =>
    have read : (value group record .varintList) (Value.write (.varintList ns) rest) =
        (times varint ns.length >>= fun ns => pure (Value.varintList ns))
          (Writer.all Varint.write ns rest) := by
      rw [value, Value.write, bind_apply, length_write sound]
      rfl
    rw [Value.kind, read, within_map (times_write_flat (fun v _ => varint_write v) rest)]
    rfl
  | pair a b =>
    rw [Value.kind, value, Value.write, bind_apply, varint_write]
    exact within_map (within_of_ok (varint_write b rest)) fun b => Value.pair a b
  | triple a b c =>
    exact within_map (within_of_ok (triple_write (a, b, c) rest)) fun t =>
      Value.triple t.1 t.2.1 t.2.2
  | float bits => exact within_map (within_of_ok (float_write bits rest)) Value.float

theorem recordOver_write (hg : ∀ g : Group, g.Sound → group.Answers Group.write n Group.depth g)
    (hr : ∀ r : Record, r.Sound → record.Answers Record.write n (·.depth + 1) r) {r : Record}
    (sound : r.Sound) : (recordOver group record).Answers Record.write n Record.depth r := by
  intro rest
  obtain ⟨label, v⟩ := r
  rw [recordOver, Record.write, bind_apply, header_write]
  exact within_map (value_write hg hr sound rest) fun v => Record.mk label v

/-- No field looks like the end or the mark of the group, so the records are read up to the end. -/
theorem groupOver_go_write (fields : List Record)
    (hr : ∀ r ∈ fields, record.Answers Record.write n Record.depth r)
    (opens : ∀ r ∈ fields, r.label.OpensField)
    (shorter : ∀ {bytes r rest}, record bytes = .ok (r, rest) → rest.length < bytes.length)
    (rest : Bytes) : ∀ (turns : Bytes) (extended : Bool) (done : List Record),
      (Record.writeAll fields (groupEnd :: rest)).length ≤ turns.length →
      groupOver.go record turns extended done (Record.writeAll fields (groupEnd :: rest)) =
        within n (Record.depthAll fields) (.mk extended (done.reverse ++ fields), rest) := by
  induction fields with
  | nil =>
    intro turns extended done enough
    cases turns with
    | nil => simp [Record.writeAll] at enough
    | cons turn turns => simp [Record.writeAll, groupOver.go, Record.depthAll]
  | cons r rs ih =>
    intro turns extended done enough
    have first := hr r (List.mem_cons_self ..) (Record.writeAll rs (groupEnd :: rest))
    obtain ⟨noEnd, noMark⟩ := opens r (List.mem_cons_self ..)
    have others := ih (fun x hx => hr x (List.mem_cons_of_mem _ hx))
      (fun x hx => opens x (List.mem_cons_of_mem _ hx))
    obtain ⟨bytes, front⟩ := r.exists_write (Record.writeAll rs (groupEnd :: rest))
    rw [Record.writeAll, front] at enough ⊢
    rw [front] at first
    cases turns with
    | nil => simp at enough
    | cons turn turns =>
      rw [groupOver.go, if_neg noEnd, if_neg noMark, first, Record.depthAll]
      by_cases hd : r.depth ≤ n
      · have fewer := shorter (first.trans (if_pos hd))
        rw [within, if_pos hd]
        dsimp only
        rw [others turns extended (r :: done) (by simp only [List.length_cons] at *; omega),
          within_congr (e := max r.depth (Record.depthAll rs)) (by omega)]
        simp
      · rw [within, if_neg hd, within, if_neg (by omega)]

theorem groupOver_write (hr : ∀ r : Record, r.Sound → record.Answers Record.write n Record.depth r)
    (shorter : ∀ {bytes r rest}, record bytes = .ok (r, rest) → rest.length < bytes.length)
    {g : Group} (sound : g.Sound) :
    (groupOver record).Answers Group.write (n + 1) Group.depth g := by
  intro rest
  obtain ⟨extended, fields⟩ := g
  have sound : ∀ r ∈ fields, r.label.OpensField ∧ r.Sound := Record.fieldsSound_iff.1 sound
  have body := groupOver_go_write fields (fun r h => hr r (sound r h).2) (fun r h => (sound r h).1)
    shorter rest
  rw [Group.depth, within_succ, groupOver]
  cases extended with
  | false => exact body _ false [] (Nat.le_refl _)
  | true => exact body _ true [] (Nat.le_refl _)

end Nested

/-- **Reading a record that was written.** -/
theorem record_write (n : Nat) {r : Record} (sound : r.Sound) :
    (record n).Answers Record.write n Record.depth r := by
  induction n generalizing r with
  | zero =>
    refine recordOver_write (fun g _ rest => ?_) (fun r _ rest => ?_) sound
    · obtain ⟨extended, fields⟩ := g
      simp [fail, within, Group.depth]
    · simp [fail, within]
  | succ n ih =>
    refine recordOver_write (fun g hg => groupOver_write (fun r hr => ih hr) ?_ hg)
      (fun r hr rest => ?_) sound
    · intro bytes r rest h
      have := length_of_record h
      omega
    · rw [ih hr, within_succ]

end Reader

/-! ### Content -/

theorem decodeAll_go_write (rs : List Record) (sound : ∀ r ∈ rs, r.Sound) :
    ∀ (turns : Bytes) (done : List Record), (encodeAll rs).length ≤ turns.length →
      decodeAll.go turns done (encodeAll rs) =
        if Record.depthAll rs ≤ maxDepth then .ok (done.reverse ++ rs)
        else .error (.tooDeep maxDepth) := by
  induction rs with
  | nil =>
    intro turns done _
    simp [encodeAll, Record.writeAll, decodeAll.go, Record.depthAll]
  | cons r rs ih =>
    intro turns done enough
    have first := Reader.record_write maxDepth (sound r (List.mem_cons_self ..)) (encodeAll rs)
    have others := ih (fun x hx => sound x (List.mem_cons_of_mem _ hx))
    obtain ⟨bytes, front⟩ := r.exists_write (encodeAll rs)
    have whole : encodeAll (r :: rs) = r.label.tag.1 :: bytes := front
    rw [whole] at enough ⊢
    rw [front] at first
    cases turns with
    | nil => simp at enough
    | cons turn turns =>
      rw [decodeAll.go, readRecord, first, Record.depthAll]
      by_cases hd : r.depth ≤ maxDepth
      · have fewer := Reader.length_of_record (first.trans (if_pos hd))
        rw [Reader.within, if_pos hd]
        dsimp only
        rw [others turns (r :: done) (by simp only [List.length_cons] at *; omega)]
        simp only [Nat.max_le, hd, true_and, List.reverse_cons, List.append_assoc,
          List.singleton_append]
      · rw [Reader.within, if_neg hd, if_neg (by omega)]

/-- Sound records are read back from their bytes if they are not too deep, and refused for their
depth otherwise. -/
theorem decodeAll_encodeAll_eq {rs : List Record} (sound : ∀ r ∈ rs, r.Sound) :
    decodeAll (encodeAll rs) =
      if Record.depthAll rs ≤ maxDepth then .ok rs else .error (.tooDeep maxDepth) :=
  decodeAll_go_write rs sound _ [] (Nat.le_refl _)

/-- **Content survives the trip through its bytes exactly up to the depth limit.**  So a packet
built from records and a packet received with their bytes carry the same records and the same
fields.  Labels that a program names may label the fields of groups. -/
theorem decodeAll_encodeAll (rs : List Record) (sound : ∀ r ∈ rs, r.Sound) :
    decodeAll (encodeAll rs) =
        (if Record.depthAll rs ≤ 128 then .ok rs else .error (.tooDeep 128)) ∧
      (Record.depthAll rs ≤ 128 → ∀ header : Header,
        (Packet.ofRecords header rs).records = (Packet.received header (encodeAll rs)).records ∧
        ∀ label, (Packet.ofRecords header rs).field? label =
          (Packet.received header (encodeAll rs)).field? label) ∧
      ∀ name label, Label.parse? name = some label ∨ Label.check name = .ok label →
        label.OpensField := by
  have back := decodeAll_encodeAll_eq sound
  refine ⟨back, fun shallow header => ?_, fun name label named => ?_⟩
  · have same : (Packet.ofRecords header rs).records =
        (Packet.received header (encodeAll rs)).records :=
      ((if_pos shallow).symm.trans back.symm : Except.ok rs = decodeAll (encodeAll rs))
    refine ⟨same, fun label => ?_⟩
    rw [Packet.field?, same, Packet.field?]
  · rcases named with named | named
    · exact Label.opensField_of_parse named
    · exact Label.opensField_of_parse (Label.parse_of_check named)

theorem decodeAll_encodeAll_nested :
    let inner : Record := .union (.ofTag 9 9 9) ⟨0, by decide⟩ (.string (.ofTag 2 0 0) "a\x00b")
    let rs : List Record :=
      [.mk (.ofTag 0 1 2) (.list (.groups [.mk true [inner], .mk false []])),
        .mk (.ofTag 7 7 7) (.map (.floats [0x7fc00001]) (.varints [-5]))]
    (∀ r ∈ rs, r.Sound) ∧ decodeAll (encodeAll rs) = .ok rs := by
  intro inner rs
  have sound : ∀ r ∈ rs, r.Sound := by
    intro r hr
    simp only [rs, List.mem_cons, List.not_mem_nil, or_false] at hr
    rcases hr with rfl | rfl
    · have text : (Bytes.ofString "a\x00b").length < maxLength := by decide
      have opens : inner.label.OpensField := ⟨by decide, by decide⟩
      exact ⟨by decide, ⟨⟨opens, text⟩, trivial⟩, trivial, trivial⟩
    · exact ⟨rfl, by decide, trivial, trivial⟩
  exact ⟨sound, (decodeAll_encodeAll rs sound).1⟩

end Lobby
