import Lobby.Proofs.Record.Nesting

/-!
# What readers yield

`read.Yields P` says that whatever `read` takes off the front of the bytes satisfies `P`, and that
it leaves a suffix of them.  It is closed under sequencing, so each reader has one law, and the law
of a whole record comes out by recursion on the depth.

**Whatever a record is read from, it is sound and no deeper than the reader goes**: the reader
accepts more forms than the writer produces, but none whose value the writer could not express.
-/

namespace Lobby.Reader

variable {α β : Type}

theorem bind_apply (read : Reader α) (next : α → Reader β) (bytes : Bytes) :
    (read >>= next) bytes = (read bytes).bind fun p => next p.1 p.2 := rfl

/-- Everything `read` yields satisfies `P`, and it leaves a suffix of the bytes. -/
def Yields (read : Reader α) (P : α → Prop) : Prop :=
  ∀ ⦃bytes a rest⦄, read bytes = .ok (a, rest) → rest <:+ bytes ∧ P a

namespace Yields

variable {P : α → Prop} {Q : β → Prop}

theorem pure {a : α} (h : P a) : Yields (pure a) P := by
  intro bytes b rest result
  cases result
  exact ⟨List.suffix_refl _, h⟩

theorem fail (cause : DecodeError) : Yields (fail cause) P := by
  intro bytes a rest result
  cases result

theorem bind {read : Reader α} {next : α → Reader β} (h : read.Yields P)
    (hn : ∀ a, P a → (next a).Yields Q) : Yields (read >>= next) Q := by
  intro bytes b rest result
  rw [bind_apply] at result
  cases first : read bytes with
  | error cause =>
    rw [first] at result
    cases result
  | ok p =>
    obtain ⟨a, middle⟩ := p
    rw [first] at result
    obtain ⟨short, ha⟩ := h first
    obtain ⟨shorter, hb⟩ := hn a ha result
    exact ⟨shorter.trans short, hb⟩

theorem mono {read : Reader α} {P' : α → Prop} (h : read.Yields P) (weaker : ∀ a, P a → P' a) :
    read.Yields P' := by
  intro bytes a rest result
  obtain ⟨short, ha⟩ := h result
  exact ⟨short, weaker a ha⟩

/-- What is made of a value that was read. -/
theorem map {read : Reader α} {f : α → β} (h : read.Yields P) (hf : ∀ a, P a → Q (f a)) :
    Yields (read >>= fun a => Pure.pure (f a)) Q :=
  h.bind fun a ha => .pure (hf a ha)

end Yields

/-! ### Scalars -/

theorem yields_byte : byte.Yields fun _ => True := by
  intro bytes b rest result
  cases bytes with
  | nil => cases result
  | cons b bytes =>
    cases result
    exact ⟨List.suffix_cons _ _, trivial⟩

theorem yields_take (n : Nat) : (take n).Yields fun bytes => bytes.length = n := by
  intro bytes front rest result
  simp only [take] at result
  split at result
  · cases result
  · next long =>
    cases result
    refine ⟨List.drop_suffix _ _, ?_⟩
    have := List.length_take_le n bytes
    omega

theorem readDigits_suffix {weight sum : Nat} {bytes : Bytes} {n : Nat} {rest : Bytes}
    (h : Varint.readDigits weight sum bytes = .ok (n, rest)) : rest <:+ bytes := by
  induction bytes generalizing weight sum with
  | nil => cases h
  | cons b bytes ih =>
    unfold Varint.readDigits at h
    dsimp only at h
    split at h
    · cases h
    · split at h
      · cases h
        exact List.suffix_cons _ _
      · exact (ih h).trans (List.suffix_cons _ _)

theorem yields_varint : varint.Yields fun _ => True := by
  intro bytes v rest result
  refine ⟨?_, trivial⟩
  cases bytes with
  | nil => cases result
  | cons b bytes =>
    simp only [varint, Varint.read, bind, Except.bind, Pure.pure, Except.pure] at result
    split at result
    · split at result
      · cases result
      · cases result
        exact List.suffix_cons _ _
    · split at result
      · cases result
      · next digits =>
        split at result
        · cases result
        · cases result
          exact (readDigits_suffix digits).trans (List.suffix_cons _ _)

/-- A length read off a varint is one that a varint can express. -/
theorem yields_length : length.Yields fun n => n ≤ maxLength := by
  refine yields_varint.bind fun v _ => ?_
  have bound := v.toInt_lt
  have most : maxLength = 2 ^ 63 - 1 := rfl
  split
  · exact .fail _
  · exact .pure (by omega)

theorem yields_string : string.Yields fun s => (Bytes.ofString s).length < maxLength := by
  refine yields_length.bind fun n hn => ?_
  split
  · exact .pure (by decide)
  · next positive =>
    refine (yields_take n).bind fun bytes hb => ?_
    split
    · next s text =>
      refine .pure ?_
      rw [← Bytes.eq_ofString_of_toString? text, List.length_dropLast]
      omega
    · exact .fail _

theorem yields_blob : blob.Yields fun bytes => bytes.length ≤ maxLength :=
  yields_length.bind fun n hn => (yields_take n).mono fun _ hb => hb ▸ hn

theorem yields_triple : triple.Yields fun _ => True :=
  yields_varint.bind fun _ _ => yields_varint.bind fun _ _ => yields_varint.map fun _ _ => trivial

theorem yields_float : float.Yields fun _ => True := by
  intro bytes bits rest result
  match bytes with
  | a :: b :: c :: d :: bytes =>
    cases result
    exact ⟨⟨[a, b, c, d], rfl⟩, trivial⟩
  | [] | [_] | [_, _] | [_, _, _] => cases result

/-! ### Sequences -/

theorem times_go_yields {read : Reader α} {P : α → Prop} (h : read.Yields P) (n : Nat) :
    ∀ {done bytes xs rest}, times.go read n done bytes = .ok (xs, rest) →
      rest <:+ bytes ∧ ∃ new, xs = done.reverse ++ new ∧ new.length = n ∧ ∀ x ∈ new, P x := by
  induction n with
  | zero =>
    intro done bytes xs rest result
    cases result
    exact ⟨List.suffix_refl _, [], by simp⟩
  | succ n ih =>
    intro done bytes xs rest result
    rw [times.go] at result
    split at result
    · cases result
    · next a middle first =>
      obtain ⟨short, ha⟩ := h first
      obtain ⟨shorter, new, rfl, count, hnew⟩ := ih result
      refine ⟨shorter.trans short, a :: new, by simp, by simp [count], ?_⟩
      intro x hx
      rcases List.mem_cons.1 hx with rfl | hx
      · exact ha
      · exact hnew x hx

theorem yields_times {read : Reader α} {P : α → Prop} (h : read.Yields P) (n : Nat) :
    (times read n).Yields fun xs => xs.length = n ∧ ∀ x ∈ xs, P x := by
  intro bytes xs rest result
  obtain ⟨short, new, rfl, count, hnew⟩ := times_go_yields h n result
  exact ⟨short, by simpa using count, by simpa using hnew⟩

/-! ### Values -/

theorem yields_valueKind : valueKind.Yields fun _ => True := by
  refine yields_byte.bind fun code _ => ?_
  split
  · exact .pure trivial
  · exact .fail _

theorem yields_itemKind (kind : ValueKind) : (itemKind kind).Yields fun _ => True := by
  unfold itemKind
  split
  · exact .pure trivial
  · exact .fail _

theorem yields_cellKind (kind : ValueKind) : (cellKind kind).Yields fun _ => True := by
  unfold cellKind
  split
  · exact .pure trivial
  · exact .fail _

/-! ### Nested values

`group` and `record` are the readers of what is nested one level deeper. -/

section Nested

variable {group : Reader Group} {record : Reader Record} {n : Nat}

theorem yields_items (hg : group.Yields fun g => g.Sound ∧ g.depth ≤ n) :
    (items group).Yields fun xs => xs.length ≤ maxLength ∧ xs.Sound ∧ xs.depth ≤ n := by
  refine yields_valueKind.bind fun kind _ => yields_length.bind fun count hc => ?_
  refine (yields_itemKind kind).bind fun kind _ => ?_
  cases kind with
  | varint =>
    refine (yields_times yields_varint count).map fun xs hxs => ?_
    exact ⟨Nat.le_trans (Nat.le_of_eq hxs.1) hc, trivial, Nat.zero_le n⟩
  | string =>
    refine (yields_times yields_string count).map fun xs hxs => ?_
    exact ⟨Nat.le_trans (Nat.le_of_eq hxs.1) hc, hxs.2, Nat.zero_le n⟩
  | group =>
    refine (yields_times hg count).map fun xs hxs => ?_
    exact ⟨Nat.le_trans (Nat.le_of_eq hxs.1) hc, Group.allSound_iff.2 fun g h => (hxs.2 g h).1,
      Group.depthAll_le_iff.2 fun g h => (hxs.2 g h).2⟩
  | triple =>
    refine (yields_times yields_triple count).map fun xs hxs => ?_
    exact ⟨Nat.le_trans (Nat.le_of_eq hxs.1) hc, trivial, Nat.zero_le n⟩

theorem yields_cell (hg : group.Yields fun g => g.Sound ∧ g.depth ≤ n) (kind : CellKind) :
    (cell group kind).Yields fun c => kind.Sound c ∧ kind.depth c ≤ n := by
  cases kind with
  | varint => exact yields_varint.mono fun _ _ => ⟨trivial, Nat.zero_le n⟩
  | string => exact yields_string.mono fun _ h => ⟨h, Nat.zero_le n⟩
  | group => exact hg
  | float => exact yields_float.mono fun _ _ => ⟨trivial, Nat.zero_le n⟩

theorem yields_columns (hg : group.Yields fun g => g.Sound ∧ g.depth ≤ n) :
    (columns group).Yields fun c =>
      (Value.map c.1 c.2).Sound ∧ (Value.map c.1 c.2).depth ≤ n := by
  refine yields_valueKind.bind fun keyKind _ => yields_valueKind.bind fun valueKind _ => ?_
  refine yields_length.bind fun count hc => ?_
  refine (yields_cellKind keyKind).bind fun keyKind _ => ?_
  refine (yields_cellKind valueKind).bind fun valueKind _ => ?_
  have row : Yields (do
      let key ← cell group keyKind
      let value ← cell group valueKind
      return (key, value)) fun r => (keyKind.Sound r.1 ∧ keyKind.depth r.1 ≤ n) ∧
        (valueKind.Sound r.2 ∧ valueKind.depth r.2 ≤ n) :=
    (yields_cell hg keyKind).bind fun k hk => (yields_cell hg valueKind).map fun v hv => ⟨hk, hv⟩
  refine (yields_times row count).map fun rows hrows => ?_
  obtain ⟨length, sound⟩ := hrows
  have keys : ∀ k ∈ rows.map (·.1), keyKind.Sound k ∧ keyKind.depth k ≤ n := by
    intro k hk
    obtain ⟨r, hr, rfl⟩ := List.mem_map.1 hk
    exact (sound r hr).1
  have values : ∀ v ∈ rows.map (·.2), valueKind.Sound v ∧ valueKind.depth v ≤ n := by
    intro v hv
    obtain ⟨r, hr, rfl⟩ := List.mem_map.1 hv
    exact (sound r hr).2
  refine ⟨⟨by simp, by simpa [length] using hc, ?_, ?_⟩, ?_⟩
  · exact CellKind.sound_column_iff.2 fun k hk => (keys k hk).1
  · exact CellKind.sound_column_iff.2 fun v hv => (values v hv).1
  · exact Nat.max_le.2 ⟨CellKind.depth_column_le_iff.2 fun k hk => (keys k hk).2,
      CellKind.depth_column_le_iff.2 fun v hv => (values v hv).2⟩

theorem yields_union (hr : record.Yields fun r => r.Sound ∧ r.depth + 1 ≤ n) :
    (union record).Yields fun v => v.Sound ∧ v.depth ≤ n := by
  refine yields_byte.bind fun d _ => ?_
  split
  · exact hr.map fun r h => h
  · exact .pure ⟨trivial, Nat.zero_le n⟩

theorem yields_value (hg : group.Yields fun g => g.Sound ∧ g.depth ≤ n)
    (hr : record.Yields fun r => r.Sound ∧ r.depth + 1 ≤ n) (kind : ValueKind) :
    (value group record kind).Yields fun v => v.Sound ∧ v.depth ≤ n := by
  have flat : 0 ≤ n := Nat.zero_le n
  cases kind with
  | varint => exact yields_varint.map fun _ _ => ⟨trivial, flat⟩
  | string => exact yields_string.map fun _ h => ⟨h, flat⟩
  | blob => exact yields_blob.map fun _ h => ⟨h, flat⟩
  | group => exact hg.map fun _ h => h
  | list => exact (yields_items hg).map fun _ h => ⟨⟨h.1, h.2.1⟩, h.2.2⟩
  | map => exact (yields_columns hg).map fun _ h => h
  | union => exact yields_union hr
  | varintList =>
    exact yields_length.bind fun count hc => (yields_times yields_varint count).map fun ns h =>
      ⟨Nat.le_trans (Nat.le_of_eq h.1) hc, flat⟩
  | pair => exact yields_varint.bind fun _ _ => yields_varint.map fun _ _ => ⟨trivial, flat⟩
  | triple => exact yields_triple.map fun _ _ => ⟨trivial, flat⟩
  | float => exact yields_float.map fun _ _ => ⟨trivial, flat⟩

end Nested

/-! ### Records and groups -/

/-- The four bytes in front of a value are the tag and the kind that were read off them. -/
theorem eq_of_header {bytes rest : Bytes} {label : Label} {kind : ValueKind}
    (h : header bytes = .ok ((label, kind), rest)) :
    bytes = label.tag.1 :: label.tag.2.1 :: label.tag.2.2 :: kind.code :: rest := by
  match bytes with
  | a :: b :: c :: code :: bytes =>
    simp only [header] at h
    split at h
    · next known =>
      cases h
      rw [Label.tag_ofTag, ValueKind.code_of_ofCode? known]
    · cases h
  | [] | [_] | [_, _] | [_, _, _] => cases h

section Record

variable {group : Reader Group} {record : Reader Record} {n : Nat}

theorem eq_of_recordOver {bytes rest : Bytes} {r : Record}
    (h : recordOver group record bytes = .ok (r, rest)) :
    ∃ kind payload,
      bytes = r.label.tag.1 :: r.label.tag.2.1 :: r.label.tag.2.2 :: kind.code :: payload ∧
      value group record kind payload = .ok (r.value, rest) := by
  rw [recordOver, bind_apply] at h
  cases front : header bytes with
  | error cause =>
    rw [front] at h
    cases h
  | ok p =>
    obtain ⟨⟨label, kind⟩, payload⟩ := p
    rw [front] at h
    simp only [Except.bind, bind_apply] at h
    split at h
    · cases h
    · next v hv =>
      cases h
      exact ⟨kind, payload, eq_of_header front, hv⟩

theorem yields_recordOver (hg : group.Yields fun g => g.Sound ∧ g.depth ≤ n)
    (hr : record.Yields fun r => r.Sound ∧ r.depth + 1 ≤ n) :
    (recordOver group record).Yields fun r => r.Sound ∧ r.depth ≤ n := by
  intro bytes r rest h
  obtain ⟨kind, payload, rfl, hv⟩ := eq_of_recordOver h
  obtain ⟨short, sound⟩ := yields_value hg hr kind hv
  obtain ⟨label, v⟩ := r
  exact ⟨short.trans ⟨[label.tag.1, label.tag.2.1, label.tag.2.2, kind.code], rfl⟩, sound⟩

/-- A record takes more than the four bytes in front of its value. -/
theorem length_of_recordOver (hg : group.Yields fun g => g.Sound ∧ g.depth ≤ n)
    (hr : record.Yields fun r => r.Sound ∧ r.depth + 1 ≤ n) {bytes rest : Bytes} {r : Record}
    (h : recordOver group record bytes = .ok (r, rest)) : rest.length + 4 ≤ bytes.length := by
  obtain ⟨kind, payload, rfl, hv⟩ := eq_of_recordOver h
  have short := (yields_value hg hr kind hv).1.length_le
  simp only [List.length_cons]
  omega

/-- The fields of a group come from a reader that tells its records apart by their first byte, so
none of them opens with the byte that ends a group or with the one that marks it. -/
theorem groupOver_go_yields {P : Record → Prop} (hr : record.Yields P)
    (front : ∀ {b bytes r rest}, record (b :: bytes) = .ok (r, rest) → r.label.tag.1 = b)
    (turns : Bytes) : ∀ {extended done bytes g rest},
      groupOver.go record turns extended done bytes = .ok (g, rest) →
      rest <:+ bytes ∧ ∃ new, g.fields = done.reverse ++ new ∧
        ∀ r ∈ new, r.label.OpensField ∧ P r := by
  induction turns with
  | nil =>
    intro extended done bytes g rest h
    cases bytes <;> cases h
  | cons turn turns ih =>
    intro extended done bytes g rest h
    cases bytes with
    | nil => cases h
    | cons b bytes =>
      rw [groupOver.go] at h
      split at h
      · cases h
        exact ⟨List.suffix_cons _ _, [], by simp [Group.fields]⟩
      · next noEnd =>
        split at h
        · obtain ⟨short, new, fields⟩ := ih h
          exact ⟨short.trans (List.suffix_cons _ _), new, fields⟩
        · next noMark =>
          split at h
          · cases h
          · next r middle first =>
            obtain ⟨short, hP⟩ := hr first
            obtain ⟨shorter, new, fields, hnew⟩ := ih h
            refine ⟨shorter.trans short, r :: new, by simp [fields], ?_⟩
            intro x hx
            rcases List.mem_cons.1 hx with rfl | hx
            · refine ⟨?_, hP⟩
              rw [Label.OpensField, front first]
              exact ⟨noEnd, noMark⟩
            · exact hnew x hx

theorem yields_groupOver (hr : record.Yields fun r => r.Sound ∧ r.depth ≤ n)
    (front : ∀ {b bytes r rest}, record (b :: bytes) = .ok (r, rest) → r.label.tag.1 = b) :
    (groupOver record).Yields fun g => g.Sound ∧ g.depth ≤ n + 1 := by
  intro bytes g rest h
  obtain ⟨short, new, fields, hnew⟩ := groupOver_go_yields hr front bytes h
  obtain ⟨extended, fs⟩ := g
  obtain rfl : fs = new := by simpa [Group.fields] using fields
  refine ⟨short, ?_, ?_⟩
  · exact Record.fieldsSound_iff.2 fun r hr => ⟨(hnew r hr).1, (hnew r hr).2.1⟩
  · exact Nat.succ_le_succ (Record.depthAll_le_iff.2 fun r hr => (hnew r hr).2.2)

end Record

/-- The first byte of a record is the first of its tag. -/
theorem tag_of_record {n : Nat} {b : UInt8} {bytes rest : Bytes} {r : Record}
    (h : record n (b :: bytes) = .ok (r, rest)) : r.label.tag.1 = b := by
  cases n with
  | zero =>
    obtain ⟨kind, payload, same, -⟩ := eq_of_recordOver h
    exact (List.cons.inj same).1.symm
  | succ n =>
    obtain ⟨kind, payload, same, -⟩ := eq_of_recordOver h
    exact (List.cons.inj same).1.symm

/-- A record is read over readers of what is nested in it, which yield one level less. -/
theorem record_eq_recordOver (n : Nat) : ∃ group nested, record n = recordOver group nested ∧
    (group.Yields fun g => g.Sound ∧ g.depth ≤ n) ∧
    (nested.Yields fun r => r.Sound ∧ r.depth + 1 ≤ n) := by
  induction n with
  | zero => exact ⟨_, _, rfl, .fail _, .fail _⟩
  | succ n ih =>
    obtain ⟨group, nested, same, hg, hr⟩ := ih
    have yields : (record n).Yields fun r => r.Sound ∧ r.depth ≤ n := by
      rw [same]
      exact yields_recordOver hg hr
    exact ⟨_, _, rfl, yields_groupOver yields tag_of_record,
      yields.mono fun r h => ⟨h.1, Nat.succ_le_succ h.2⟩⟩

/-- **Whatever a record is read from, it is sound and no deeper than the reader goes.** -/
theorem yields_record (n : Nat) : (record n).Yields fun r => r.Sound ∧ r.depth ≤ n := by
  obtain ⟨group, nested, same, hg, hr⟩ := record_eq_recordOver n
  rw [same]
  exact yields_recordOver hg hr

theorem length_of_record {n : Nat} {bytes rest : Bytes} {r : Record}
    (h : record n bytes = .ok (r, rest)) : rest.length + 4 ≤ bytes.length := by
  obtain ⟨group, nested, same, hg, hr⟩ := record_eq_recordOver n
  rw [same] at h
  exact length_of_recordOver hg hr h

end Lobby.Reader
