import Lobby.Proofs.Record.Loops

/-!
# Steady readers

A reader decides by the bytes it has seen.  `Steady read` says what this means: as long as `read`
does not miss bytes, it does the same if more follow, and leaves those too.  It is closed under
sequencing, so each reader has one law, and the law of a whole record comes out by recursion on the
depth.

So bytes that were cut off are always missed, and what is left is never taken for another value
(`Steady.unexpectedEnd_of_cut`).
-/

namespace Lobby.Reader

variable {α β : Type}

/-- Unless bytes are missing, `read` does the same if more of them follow. -/
def Steady (read : Reader α) : Prop :=
  ∀ bytes more, read bytes ≠ .error .unexpectedEnd →
    read (bytes ++ more) = (read bytes).map fun p => (p.1, p.2 ++ more)

namespace Steady

theorem pure (a : α) : Steady (pure a) := fun _ _ _ => rfl

theorem fail (cause : DecodeError) : Steady (fail cause : Reader α) := fun _ _ _ => rfl

theorem bind {read : Reader α} {next : α → Reader β} (h : read.Steady)
    (hn : ∀ a, (next a).Steady) : Steady (read >>= next) := by
  intro bytes more enough
  rw [bind_apply] at enough ⊢
  rw [bind_apply]
  cases first : read bytes with
  | error cause =>
    rw [first] at enough
    rw [h bytes more (by rw [first]; simpa [Except.bind] using enough), first]
    rfl
  | ok p =>
    obtain ⟨a, rest⟩ := p
    rw [first] at enough
    rw [h bytes more (by simp [first]), first]
    exact hn a rest more enough

/-- What is made of a value that was read. -/
theorem map {read : Reader α} (h : read.Steady) (f : α → β) :
    Steady (read >>= fun a => Pure.pure (f a)) :=
  h.bind fun a => .pure (f a)

variable {read : Reader α}

/-- A value is read off the same bytes if more follow. -/
theorem append_ok (h : read.Steady) {bytes rest : Bytes} {a : α}
    (result : read bytes = .ok (a, rest)) (more : Bytes) :
    read (bytes ++ more) = .ok (a, rest ++ more) := by
  rw [h bytes more (by simp [result]), result]
  rfl

/-- What is refused, unless for missing bytes, is refused for the same cause if more follow. -/
theorem append_error (h : read.Steady) {bytes : Bytes} {cause : DecodeError}
    (result : read bytes = .error cause) (other : cause ≠ .unexpectedEnd) (more : Bytes) :
    read (bytes ++ more) = .error cause := by
  rw [h bytes more (by simpa [result] using other), result]
  rfl

/-- **Bytes that are cut off are missed.** -/
theorem unexpectedEnd_of_cut (h : read.Steady) {p q rest : Bytes} {a : α}
    (whole : read (p ++ rest) = .ok (a, rest)) (cut : q <+: p) (proper : q ≠ p) :
    read q = .error .unexpectedEnd := by
  obtain ⟨t, rfl⟩ := cut
  refine Classical.byContradiction fun enough => ?_
  rw [List.append_assoc, h q _ enough] at whole
  cases result : read q with
  | error cause =>
    rw [result] at whole
    cases whole
  | ok left =>
    rw [result] at whole
    -- The rest after `q` would hold `t` and the whole rest after it.
    have same : left.2 ++ (t ++ rest) = rest := (Prod.mk.inj (Except.ok.inj whole)).2
    have lengths := congrArg List.length same
    simp only [List.length_append] at lengths
    have empty : t = [] := List.length_eq_zero_iff.1 (by omega)
    exact proper (by rw [empty, List.append_nil])

end Steady

/-! ### Scalars -/

theorem steady_byte : byte.Steady := by
  intro bytes more enough
  cases bytes with
  | nil => exact (enough rfl).elim
  | cons b bytes => rfl

theorem steady_take (n : Nat) : (take n).Steady := by
  intro bytes more enough
  by_cases short : bytes.length < n
  · refine (enough ?_).elim
    simp only [take, List.length_take]
    rw [if_pos (by omega)]
  · have long : n ≤ bytes.length := Nat.le_of_not_lt short
    simp [take, List.take_append_of_le_length long, List.drop_append_of_le_length long, long,
      Except.map]

theorem steady_readDigits (bytes : Bytes) : ∀ weight sum more,
    Varint.readDigits weight sum bytes ≠ .error .unexpectedEnd →
      Varint.readDigits weight sum (bytes ++ more) =
        (Varint.readDigits weight sum bytes).map fun p => (p.1, p.2 ++ more) := by
  induction bytes with
  | nil =>
    intro weight sum more enough
    exact (enough rfl).elim
  | cons b bytes ih =>
    intro weight sum more enough
    rw [Varint.readDigits] at enough ⊢
    rw [List.cons_append, Varint.readDigits]
    split
    · rfl
    · next fits =>
      rw [if_neg fits] at enough
      split
      · rfl
      · next last =>
        rw [if_neg last] at enough
        exact ih _ _ more enough

/-- A reader that takes nothing. -/
def ofExcept (result : Except DecodeError α) : Reader α := fun bytes => result.map (·, bytes)

theorem steady_ofExcept (result : Except DecodeError α) : (ofExcept result).Steady := by
  intro bytes more _
  cases result <;> rfl

/-- What follows the first byte of a number gives its magnitude. -/
def magnitudeAfter (b : UInt8) : Reader Nat :=
  if b.toNat < 128 then pure (b.toNat % 64) else Varint.readDigits 64 (b.toNat % 64)

theorem varint_eq : varint = byte >>= fun b => magnitudeAfter b >>= fun magnitude =>
    ofExcept (Varint.signed (decide (64 ≤ b.toNat % 128)) magnitude) := by
  funext bytes
  cases bytes with
  | nil => rfl
  | cons b bytes =>
    have whole : varint (b :: bytes) = (magnitudeAfter b bytes).bind fun p =>
        (Varint.signed (decide (64 ≤ b.toNat % 128)) p.1).bind fun v => .ok (v, p.2) := by
      rw [varint, Varint.read, magnitudeAfter]
      split <;> rfl
    rw [whole, bind_apply, byte, Except.bind, bind_apply]
    cases magnitudeAfter b bytes with
    | error cause => rfl
    | ok p => cases signed : Varint.signed (decide (64 ≤ b.toNat % 128)) p.1 <;>
        simp [Except.bind, ofExcept, signed, Except.map]

theorem steady_varint : varint.Steady := by
  rw [varint_eq]
  refine steady_byte.bind fun b => Steady.bind ?_ fun magnitude => steady_ofExcept _
  unfold magnitudeAfter
  split
  · exact .pure _
  · exact fun bytes more => steady_readDigits bytes _ _ more

theorem steady_length : length.Steady := by
  refine steady_varint.bind fun n => ?_
  split
  · exact .fail _
  · exact .pure _

theorem steady_string : string.Steady := by
  refine steady_length.bind fun n => ?_
  split
  · exact .pure _
  · refine (steady_take n).bind fun bytes => ?_
    split
    · exact .pure _
    · exact .fail _

theorem steady_blob : blob.Steady := steady_length.bind steady_take

theorem steady_triple : triple.Steady :=
  steady_varint.bind fun _ => steady_varint.bind fun _ => steady_varint.map _

theorem steady_float : float.Steady := by
  intro bytes more enough
  match bytes with
  | _ :: _ :: _ :: _ :: _ => rfl
  | [] | [_] | [_, _] | [_, _, _] => exact (enough rfl).elim

theorem steady_times {read : Reader α} (h : read.Steady) (n : Nat) : (times read n).Steady := by
  induction n with
  | zero => exact .pure _
  | succ n ih =>
    rw [times_succ]
    exact h.bind fun a => ih.map _

/-! ### Values -/

theorem steady_valueKind : valueKind.Steady := by
  refine steady_byte.bind fun code => ?_
  split
  · exact .pure _
  · exact .fail _

theorem steady_itemKind (kind : ValueKind) : (itemKind kind).Steady := by
  unfold itemKind
  split
  · exact .pure _
  · exact .fail _

theorem steady_cellKind (kind : ValueKind) : (cellKind kind).Steady := by
  unfold cellKind
  split
  · exact .pure _
  · exact .fail _

section Nested

variable {group : Reader Group} {record : Reader Record}

theorem steady_items (hg : group.Steady) : (items group).Steady := by
  refine steady_valueKind.bind fun kind => steady_length.bind fun count => ?_
  refine (steady_itemKind kind).bind fun kind => ?_
  cases kind with
  | varint => exact (steady_times steady_varint count).map _
  | string => exact (steady_times steady_string count).map _
  | group => exact (steady_times hg count).map _
  | triple => exact (steady_times steady_triple count).map _

theorem steady_cell (hg : group.Steady) (kind : CellKind) : (cell group kind).Steady := by
  cases kind with
  | varint => exact steady_varint
  | string => exact steady_string
  | group => exact hg
  | float => exact steady_float

theorem steady_columns (hg : group.Steady) : (columns group).Steady := by
  refine steady_valueKind.bind fun keyKind => steady_valueKind.bind fun valueKind => ?_
  refine steady_length.bind fun count => ?_
  refine (steady_cellKind keyKind).bind fun keyKind => ?_
  refine (steady_cellKind valueKind).bind fun valueKind => ?_
  have row := (steady_cell hg keyKind).bind fun key =>
    (steady_cell hg valueKind).map fun value => (key, value)
  exact (steady_times row count).map _

theorem steady_union (hr : record.Steady) : (union record).Steady := by
  refine steady_byte.bind fun d => ?_
  split
  · exact hr.map _
  · exact .pure _

theorem steady_value (hg : group.Steady) (hr : record.Steady) (kind : ValueKind) :
    (value group record kind).Steady := by
  cases kind with
  | varint => exact steady_varint.map _
  | string => exact steady_string.map _
  | blob => exact steady_blob.map _
  | group => exact hg.map _
  | list => exact (steady_items hg).map _
  | map => exact (steady_columns hg).map _
  | union => exact steady_union hr
  | varintList =>
    exact steady_length.bind fun count => (steady_times steady_varint count).map _
  | pair => exact steady_varint.bind fun _ => steady_varint.map _
  | triple => exact steady_triple.map _
  | float => exact steady_float.map _

/-- The kind of a record is looked at only when its four bytes are there. -/
theorem steady_header : header.Steady := by
  intro bytes more enough
  match bytes with
  | a :: b :: c :: code :: bytes =>
    simp only [header, List.cons_append]
    cases ValueKind.ofCode? code <;> rfl
  | [] | [_] | [_, _] | [_, _, _] => exact (enough rfl).elim

theorem steady_recordOver (hg : group.Steady) (hr : record.Steady) :
    (recordOver group record).Steady :=
  steady_header.bind fun (_, kind) => (steady_value hg hr kind).map _

/-- By induction on the number of bytes, one turn of the loop at a time. -/
theorem steady_groupOver (shorter : record.Shortens) (hr : record.Steady) :
    (groupOver record).Steady := by
  intro bytes
  induction bytes using (measure List.length).wf.induction with
  | h bytes ih =>
    intro more enough
    cases bytes with
    | nil => exact (enough rfl).elim
    | cons b bytes =>
      rw [groupOver_cons shorter] at enough ⊢
      rw [List.cons_append, groupOver_cons shorter]
      split
      · rfl
      · next noEnd =>
        rw [if_neg noEnd] at enough
        split
        · next mark =>
          rw [if_pos mark] at enough
          have go := ih bytes (Nat.lt_succ_self _) more fun missing => enough (by rw [missing]; rfl)
          rw [go]
          cases groupOver record bytes <;> rfl
        · next noMark =>
          rw [if_neg noMark] at enough
          cases first : record (b :: bytes) with
          | error cause =>
            rw [first] at enough
            have other : cause ≠ .unexpectedEnd := fun missing => enough (by rw [missing]; rfl)
            rw [← List.cons_append, hr.append_error first other]
            rfl
          | ok p =>
            obtain ⟨r, rest⟩ := p
            rw [first] at enough
            have go := ih rest (shorter first) more fun missing => enough (by
              dsimp only [Except.bind]
              rw [missing]
              rfl)
            rw [← List.cons_append, hr.append_ok first]
            dsimp only [Except.bind]
            rw [go]
            cases groupOver record rest <;> rfl

end Nested

/-- **A record is read alike whatever follows it.** -/
theorem steady_record (n : Nat) : (record n).Steady := by
  induction n with
  | zero => exact steady_recordOver (.fail _) (.fail _)
  | succ n ih => exact steady_recordOver (steady_groupOver (shortens_record n) ih) ih

end Lobby.Reader
