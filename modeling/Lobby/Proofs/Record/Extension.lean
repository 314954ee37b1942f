import Lobby.Proofs.Record.NormalForm
import Lobby.Proofs.Record.Steady

/-!
# More bytes and fewer bytes

Because readers are steady, content in two pieces is read piece by piece, and a record is missed as
soon as one of its bytes is.  Writing is steady too: `Writer.Appends write` says that what follows
leaves the bytes of `write` as they are.  So the bytes of some content start with those of its first
records, and a cut anywhere between two such places is noticed.
-/

namespace Lobby

/-! ### Writing -/

namespace Writer

/-- `write` puts the same bytes in front of whatever follows. -/
def Appends (write : Bytes → Bytes) : Prop := ∀ rest, write rest = write [] ++ rest

namespace Appends

variable {write next : Bytes → Bytes}

theorem append (h : Appends write) (rest more : Bytes) :
    write (rest ++ more) = write rest ++ more := by
  rw [h (rest ++ more), h rest, List.append_assoc]

theorem comp (h : Appends write) (hn : Appends next) : Appends fun rest => write (next rest) := by
  intro rest
  show write (next rest) = write (next []) ++ rest
  rw [hn rest, h.append]

theorem const (front : Bytes) : Appends (front ++ ·) := by
  intro rest
  show front ++ rest = front ++ [] ++ rest
  rw [List.append_nil]

theorem cons (b : UInt8) (h : Appends write) : Appends fun rest => b :: write rest :=
  (const [b]).comp h

end Appends

theorem appends_all {α : Type} {write : α → Bytes → Bytes} {as : List α}
    (h : ∀ a ∈ as, Appends (write a)) : Appends (all write as) := by
  induction as with
  | nil => exact fun _ => rfl
  | cons a as ih =>
    exact (h a List.mem_cons_self).comp (ih fun b hb => h b (List.mem_cons_of_mem a hb))

theorem appends_writeDigits (n : Nat) : Appends (Varint.writeDigits n) := by
  induction n using Varint.writeDigits.induct with
  | case1 n small =>
    intro rest
    have whole (rest : Bytes) : Varint.writeDigits n rest = UInt8.ofNat n :: rest := by
      rw [Varint.writeDigits, if_pos small]
    rw [whole, whole, List.singleton_append]
  | case2 n large ih =>
    intro rest
    have whole (rest : Bytes) : Varint.writeDigits n rest =
        UInt8.ofNat (n % 128 + 128) :: Varint.writeDigits (n / 128) rest := by
      rw [Varint.writeDigits, if_neg large]
    rw [whole, whole, ih rest, List.cons_append]

theorem appends_varint (v : Int64) : Appends (Varint.write v) := by
  intro rest
  simp only [Varint.write]
  split
  · rfl
  · rw [appends_writeDigits, List.cons_append]

theorem appends_length (n : Nat) : Appends (length n) := appends_varint _

theorem appends_string (s : String) : Appends (string s) :=
  (appends_length _).comp ((Appends.const (Bytes.ofString s)).comp (.const [0]))

theorem appends_blob (bytes : Bytes) : Appends (blob bytes) :=
  (appends_length _).comp (.const bytes)

theorem appends_triple (t : Int64 × Int64 × Int64) : Appends (triple t) :=
  (appends_varint _).comp ((appends_varint _).comp (appends_varint _))

theorem appends_float (bits : UInt32) : Appends (float bits) := .const _

theorem appends_rows {keys values : List (Bytes → Bytes)} (hk : ∀ key ∈ keys, Appends key)
    (hv : ∀ value ∈ values, Appends value) : Appends (rows keys values) :=
  appends_all fun _ row => (hk _ (List.of_mem_zip row).1).comp (hv _ (List.of_mem_zip row).2)

end Writer

section Nested

open Writer

mutual

theorem Record.appends_write : ∀ r : Record, Appends (Record.write r)
  | .mk _ value => .cons _ (.cons _ (.cons _ (.cons _ (Value.appends_write value))))

theorem Value.appends_write : ∀ v : Value, Appends (Value.write v)
  | .varint n => appends_varint n
  | .string s => appends_string s
  | .blob bytes => appends_blob bytes
  | .group g => Group.appends_write g
  | .list items => .cons _ ((appends_length _).comp (Items.appends_write items))
  | .map keys values =>
    .cons _ (.cons _ ((appends_length _).comp
      (appends_rows (Column.appends_cells keys) (Column.appends_cells values))))
  | .unset => .const [unsetDiscriminant]
  | .union _ r => .cons _ (Record.appends_write r)
  | .varintList _ => (appends_length _).comp (appends_all fun n _ => appends_varint n)
  | .pair a b => (appends_varint a).comp (appends_varint b)
  | .triple a b c => appends_triple (a, b, c)
  | .float bits => appends_float bits

theorem Group.appends_write : ∀ g : Group, Appends (Group.write g)
  | .mk false fields => (Record.appends_writeAll fields).comp (.const [groupEnd])
  | .mk true fields => .cons groupMark ((Record.appends_writeAll fields).comp (.const [groupEnd]))

theorem Items.appends_write : ∀ items : Items, Appends (Items.write items)
  | .varints _ => appends_all fun n _ => appends_varint n
  | .strings _ => appends_all fun s _ => appends_string s
  | .groups gs => Group.appends_writeAll gs
  | .triples _ => appends_all fun t _ => appends_triple t

theorem Column.appends_cells : ∀ (c : Column), ∀ write ∈ c.cells, Appends write
  | .varints _ => List.forall_mem_map.2 fun n _ => appends_varint n
  | .strings _ => List.forall_mem_map.2 fun s _ => appends_string s
  | .groups gs => Group.appends_cells gs
  | .floats _ => List.forall_mem_map.2 fun bits _ => appends_float bits

theorem Record.appends_writeAll : ∀ rs : List Record, Appends (Record.writeAll rs)
  | [] => fun _ => rfl
  | r :: rs => (Record.appends_write r).comp (Record.appends_writeAll rs)

theorem Group.appends_writeAll : ∀ gs : List Group, Appends (Group.writeAll gs)
  | [] => fun _ => rfl
  | g :: gs => (Group.appends_write g).comp (Group.appends_writeAll gs)

theorem Group.appends_cells : ∀ (gs : List Group), ∀ write ∈ Group.cells gs, Appends write
  | [] => List.forall_mem_nil _
  | g :: gs => List.forall_mem_cons.2 ⟨Group.appends_write g, Group.appends_cells gs⟩

end

end Nested

/-- The bytes of content are those of its records, one after the other. -/
theorem encodeAll_cons (r : Record) (rs : List Record) :
    encodeAll (r :: rs) = r.write [] ++ encodeAll rs :=
  r.appends_write (encodeAll rs)

theorem encodeAll_append (as bs : List Record) :
    encodeAll (as ++ bs) = encodeAll as ++ encodeAll bs := by
  induction as with
  | nil => rfl
  | cons r as ih => rw [List.cons_append, encodeAll_cons, encodeAll_cons, ih, List.append_assoc]

/-! ### Content in pieces -/

/-- By induction on the number of bytes in the first piece. -/
theorem decodeAll_append_of_ne (a b : Bytes) (enough : decodeAll a ≠ .error .unexpectedEnd) :
    decodeAll (a ++ b) = (decodeAll a).bind fun rs => (decodeAll b).map (rs ++ ·) := by
  have prepend (result : Except DecodeError (List Record)) :
      result.map (([] : List Record) ++ ·) = result := by
    cases result <;> rfl
  induction a using (measure List.length).wf.induction with
  | h a ih =>
    cases a with
    | nil => exact (prepend (decodeAll b)).symm
    | cons x a =>
      have steady := Reader.steady_record maxDepth
      have nonempty : x :: a ++ b ≠ [] := List.cons_ne_nil x (a ++ b)
      rw [decodeAll_eq_bind (List.cons_ne_nil x a)] at enough ⊢
      rw [decodeAll_eq_bind nonempty]
      cases first : readRecord (x :: a) with
      | error cause =>
        have other : cause ≠ .unexpectedEnd := fun missing => enough (by rw [first, missing]; rfl)
        rw [readRecord, steady.append_error first other]
        rfl
      | ok p =>
        obtain ⟨r, rest⟩ := p
        rw [first] at enough
        have go := ih rest (Reader.shortens_record maxDepth first) fun missing => enough (by
          dsimp only [Except.bind]
          rw [missing]
          rfl)
        rw [readRecord, steady.append_ok first]
        dsimp only [Except.bind]
        rw [go]
        cases decodeAll rest with
        | error cause => rfl
        | ok rs =>
          dsimp only [Except.bind, Except.map]
          cases decodeAll b <;> rfl

/-- Content in two pieces is the content of the one and then that of the other. -/
theorem decodeAll_append {a : Bytes} {rs : List Record} (h : decodeAll a = .ok rs) (b : Bytes) :
    decodeAll (a ++ b) = (decodeAll b).map (rs ++ ·) := by
  rw [decodeAll_append_of_ne a b (by simp [h]), h]
  rfl

/-- The first records of content that can be read back can be read back. -/
theorem decodeAll_encodeAll_take {rs : List Record} (h : decodeAll (encodeAll rs) = .ok rs)
    (m : Nat) : decodeAll (encodeAll (rs.take m)) = .ok (rs.take m) := by
  obtain ⟨sound, shallow⟩ := sound_of_decodeAll h
  have first {r : Record} (hr : r ∈ rs.take m) : r ∈ rs := List.mem_of_mem_take hr
  rw [decodeAll_encodeAll_eq fun r hr => sound r (first hr), if_pos]
  exact Record.depthAll_le_iff.2 fun r hr => Record.depthAll_le_iff.1 shallow r (first hr)

/-- A record that can be read back is read off its bytes, whatever follows them. -/
theorem readRecord_write {r : Record} (sound : r.Sound) (shallow : r.depth ≤ maxDepth)
    (rest : Bytes) : readRecord (r.write [] ++ rest) = .ok (r, rest) := by
  rw [← r.appends_write rest, readRecord, Reader.record_write maxDepth sound rest, Reader.within,
    if_pos shallow]

/-- Bytes that start some content and stop at none of its records end inside a record. -/
theorem decodeAll_prefix {rs : List Record} (sound : ∀ r ∈ rs, r.Sound)
    (shallow : ∀ r ∈ rs, r.depth ≤ maxDepth) : ∀ {p : Bytes}, p <+: encodeAll rs →
      (∀ m, p ≠ encodeAll (rs.take m)) → decodeAll p = .error .unexpectedEnd := by
  induction rs with
  | nil =>
    intro p cut between
    exact (between 0 (List.prefix_nil.1 cut)).elim
  | cons r rs ih =>
    intro p cut between
    have read := readRecord_write (sound r List.mem_cons_self) (shallow r List.mem_cons_self)
    have nonempty : p ≠ [] := between 0
    rw [encodeAll_cons] at cut
    rcases List.prefix_or_prefix_of_prefix cut (List.prefix_append _ _) with inside | ⟨q, rfl⟩
    · have proper : p ≠ r.write [] := by
        have after := between 1
        rwa [List.take_succ_cons, List.take_zero, encodeAll_cons, encodeAll, Record.writeAll,
          List.append_nil] at after
      have missing : readRecord p = .error .unexpectedEnd :=
        (Reader.steady_record maxDepth).unexpectedEnd_of_cut (read []) inside proper
      rw [decodeAll_eq_bind nonempty, missing]
      rfl
    · have others := ih (fun x hx => sound x (List.mem_cons_of_mem r hx))
        (fun x hx => shallow x (List.mem_cons_of_mem r hx))
        ((List.prefix_append_right_inj _).1 cut) fun m same => between (m + 1) (by
          rw [same, List.take_succ_cons, encodeAll_cons])
      rw [decodeAll_eq_bind nonempty, read q]
      dsimp only [Except.bind]
      rw [others]
      rfl

/-- **More bytes cure nothing but missing ones.**  What is read off the front of some bytes, or
refused for another cause than missing bytes, stays so if more bytes follow; and a record whose
bytes are cut short is missed.  So content in two pieces is the content of the one followed by that
of the other, and a cut through the bytes of content that can be read back gives the records before
the cut if it is made between records, and misses bytes otherwise. -/
theorem readRecord_append :
    (∀ (bytes more : Bytes),
      (∀ r rest, readRecord bytes = .ok (r, rest) →
        readRecord (bytes ++ more) = .ok (r, rest ++ more)) ∧
      (∀ cause, cause ≠ .unexpectedEnd → readRecord bytes = .error cause →
        readRecord (bytes ++ more) = .error cause)) ∧
    (∀ (bytes : Bytes) r rest, readRecord bytes = .ok (r, rest) →
      ∃ p, bytes = p ++ rest ∧ p ≠ [] ∧
        ∀ q, q <+: p → q ≠ p → readRecord q = .error .unexpectedEnd) ∧
    (∀ (a b : Bytes) rs, decodeAll a = .ok rs →
      decodeAll (a ++ b) = (decodeAll b).map (rs ++ ·)) ∧
    (∀ (rs : List Record) (cut : Nat), decodeAll (encodeAll rs) = .ok rs →
      cut ≤ (encodeAll rs).length →
      (∀ m, (encodeAll (rs.take m)).length = cut →
        decodeAll ((encodeAll rs).take cut) = .ok (rs.take m)) ∧
      ((∀ m, (encodeAll (rs.take m)).length ≠ cut) →
        decodeAll ((encodeAll rs).take cut) = .error .unexpectedEnd)) := by
  have steady : readRecord.Steady := Reader.steady_record maxDepth
  refine ⟨fun bytes more => ⟨fun r rest h => steady.append_ok h more,
    fun cause other h => steady.append_error h other more⟩, ?consumed,
    fun a b rs h => decodeAll_append h b, ?cuts⟩
  case consumed =>
    intro bytes r rest h
    obtain ⟨p, rfl⟩ := (Reader.yields_record maxDepth h).1
    have shorter := Reader.shortens_record maxDepth h
    refine ⟨p, rfl, ?_, fun q cut proper => steady.unexpectedEnd_of_cut h cut proper⟩
    rintro rfl
    simp at shorter
  case cuts =>
    intro rs cut back inside
    have front (m : Nat) : encodeAll (rs.take m) <+: encodeAll rs := by
      refine ⟨encodeAll (rs.drop m), ?_⟩
      rw [← encodeAll_append, List.take_append_drop]
    refine ⟨fun m here => ?_, fun between => ?_⟩
    · rw [← here, ← List.prefix_iff_eq_take.1 (front m)]
      exact decodeAll_encodeAll_take back m
    · obtain ⟨sound, shallow⟩ := sound_of_decodeAll back
      refine decodeAll_prefix sound (Record.depthAll_le_iff.1 shallow) (List.take_prefix _ _) ?_
      intro m same
      have lengths := congrArg List.length same
      rw [List.length_take, Nat.min_eq_left inside] at lengths
      exact between m lengths.symm

/-- Two records, one of them nested: the second is cut inside its inner text. -/
theorem readRecord_append_nested :
    let inner : Record := .string (.ofTag 9 9 9) "ab"
    let rs : List Record := [.varint (.ofTag 1 2 3) (-70), .group (.ofTag 4 5 6) [inner]]
    let bytes : Bytes := [1, 2, 3, 0, 0xc6, 1, 4, 5, 6, 3, 9, 9, 9, 1, 3, 0x61, 0x62, 0, 0]
    readRecord bytes = .ok (.varint (.ofTag 1 2 3) (-70), bytes.drop 6) ∧
      readRecord (bytes ++ [7]) = .ok (.varint (.ofTag 1 2 3) (-70), bytes.drop 6 ++ [7]) ∧
      readRecord [1, 2, 3, 11] = .error (.unknownKind 11) ∧
      readRecord ([1, 2, 3, 11] ++ [7]) = .error (.unknownKind 11) ∧
      encodeAll rs = bytes ∧ decodeAll bytes = .ok rs ∧
      decodeAll (bytes ++ bytes) = .ok (rs ++ rs) ∧
      decodeAll (bytes.take 6) = .ok (rs.take 1) ∧
      decodeAll (bytes.take 15) = .error .unexpectedEnd := by
  intro inner rs bytes
  have first : readRecord bytes = .ok (.varint (.ofTag 1 2 3) (-70), bytes.drop 6) := by rfl
  have unknown : readRecord [1, 2, 3, 11] = .error (.unknownKind 11) := by rfl
  have written : encodeAll rs = bytes := by decide +kernel
  have whole : decodeAll bytes = .ok rs := by rfl
  obtain ⟨more, -, pieces, cuts⟩ := readRecord_append
  have cut := fun k inside => cuts rs k (by rw [written, whole]) inside
  rw [written] at cut
  have lengths (m : Nat) : (encodeAll (rs.take m)).length ≠ 15 := by
    match m with
    | 0 | 1 => decide +kernel
    | m + 2 =>
      rw [List.take_of_length_le (Nat.le_add_left 2 m), written]
      decide
  refine ⟨first, (more bytes [7]).1 _ _ first, unknown,
    (more [1, 2, 3, 11] [7]).2 _ (by decide) unknown, written, whole, ?_,
    (cut 6 (by decide)).1 1 (by decide +kernel), (cut 15 (by decide)).2 lengths⟩
  rw [pieces bytes bytes rs whole, whole]
  rfl

end Lobby
