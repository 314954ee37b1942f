import Lobby.Proofs.Record.Size
import Lobby.Proofs.Record.Varint
import Mathlib.Algebra.BigOperators.Intervals
import Mathlib.Algebra.BigOperators.Ring.Finset
import Mathlib.Data.List.GetD
import Mathlib.Tactic.Ring

/-!
# Which bytes are a varint

A varint is decided by where its first byte under 128 is and by the number that the digits up to
there spell (`Varint.spelled`).  Reading takes it exactly if this byte is among the first ten and a
signed 64-bit number is spelled.  It takes no form that is shorter than the one written, and no
other of the same length but the negative zero.
-/

namespace Lobby.Varint

def isLast (byte : UInt8) : Bool := decide (byte.toNat < 128)

/-- The number that the bytes of a varint spell, the last of which has the index `n`. -/
def spelled (bytes : Bytes) (n : Nat) : Nat :=
  (bytes.getD 0 0).toNat % 64 + ∑ i ∈ Finset.Icc 1 n, (bytes.getD i 0).toNat % 128 * 2 ^ (7 * i - 1)

/-- The greatest magnitude of a signed 64-bit number. -/
def bound (negative : Bool) : Nat := if negative then 2 ^ 63 else 2 ^ 63 - 1

/-! ### Where a varint ends -/

theorem findIdx?_isLast_iff {bytes : Bytes} {n : Nat} :
    bytes.findIdx? isLast = some n ↔
      ∃ p rest, bytes = p ++ rest ∧ Ends p ∧ p.length = n + 1 := by
  induction bytes generalizing n with
  | nil =>
    refine ⟨nofun, ?_⟩
    rintro ⟨p, rest, empty, ends, -⟩
    obtain ⟨rfl, -⟩ := List.append_eq_nil_iff.1 empty.symm
    cases ends
  | cons b bytes ih =>
    rw [List.findIdx?_cons, isLast]
    by_cases last : b.toNat < 128
    · rw [decide_eq_true last, if_pos rfl, Option.some.injEq]
      constructor
      · rintro rfl
        exact ⟨[b], bytes, rfl, last, rfl⟩
      · rintro ⟨p, rest, split, ends, length⟩
        cases p with
        | nil => cases ends
        | cons c p =>
          obtain ⟨rfl, -⟩ := List.cons.inj split
          rcases ends_cons.1 ends with ⟨-, rfl⟩ | ⟨more, -⟩
          · exact Nat.succ.inj length
          · omega
    · rw [decide_eq_false last, if_neg Bool.false_ne_true, Option.map_eq_some_iff]
      constructor
      · rintro ⟨k, found, rfl⟩
        obtain ⟨p, rest, rfl, ends, length⟩ := ih.1 found
        exact ⟨b :: p, rest, rfl, ends_cons.2 (.inr ⟨by omega, ends⟩), congrArg (· + 1) length⟩
      · rintro ⟨p, rest, split, ends, length⟩
        cases p with
        | nil => cases ends
        | cons c p =>
          obtain ⟨rfl, rfl⟩ := List.cons.inj split
          rcases ends_cons.1 ends with ⟨small, -⟩ | ⟨-, ends⟩
          · omega
          · cases n with
            | zero =>
              obtain rfl := List.length_eq_zero_iff.1 (Nat.succ.inj length)
              cases ends
            | succ n => exact ⟨n, ih.2 ⟨p, rest, rfl, ends, Nat.succ.inj length⟩, rfl⟩

/-! ### What its digits spell -/

theorem digits_eq_sum (p : Bytes) :
    digits p = ∑ i ∈ Finset.range p.length, (p.getD i 0).toNat % 128 * 128 ^ i := by
  induction p with
  | nil => rfl
  | cons b p ih =>
    rw [digits, ih, List.length_cons, Finset.sum_range_succ', Finset.mul_sum, Nat.add_comm]
    congr 1
    · refine Finset.sum_congr rfl fun i _ => ?_
      rw [List.getD_cons_succ, Nat.pow_succ]
      ring
    · simp

theorem magnitude_eq_spelled {p : Bytes} {n : Nat} (length : p.length = n + 1) (rest : Bytes) :
    magnitude p = spelled (p ++ rest) n := by
  cases p with
  | nil => cases length
  | cons b p =>
    obtain rfl : p.length = n := Nat.succ.inj length
    rw [magnitude, digits_eq_sum, spelled, Finset.mul_sum, ← Finset.Ico_add_one_right_eq_Icc,
      Finset.sum_Ico_eq_sum_range]
    congr 1
    refine Finset.sum_congr rfl fun i hi => ?_
    have inside : i < p.length := Finset.mem_range.1 hi
    have weight : 2 ^ (7 * (1 + i) - 1) = 64 * 128 ^ i := by
      rw [show 7 * (1 + i) - 1 = 6 + 7 * i by omega, Nat.pow_add, Nat.pow_mul]
    rw [weight, Nat.add_comm 1 i, List.cons_append, List.getD_cons_succ,
      List.getD_append _ _ _ _ inside]
    ring

theorem negative_append {p : Bytes} (ends : Ends p) (rest : Bytes) :
    negative (p ++ rest) = negative p := by
  cases p with
  | nil => cases ends
  | cons b p => rfl

/-- **A varint is read exactly if it ends within ten bytes and spells a signed 64-bit number.** -/
theorem read_eq_ok_iff_spelled {bytes rest : Bytes} {v : Int64} :
    read bytes = .ok (v, rest) ↔
      ∃ n < 10, bytes.findIdx? isLast = some n ∧ rest = bytes.drop (n + 1) ∧
        v.toInt = if negative bytes then -(spelled bytes n : Int) else spelled bytes n := by
  rw [read_eq_ok_iff]
  constructor
  · rintro ⟨p, rfl, short, ends, value⟩
    obtain ⟨n, length⟩ : ∃ n, p.length = n + 1 := by
      cases p with
      | nil => cases ends
      | cons b p => exact ⟨p.length, rfl⟩
    refine ⟨n, by omega, findIdx?_isLast_iff.2 ⟨p, rest, rfl, ends, length⟩, ?_, ?_⟩
    · rw [← length, List.drop_left]
    · rw [negative_append ends, ← magnitude_eq_spelled length]
      exact value
  · rintro ⟨n, short, found, rfl, value⟩
    obtain ⟨p, rest, rfl, ends, length⟩ := findIdx?_isLast_iff.1 found
    refine ⟨p, ?_, by omega, ends, ?_⟩
    · rw [← length, List.drop_left]
    · rw [magnitude_eq_spelled length rest, ← negative_append ends rest]
      exact value

/-- A number within bounds is some signed 64-bit number, with either sign. -/
theorem exists_toInt_eq_iff {sign : Bool} {m : Nat} :
    (∃ v : Int64, v.toInt = if sign then -(m : Int) else m) ↔ m ≤ bound sign := by
  constructor
  · rintro ⟨v, value⟩
    have least := v.le_toInt
    have most := v.toInt_lt
    cases sign <;> simp [bound] at value ⊢ <;> omega
  · intro small
    refine ⟨Int64.ofInt (if sign then -(m : Int) else m), Int64.toInt_ofInt_of_le ?_ ?_⟩
    all_goals cases sign <;> simp [bound] at small ⊢ <;> omega

/-! ### Why a varint is not read -/

/-- The digits run out if each of them fits where it stands and asks for another. -/
theorem readDigits_eq_unexpectedEnd_iff {bytes : Bytes} : ∀ {k sum : Nat},
    readDigits (place k) sum bytes = .error .unexpectedEnd ↔
      ∀ i (h : i < bytes.length), 128 ≤ bytes[i].toNat ∧ k + i ≤ 8 ∧
        bytes[i].toNat % 128 * place (k + i) < UInt64.size := by
  induction bytes with
  | nil => simp [readDigits]
  | cons b bytes ih =>
    intro k sum
    rw [readDigits]
    constructor
    · intro h
      split at h
      · cases h
      · next fits =>
        split at h
        · cases h
        · next more =>
          have index : k ≤ 8 := place_lt_iff.1 (by omega)
          intro i inside
          cases i with
          | zero => exact ⟨by simpa using more, index, by simp; omega⟩
          | succ i =>
            have := (ih (k := k + 1)).1 h i (Nat.lt_of_succ_lt_succ inside)
            rwa [Nat.add_right_comm, Nat.add_assoc] at this
    · intro h
      obtain ⟨more, index, fits⟩ := h 0 (Nat.succ_pos _)
      have light := place_lt_iff.2 index
      simp only [List.getElem_cons_zero, Nat.add_zero] at more fits light
      rw [if_neg (by omega), if_neg (by omega)]
      refine (ih (k := k + 1)).2 fun i inside => ?_
      have := h (i + 1) (Nat.succ_lt_succ inside)
      rwa [Nat.add_right_comm, Nat.add_assoc]

/-- The first eight digits fit, whatever they are; of the ninth there are two bits. -/
theorem digit_fits_iff {k digit : Nat} (index : k ≤ 8) (small : digit < 128) :
    digit * place k < UInt64.size ↔ k = 8 → digit < 4 := by
  have size : UInt64.size = 4 * place 8 := rfl
  rcases Nat.lt_or_eq_of_le index with inner | rfl
  · have light : place k ≤ place 7 := place_mono (Nat.le_of_lt_succ inner)
    have most : digit * place k ≤ 127 * place 7 := Nat.mul_le_mul (by omega) light
    have room : 127 * place 7 < UInt64.size := by decide
    exact ⟨fun _ last => by omega, fun _ => Nat.lt_of_le_of_lt most room⟩
  · rw [size, Nat.mul_lt_mul_right (by decide)]
    exact ⟨fun fits _ => fits, fun fits => fits rfl⟩

theorem readDigits_error {bytes : Bytes} {e : DecodeError} : ∀ {weight sum : Nat},
    readDigits weight sum bytes = .error e → e = .unexpectedEnd ∨ e = .overflow := by
  induction bytes with
  | nil =>
    intro weight sum h
    cases h
    exact .inl rfl
  | cons b bytes ih =>
    intro weight sum h
    rw [readDigits] at h
    split at h
    · cases h
      exact .inr rfl
    · split at h
      · cases h
      · exact ih h

theorem signed_error {sign : Bool} {m : Nat} {e : DecodeError} (h : signed sign m = .error e) :
    e = .overflow := by
  unfold signed at h
  split at h <;> split at h <;> cases h <;> rfl

/-- A varint fails as its digits fail, or else for the number that they spell. -/
theorem read_cons_eq_error_iff {b : UInt8} {bytes : Bytes} {e : DecodeError} :
    read (b :: bytes) = .error e ↔
      128 ≤ b.toNat ∧ readDigits 64 (b.toNat % 64) bytes = .error e ∨
      ∃ m, signed (decide (64 ≤ b.toNat % 128)) m = .error e ∧
        (b.toNat < 128 ∧ m = b.toNat % 64 ∨
          128 ≤ b.toNat ∧ ∃ rest, readDigits 64 (b.toNat % 64) bytes = .ok (m, rest)) := by
  have result (m : Nat) (left : Bytes) :
      (signed (decide (64 ≤ b.toNat % 128)) m).map (fun v => (v, left)) = .error e ↔
        signed (decide (64 ≤ b.toNat % 128)) m = .error e := by
    cases signed (decide (64 ≤ b.toNat % 128)) m <;> simp [Except.map]
  by_cases last : b.toNat < 128
  · rw [read_last last, result]
    constructor
    · exact fun failed => .inr ⟨_, failed, .inl ⟨last, rfl⟩⟩
    · rintro (⟨more, -⟩ | ⟨m, failed, ⟨-, rfl⟩ | ⟨more, -⟩⟩)
      · omega
      · exact failed
      · omega
  · have more : 128 ≤ b.toNat := Nat.le_of_not_lt last
    rw [read_more more]
    cases digits : readDigits 64 (b.toNat % 64) bytes with
    | error cause => simp [Except.bind, more]
    | ok p =>
      rw [Except.bind, result]
      constructor
      · exact fun failed => .inr ⟨p.1, failed, .inr ⟨more, p.2, rfl⟩⟩
      · rintro (⟨-, failed⟩ | ⟨m, failed, ⟨small, -⟩ | ⟨-, rest, same⟩⟩)
        · cases failed
        · omega
        · cases same
          exact failed

/-- A varint is refused for nothing but its length and its number. -/
theorem read_error {bytes : Bytes} {e : DecodeError} (h : read bytes = .error e) :
    e = .unexpectedEnd ∨ e = .overflow := by
  cases bytes with
  | nil =>
    cases h
    exact .inl rfl
  | cons b bytes =>
    rcases read_cons_eq_error_iff.1 h with ⟨-, digits⟩ | ⟨m, number, -⟩
    · exact readDigits_error digits
    · exact .inr (signed_error number)

/-- **The bytes run out if each of them asks for another, and they are at most nine, or ten of which
the last does not overflow.** -/
theorem read_eq_unexpectedEnd_iff {bytes : Bytes} :
    read bytes = .error .unexpectedEnd ↔ (∀ b ∈ bytes, 128 ≤ b.toNat) ∧
      (bytes.length ≤ 9 ∨ bytes.length = 10 ∧ (bytes.getD 9 0).toNat % 128 < 4) := by
  cases bytes with
  | nil => simp [read]
  | cons b bytes =>
    have digits : read (b :: bytes) = .error .unexpectedEnd ↔ 128 ≤ b.toNat ∧
        readDigits (place 0) (b.toNat % 64) bytes = .error .unexpectedEnd := by
      rw [read_cons_eq_error_iff]
      refine or_iff_left ?_
      rintro ⟨m, number, -⟩
      cases signed_error number
    rw [digits, readDigits_eq_unexpectedEnd_iff, List.forall_mem_cons, and_assoc,
      List.length_cons, List.getD_cons_succ]
    refine and_congr_right fun _ => ?_
    have small (i : Nat) (inside : i < bytes.length) : bytes[i].toNat % 128 < 128 :=
      Nat.mod_lt _ (by decide)
    simp only [Nat.zero_add]
    constructor
    · intro h
      refine ⟨List.forall_mem_iff_getElem.2 fun i inside => (h i inside).1, ?_⟩
      by_cases few : bytes.length ≤ 8
      · exact .inl (Nat.succ_le_succ few)
      · obtain ⟨-, -, fits⟩ := h 8 (by omega)
        have tenth : ¬9 < bytes.length := fun inside => absurd (h 9 inside).2.1 (by decide)
        refine .inr ⟨by omega, ?_⟩
        rw [List.getD_eq_getElem _ _ (by omega)]
        exact (digit_fits_iff (Nat.le_refl 8) (small 8 (by omega))).1 fits rfl
    · rintro ⟨more, length⟩ i inside
      have index : i ≤ 8 := by omega
      refine ⟨more _ (List.getElem_mem inside), index, (digit_fits_iff index (small i inside)).2 ?_⟩
      rintro rfl
      obtain ⟨-, fits⟩ := length.resolve_left (by omega)
      rwa [List.getD_eq_getElem _ _ inside] at fits

/-! ### The shortest form -/

theorem digits_lt (p : Bytes) : digits p < 128 ^ p.length := by
  induction p with
  | nil => exact Nat.one_pos
  | cons b p ih =>
    rw [digits, List.length_cons, Nat.pow_succ]
    omega

/-- Digits that are as few as their number needs are those that are written. -/
theorem eq_writeDigits {p : Bytes} (ends : Ends p) (shortest : p.length = digitCount (digits p)) :
    p = writeDigits (digits p) [] := by
  induction p with
  | nil => cases ends
  | cons b p ih =>
    have byte := b.toNat_lt
    rcases ends_cons.1 ends with ⟨last, rfl⟩ | ⟨more, ends⟩
    · have value : digits [b] = b.toNat := by
        simp [digits, Nat.mod_eq_of_lt last]
      rw [value, writeDigits, if_pos last, UInt8.ofNat_toNat]
    · have rest : p ≠ [] := by
        rintro rfl
        cases ends
      have positive : 0 < digits (b :: p) := by
        rcases Nat.eq_zero_or_pos (digits (b :: p)) with zero | positive
        · rw [zero, digitCount_zero] at shortest
          cases shortest
        · exact positive
      have quotient : digits (b :: p) / 128 = digits p := by
        rw [digits]
        omega
      rw [digitCount_of_pos positive, quotient, List.length_cons] at shortest
      have again := ih ends (Nat.succ.inj shortest)
      have large : 128 ≤ digits (b :: p) := by
        have : digits p ≠ 0 := by
          intro zero
          rw [zero, digitCount_zero] at shortest
          exact rest (List.length_eq_zero_iff.1 (Nat.succ.inj shortest))
        rw [digits]
        omega
      have first : digits (b :: p) % 128 + 128 = b.toNat := by
        rw [digits]
        omega
      rw [writeDigits, if_neg (by omega), first, quotient, UInt8.ofNat_toNat, ← again]

theorem natAbs_of_spelling {v : Int64} {b : UInt8} {p : Bytes} (h : Spelling v (b :: p)) :
    v.toInt.natAbs = b.toNat % 64 + 64 * digits p := by
  have value := h.value
  rw [magnitude] at value
  split at value <;> omega

/-- **No form of a number is shorter than the one that is written.** -/
theorem size_le_length {v : Int64} {p : Bytes} (h : Spelling v p) : size v ≤ p.length := by
  cases p with
  | nil => cases h.ends
  | cons b p =>
    have quotient : v.toInt.natAbs / 64 = digits p := by
      rw [natAbs_of_spelling h]
      omega
    rw [size, quotient]
    exact Nat.succ_le_succ (digitCount_le (digits_lt p))

theorem spelling_write (v : Int64) : Spelling v (write v []) := by
  obtain ⟨p, split, spelling⟩ := read_eq_ok_iff.1 (read_write v [])
  rwa [split, List.append_nil]

/-- Zero alone may be spelled with the wrong sign. -/
theorem sign_of_spelling {v : Int64} {b : UInt8} {p : Bytes} (h : Spelling v (b :: p))
    (nonzero : v.toInt ≠ 0) : b.toNat % 128 = v.toInt.natAbs % 64 + signBit v := by
  have value := h.value
  have sign := signBit_cases v
  simp only [magnitude, negative, decide_eq_true_eq] at value
  split at value <;> omega

/-- **Of the shortest forms of a number only the negative zero is not the one written.** -/
theorem spelling_shortest_iff {v : Int64} {p : Bytes} (shortest : p.length = size v) :
    Spelling v p ↔ p = write v [] ∨ v = 0 ∧ p = [0x40] := by
  constructor
  · intro h
    cases p with
    | nil => cases h.ends
    | cons b p =>
      have whole := natAbs_of_spelling h
      have byte := b.toNat_lt
      rcases ends_cons.1 h.ends with ⟨last, rfl⟩ | ⟨more, ends⟩
      · simp only [digits, Nat.mul_zero, Nat.add_zero] at whole
        by_cases zero : v.toInt = 0
        · have written : b = UInt8.ofNat b.toNat := UInt8.ofNat_toNat.symm
          obtain rfl : v = 0 := Int64.toInt_inj.1 zero
          rcases show b.toNat = 0 ∨ b.toNat = 64 by omega with plain | signed
          · rw [plain] at written
            subst written
            exact .inl (by decide +kernel)
          · rw [signed] at written
            subst written
            exact .inr ⟨rfl, rfl⟩
        · have sign := sign_of_spelling h zero
          refine .inl ?_
          have first : b.toNat = v.toInt.natAbs + signBit v := by omega
          rw [write, if_pos (by omega)]
          show [b] = [UInt8.ofNat (v.toInt.natAbs + signBit v)]
          rw [← first, UInt8.ofNat_toNat]
      · have quotient : v.toInt.natAbs / 64 = digits p := by omega
        rw [size, quotient, List.length_cons] at shortest
        have rest := eq_writeDigits ends (Nat.succ.inj shortest)
        have positive : digits p ≠ 0 := by
          intro zero
          rw [zero, digitCount_zero] at shortest
          obtain rfl := List.length_eq_zero_iff.1 (Nat.succ.inj shortest)
          cases ends
        have sign := sign_of_spelling h (by omega)
        refine .inl ?_
        have first : b.toNat = v.toInt.natAbs % 64 + signBit v + 128 := by omega
        rw [write, if_neg (by omega)]
        show b :: p = UInt8.ofNat (v.toInt.natAbs % 64 + signBit v + 128) ::
          writeDigits (v.toInt.natAbs / 64) []
        rw [← first, UInt8.ofNat_toNat, quotient, ← rest]
  · rintro (rfl | ⟨rfl, rfl⟩)
    · exact spelling_write v
    · exact ⟨by decide, show (0x40 : UInt8).toNat < 128 by decide, by decide⟩

theorem read_eq_ok_nil_iff {v : Int64} {p : Bytes} : read p = .ok (v, []) ↔ Spelling v p := by
  rw [read_eq_ok_iff]
  constructor
  · rintro ⟨q, rfl, spelling⟩
    rwa [List.append_nil]
  · exact fun spelling => ⟨p, (List.append_nil p).symm, spelling⟩

/-- **Which bytes are a varint.**

* A number is read back from the bytes it is written as, whatever follows them, and these are
  `size v`, at most ten.
* Bytes are read exactly if the first of them under 128 is among the first ten and they spell a
  magnitude that a signed 64-bit number with their sign has.  What is read is this number, and the
  bytes up to there are taken.
* They are too few exactly if each of them asks for another and there are at most nine, or ten of
  which the last is one of the four that fit.  Every other failure is an overflow.
* No form of a number is shorter than the one that is written, and no other is as short but the
  negative zero. -/
theorem read_write_exact :
    (∀ (v : Int64) (rest : Bytes), read (write v [] ++ rest) = .ok (v, rest) ∧
      (write v []).length = size v ∧ size v ≤ 10) ∧
    (∀ bytes : Bytes,
      ((∃ v rest, read bytes = .ok (v, rest)) ↔ ∃ n < 10, bytes.findIdx? isLast = some n ∧
        spelled bytes n ≤ bound (negative bytes)) ∧
      (∀ v rest n, read bytes = .ok (v, rest) → bytes.findIdx? isLast = some n →
        v.toInt = (if negative bytes then -(spelled bytes n : Int) else spelled bytes n) ∧
          rest = bytes.drop (n + 1)) ∧
      (read bytes = .error .unexpectedEnd ↔ (∀ b ∈ bytes, 128 ≤ b.toNat) ∧
        (bytes.length ≤ 9 ∨ bytes.length = 10 ∧ (bytes.getD 9 0).toNat % 128 < 4)) ∧
      ∀ e, read bytes = .error e → e = .unexpectedEnd ∨ e = .overflow) ∧
    ∀ (v : Int64) (p : Bytes),
      (read p = .ok (v, []) → size v ≤ p.length) ∧
      (p.length = size v → (read p = .ok (v, []) ↔ p = write v [] ∨ v = 0 ∧ p = [0x40])) := by
  refine ⟨fun v rest => ⟨?_, ?_, size_le v⟩, fun bytes => ⟨?_, ?_, read_eq_unexpectedEnd_iff,
    fun e => read_error⟩, fun v p => ⟨fun h => ?_, fun shortest => ?_⟩⟩
  · exact read_eq_ok_iff.2 ⟨_, rfl, spelling_write v⟩
  · exact length_write v []
  · constructor
    · rintro ⟨v, rest, h⟩
      obtain ⟨n, short, found, -, value⟩ := read_eq_ok_iff_spelled.1 h
      exact ⟨n, short, found, exists_toInt_eq_iff.1 ⟨v, value⟩⟩
    · rintro ⟨n, short, found, small⟩
      obtain ⟨v, value⟩ := exists_toInt_eq_iff.2 small
      exact ⟨v, _, read_eq_ok_iff_spelled.2 ⟨n, short, found, rfl, value⟩⟩
  · intro v rest n h found
    obtain ⟨k, -, found', taken, value⟩ := read_eq_ok_iff_spelled.1 h
    obtain rfl : k = n := Option.some.inj (found'.symm.trans found)
    exact ⟨value, taken⟩
  · exact size_le_length (read_eq_ok_nil_iff.1 h)
  · rw [read_eq_ok_nil_iff]
    exact spelling_shortest_iff shortest

/-- The least number takes all ten bytes.  Nine bytes and another one that asks for more are too few
if it is one of the four that fit, and overflow if it is not. -/
theorem read_write_exact_least :
    let front : Bytes := 0xc0 :: List.replicate 8 0x80
    let least : Bytes := front ++ [0x02]
    write Int64.minValue [] = least ∧ read (least ++ [7]) = .ok (Int64.minValue, [7]) ∧
      size Int64.minValue = 10 ∧
      (∀ p, p.length = 10 → read p = .ok (Int64.minValue, []) → p = least) ∧
      read (front ++ [0x83]) = .error .unexpectedEnd ∧
      read (front ++ [0x84]) = .error .overflow := by
  intro front least
  obtain ⟨back, forms, shortest⟩ := read_write_exact
  have written : write Int64.minValue [] = least := by decide +kernel
  obtain ⟨read_back, length, -⟩ := back Int64.minValue [7]
  rw [written] at read_back length
  have size : size Int64.minValue = 10 := length.symm
  refine ⟨written, read_back, size, fun p ten h => ?_, ?_, ?_⟩
  · rcases ((shortest _ p).2 (ten.trans size.symm)).1 h with same | ⟨zero, -⟩
    · rw [same, written]
    · exact absurd zero (by decide)
  · exact (forms (front ++ [0x83])).2.2.1.2 ⟨by decide +kernel, .inr ⟨rfl, by decide⟩⟩
  · have failed : ∃ e, read (front ++ [0x84]) = .error e := ⟨.overflow, by rfl⟩
    obtain ⟨e, failed⟩ := failed
    rcases (forms (front ++ [0x84])).2.2.2 e failed with rfl | rfl
    · exact absurd ((forms (front ++ [0x84])).2.2.1.1 failed).2 (by decide)
    · exact failed

end Lobby.Varint
