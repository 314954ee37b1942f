import Lobby.Record.Varint

/-!
# Numbers and their bytes

A number is read back from the bytes it is written as, whatever follows them.  The digits after the
first byte are read with the weight that the bytes before them have reached.

The reader takes longer forms too.  `Spelling` says which bytes spell a number, without reading
them, and reading takes these and no others.
-/

namespace Lobby.Varint

theorem readDigits_writeDigits (n : Nat) (rest : Bytes) :
    ∀ weight sum : Nat, 0 < n → n * weight < UInt64.size →
      readDigits weight sum (writeDigits n rest) = .ok (sum + n * weight, rest) := by
  induction n using writeDigits.induct with
  | case1 n small =>
    intro weight sum positive fits
    have byte : (UInt8.ofNat n).toNat = n := by
      rw [UInt8.toNat_ofNat']
      omega
    have light : weight ≤ n * weight := Nat.le_mul_of_pos_left weight positive
    rw [writeDigits, if_pos small, readDigits]
    simp only [byte, Nat.mod_eq_of_lt small]
    rw [if_neg (by omega), if_pos small]
  | case2 n large ih =>
    intro weight sum positive fits
    have byte : (UInt8.ofNat (n % 128 + 128)).toNat = n % 128 + 128 := by
      rw [UInt8.toNat_ofNat']
      omega
    have split : n * weight = n % 128 * weight + n / 128 * (weight * 128) := by
      conv => lhs; rw [← Nat.mod_add_div n 128]
      rw [Nat.add_mul, Nat.mul_comm 128, Nat.mul_assoc, Nat.mul_comm 128]
    have light : weight ≤ n * weight := Nat.le_mul_of_pos_left weight positive
    have digit : (n % 128 + 128) % 128 = n % 128 := by omega
    rw [writeDigits, if_neg large, readDigits]
    simp only [byte, digit]
    rw [if_neg (by omega), if_neg (by omega), ih _ _ (by omega) (by omega), split, Nat.add_assoc]

theorem signed_natAbs (v : Int64) : signed (decide (v.toInt < 0)) v.toInt.natAbs = .ok v := by
  have low := v.le_toInt
  have high := v.toInt_lt
  unfold signed
  by_cases negative : v.toInt < 0
  · rw [if_pos (by simpa using negative), if_pos (by omega)]
    rw [show (-(v.toInt.natAbs : Int)) = v.toInt by omega, Int64.ofInt_toInt]
  · rw [if_neg (by simpa using negative), if_pos (by omega)]
    rw [show (v.toInt.natAbs : Int) = v.toInt by omega, Int64.ofInt_toInt]

/-- The sign of a number, as its first byte carries it. -/
def signBit (v : Int64) : Nat := if v.toInt < 0 then 64 else 0

theorem signBit_cases (v : Int64) :
    v.toInt < 0 ∧ signBit v = 64 ∨ ¬v.toInt < 0 ∧ signBit v = 0 := by
  unfold signBit
  split
  · next h => exact .inl ⟨h, rfl⟩
  · next h => exact .inr ⟨h, rfl⟩

/-- Reading a first byte that says no digit follows. -/
theorem read_last {b : UInt8} (last : b.toNat < 128) (bytes : Bytes) :
    read (b :: bytes) = (signed (decide (64 ≤ b.toNat % 128)) (b.toNat % 64)).map
      fun v => (v, bytes) := by
  simp only [read, if_pos last]
  rfl

/-- Reading a first byte that says more digits follow. -/
theorem read_more {b : UInt8} (more : 128 ≤ b.toNat) (bytes : Bytes) :
    read (b :: bytes) = (readDigits 64 (b.toNat % 64) bytes).bind fun digits =>
      (signed (decide (64 ≤ b.toNat % 128)) digits.1).map fun v => (v, digits.2) := by
  simp only [read, if_neg (Nat.not_lt.2 more)]
  rfl

theorem read_single (v : Int64) {low : Nat} (hl : low < 64) (rest : Bytes) :
    read (UInt8.ofNat (low + signBit v) :: rest) =
      (signed (decide (v.toInt < 0)) low).map fun v => (v, rest) := by
  have sign := signBit_cases v
  have byte : (UInt8.ofNat (low + signBit v)).toNat = low + signBit v := by
    rw [UInt8.toNat_ofNat']
    omega
  have bit : decide (64 ≤ (low + signBit v) % 128) = decide (v.toInt < 0) := by
    apply decide_eq_decide.2
    omega
  rw [read_last (by omega), byte, bit, show (low + signBit v) % 64 = low by omega]

theorem read_continued (v : Int64) {low : Nat} (hl : low < 64) (rest : Bytes) :
    read (UInt8.ofNat (low + signBit v + 128) :: rest) =
      (readDigits 64 low rest).bind fun (magnitude, rest) =>
        (signed (decide (v.toInt < 0)) magnitude).map fun v => (v, rest) := by
  have sign := signBit_cases v
  have byte : (UInt8.ofNat (low + signBit v + 128)).toNat = low + signBit v + 128 := by
    rw [UInt8.toNat_ofNat']
    omega
  have bit : decide (64 ≤ (low + signBit v + 128) % 128) = decide (v.toInt < 0) := by
    apply decide_eq_decide.2
    omega
  rw [read_more (by omega), byte, bit, show (low + signBit v + 128) % 64 = low by omega]

/-- **A number survives the trip through its bytes**, whatever follows them. -/
theorem read_write (v : Int64) (rest : Bytes) : read (write v rest) = .ok (v, rest) := by
  have low := v.le_toInt
  have high := v.toInt_lt
  have bytes : write v rest =
      if v.toInt.natAbs < 64 then UInt8.ofNat (v.toInt.natAbs + signBit v) :: rest
      else UInt8.ofNat (v.toInt.natAbs % 64 + signBit v + 128) ::
        writeDigits (v.toInt.natAbs / 64) rest := rfl
  rw [bytes]
  by_cases small : v.toInt.natAbs < 64
  · rw [if_pos small, read_single v small, signed_natAbs]
    rfl
  · have fits : v.toInt.natAbs / 64 * 64 < UInt64.size := by
      have : UInt64.size = 18446744073709551616 := rfl
      omega
    rw [if_neg small, read_continued v (Nat.mod_lt _ (by decide)),
      readDigits_writeDigits _ _ _ _ (by omega) fits, Nat.mod_add_div']
    simp only [Except.bind, signed_natAbs]
    rfl

/-! ### All forms of a number -/

/-- The number that digits of seven bits spell, the lowest first. -/
def digits : Bytes → Nat
  | [] => 0
  | b :: rest => b.toNat % 128 + 128 * digits rest

/-- The number that the bytes of a varint spell, apart from its sign. -/
def magnitude : Bytes → Nat
  | [] => 0
  | b :: rest => b.toNat % 64 + 64 * digits rest

def negative : Bytes → Bool
  | [] => false
  | b :: _ => decide (64 ≤ b.toNat % 128)

/-- Every byte but the last says that another follows. -/
def Ends : Bytes → Prop
  | [] => False
  | [b] => b.toNat < 128
  | b :: c :: rest => 128 ≤ b.toNat ∧ Ends (c :: rest)

/-- The forms of a number: any bytes, ten at most, that spell it, whatever zeros they end in.  A
number of 64 bits that has a form does not overflow. -/
structure Spelling (v : Int64) (p : Bytes) : Prop where
  short : p.length ≤ 10
  ends : Ends p
  value : v.toInt = if negative p then -(magnitude p : Int) else magnitude p

/-- How many times the digit with an index counts, after the first byte. -/
def place : Nat → Nat
  | 0 => 64
  | k + 1 => place k * 128

theorem place_mono {j k : Nat} (h : j ≤ k) : place j ≤ place k := by
  induction h with
  | refl => exact Nat.le_refl _
  | step _ ih => exact Nat.le_trans ih (Nat.le_mul_of_pos_right _ (by decide))

/-- A digit after the tenth byte does not fit into 64 bits. -/
theorem place_lt_iff {k : Nat} : place k < UInt64.size ↔ k ≤ 8 := by
  constructor
  · intro fits
    refine Nat.le_of_not_lt fun large => ?_
    have reached : place 9 ≤ place k := place_mono large
    exact absurd (Nat.lt_of_le_of_lt reached fits) (by decide)
  · intro small
    exact Nat.lt_of_le_of_lt (place_mono small) (by decide)

theorem ends_cons {b : UInt8} {rest : Bytes} :
    Ends (b :: rest) ↔ b.toNat < 128 ∧ rest = [] ∨ 128 ≤ b.toNat ∧ Ends rest := by
  cases rest with
  | nil => simp [Ends]
  | cons c rest => simp [Ends]

theorem readDigits_eq_ok {bytes rest : Bytes} {n : Nat} : ∀ {k sum : Nat},
    readDigits (place k) sum bytes = .ok (n, rest) →
      ∃ p, bytes = p ++ rest ∧ Ends p ∧ p.length + k ≤ 9 ∧ n = sum + digits p * place k := by
  induction bytes with
  | nil =>
    intro k sum h
    cases h
  | cons b bytes ih =>
    intro k sum h
    rw [readDigits] at h
    split at h
    · cases h
    · next fits =>
      have index : k ≤ 8 := place_lt_iff.1 (by omega)
      split at h
      · next last =>
        cases h
        exact ⟨[b], rfl, last, by simp only [List.length_singleton]; omega, by simp [digits]⟩
      · next more =>
        obtain ⟨p, rfl, ends, short, rfl⟩ := ih (k := k + 1) h
        refine ⟨b :: p, rfl, ends_cons.2 (.inr ⟨by omega, ends⟩), ?_, ?_⟩
        · simp only [List.length_cons]
          omega
        · rw [digits, place, Nat.add_mul, Nat.add_assoc]
          congr 2
          rw [Nat.mul_comm 128, Nat.mul_assoc, Nat.mul_comm 128]

theorem readDigits_append {p : Bytes} (rest : Bytes) : ∀ {k sum : Nat}, Ends p → p.length + k ≤ 9 →
    digits p * place k < UInt64.size →
      readDigits (place k) sum (p ++ rest) = .ok (sum + digits p * place k, rest) := by
  induction p with
  | nil =>
    intro k sum ends
    cases ends
  | cons b p ih =>
    intro k sum ends short fits
    have index : place k < UInt64.size := place_lt_iff.2 (by simp at short; omega)
    have split : digits (b :: p) * place k =
        b.toNat % 128 * place k + digits p * place (k + 1) := by
      rw [digits, place, Nat.add_mul, Nat.mul_comm 128, Nat.mul_assoc, Nat.mul_comm 128]
    rw [split] at fits ⊢
    rw [List.cons_append, readDigits, if_neg (by omega)]
    rcases ends_cons.1 ends with ⟨last, rfl⟩ | ⟨more, ends⟩
    · simp [digits, last]
    · rw [if_neg (by omega), show place k * 128 = place (k + 1) from rfl,
        ih ends (by simp at short; omega) (by omega), Nat.add_assoc]

theorem signed_eq_ok_iff {negative : Bool} {m : Nat} {v : Int64} :
    signed negative m = .ok v ↔ v.toInt = if negative then -(m : Int) else m := by
  have least := v.le_toInt
  have most := v.toInt_lt
  have back {x : Int} (low : -0x8000000000000000 ≤ x) (high : x < 0x8000000000000000) :
      Int64.ofInt x = v ↔ v.toInt = x := by
    constructor
    · intro same
      rw [← same, Int64.toInt_ofInt_of_le low high]
    · intro same
      rw [← same, Int64.ofInt_toInt]
  cases negative with
  | true =>
    simp only [signed, if_true]
    split
    · rw [Except.ok.injEq, back (by omega) (by omega)]
    · simp only [reduceCtorEq, false_iff]
      omega
  | false =>
    simp only [signed, Bool.false_eq_true, if_false]
    split
    · rw [Except.ok.injEq, back (by omega) (by omega)]
    · simp only [reduceCtorEq, false_iff]
      omega

/-- A first byte and the digits after it: the digits end the number if the byte says so. -/
theorem read_cons_eq_ok_iff {b : UInt8} {bytes rest : Bytes} {v : Int64} :
    read (b :: bytes) = .ok (v, rest) ↔ ∃ m, signed (decide (64 ≤ b.toNat % 128)) m = .ok v ∧
      (b.toNat < 128 ∧ m = b.toNat % 64 ∧ rest = bytes ∨
        128 ≤ b.toNat ∧ readDigits 64 (b.toNat % 64) bytes = .ok (m, rest)) := by
  have result (m : Nat) (left : Bytes) :
      (signed (decide (64 ≤ b.toNat % 128)) m).map (fun v => (v, left)) =
        Except.ok (ε := DecodeError) (v, rest) ↔
      signed (decide (64 ≤ b.toNat % 128)) m = .ok v ∧ left = rest := by
    cases signed (decide (64 ≤ b.toNat % 128)) m with
    | error cause => simp [Except.map]
    | ok w => simp [Except.map]
  by_cases last : b.toNat < 128
  · rw [read_last last, result]
    constructor
    · rintro ⟨value, rfl⟩
      exact ⟨_, value, .inl ⟨last, rfl, rfl⟩⟩
    · rintro ⟨m, value, ⟨-, rfl, rfl⟩ | ⟨more, -⟩⟩
      · exact ⟨value, rfl⟩
      · omega
  · rw [read_more (by omega)]
    cases digits : readDigits 64 (b.toNat % 64) bytes with
    | error cause => simp [Except.bind, last]
    | ok p =>
      obtain ⟨m, left⟩ := p
      rw [Except.bind, result]
      constructor
      · rintro ⟨value, rfl⟩
        exact ⟨m, value, .inr ⟨by omega, rfl⟩⟩
      · rintro ⟨m', value, ⟨short, -⟩ | ⟨-, same⟩⟩
        · omega
        · cases same
          exact ⟨value, rfl⟩

/-- **Reading accepts every form of a number and nothing else.** -/
theorem read_eq_ok_iff {bytes rest : Bytes} {v : Int64} :
    read bytes = .ok (v, rest) ↔ ∃ p, bytes = p ++ rest ∧ Spelling v p := by
  constructor
  · intro h
    cases bytes with
    | nil => cases h
    | cons b bytes =>
      obtain ⟨m, value, ⟨last, rfl, rfl⟩ | ⟨more, read⟩⟩ := read_cons_eq_ok_iff.1 h
      · exact ⟨[b], rfl, by simp, last, signed_eq_ok_iff.1 value⟩
      · obtain ⟨p, rfl, ends, short, rfl⟩ := readDigits_eq_ok (k := 0) read
        rw [place, Nat.mul_comm] at value
        refine ⟨b :: p, rfl, ?_, ends_cons.2 (.inr ⟨more, ends⟩), signed_eq_ok_iff.1 value⟩
        simp only [List.length_cons]
        omega
  · rintro ⟨p, rfl, short, ends, value⟩
    cases p with
    | nil => cases ends
    | cons b p =>
      refine read_cons_eq_ok_iff.2 ⟨magnitude (b :: p), signed_eq_ok_iff.2 value, ?_⟩
      rcases ends_cons.1 ends with ⟨last, rfl⟩ | ⟨more, ends⟩
      · exact .inl ⟨last, by simp [magnitude, digits], rfl⟩
      · have least := v.le_toInt
        have most := v.toInt_lt
        have size : UInt64.size = 18446744073709551616 := rfl
        have fits : digits p * place 0 < UInt64.size := by
          rw [place, size]
          rw [magnitude] at value
          split at value <;> omega
        refine .inr ⟨more, ?_⟩
        rw [magnitude, Nat.mul_comm 64]
        exact readDigits_append rest (k := 0) ends (by simp at short; omega) fits

end Lobby.Varint
