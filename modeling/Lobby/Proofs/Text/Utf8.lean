import Lobby.Bytes

/-!
# Texts in the order of their bytes

Texts are ordered by their characters, and so are the keys of a sorted map.  On the wire they are
bytes; UTF-8 is made so that the bytes are in the same order (`Bytes.ofString_lt`).
-/

namespace Lobby.Bytes

theorem ofString_eq_flatMap (s : String) :
    ofString s = s.toList.flatMap String.utf8EncodeChar := by
  conv => lhs; rw [ofString, ← s.ofList_toList, String.toUTF8_eq_toByteArray]
  rw [String.toByteArray_ofList, List.utf8Encode, List.data_toByteArray]

theorem ofNat_cons_lt {a b : Nat} {xs ys : Bytes} (bound : b < 256)
    (lt : a < b ∨ a = b ∧ xs < ys) : UInt8.ofNat a :: xs < UInt8.ofNat b :: ys := by
  rw [List.cons_lt_cons_iff]
  rcases lt with lt | ⟨rfl, lt⟩
  · refine .inl ?_
    rw [UInt8.lt_iff_toNat_lt, UInt8.toNat_ofNat', UInt8.toNat_ofNat']
    omega
  · exact .inr ⟨rfl, lt⟩

/-- The first byte of a longer encoding carries the highest digits. -/
theorem lead_lt {a b size mark : Nat} {xs ys : Bytes} (small : b < size) (room : size + mark ≤ 256)
    (lt : a < b ∨ a = b ∧ xs < ys) :
    UInt8.ofNat (a % size + mark) :: xs < UInt8.ofNat (b % size + mark) :: ys := by
  have digit : a % size = a := Nat.mod_eq_of_lt (by omega)
  rw [digit, Nat.mod_eq_of_lt small]
  refine ofNat_cons_lt (by omega) ?_
  rcases lt with lt | ⟨rfl, lt⟩
  · exact .inl (by omega)
  · exact .inr ⟨rfl, lt⟩

/-- Every other byte carries the lowest digits that are left. -/
theorem continuation_lt {a b : Nat} {xs ys : Bytes} (lt : a < b ∨ a = b ∧ xs < ys) :
    a / 64 < b / 64 ∨ a / 64 = b / 64 ∧
      UInt8.ofNat (a % 64 + 128) :: xs < UInt8.ofNat (b % 64 + 128) :: ys := by
  rcases lt with lt | ⟨rfl, lt⟩
  · by_cases high : a / 64 < b / 64
    · exact .inl high
    · exact .inr ⟨by omega, ofNat_cons_lt (by omega) (.inl (by omega))⟩
  · exact .inr ⟨rfl, ofNat_cons_lt (by omega) (.inr ⟨rfl, lt⟩)⟩

/-- Characters are in the order of their encodings, whatever follows. -/
theorem utf8EncodeChar_append_lt {c d : Char} (lt : c < d) (xs ys : Bytes) :
    String.utf8EncodeChar c ++ xs < String.utf8EncodeChar d ++ ys := by
  have lt : c.val.toNat < d.val.toNat := lt
  have bound : d.val.toNat < 0x110000 := by
    rcases d.valid with below | ⟨-, below⟩
    · exact Nat.lt_trans below (by decide)
    · exact below
  have square (n : Nat) : n / 4096 = n / 64 / 64 := by omega
  have cube (n : Nat) : n / 262144 = n / 64 / 64 / 64 := by omega
  unfold String.utf8EncodeChar
  generalize c.val.toNat = v at *
  generalize d.val.toNat = w at *
  simp only [square, cube]
  -- a longer encoding starts with a larger byte
  repeat' split
  all_goals try first | omega | exact ofNat_cons_lt (by omega) (.inl (by omega))
  -- encodings of one length are compared digit by digit
  · exact lead_lt (by omega) (by decide) (continuation_lt (.inl lt))
  · exact lead_lt (by omega) (by decide) (continuation_lt (continuation_lt (.inl lt)))
  · exact lead_lt (by omega) (by decide)
      (continuation_lt (continuation_lt (continuation_lt (.inl lt))))

theorem flatMap_utf8EncodeChar_lt {cs ds : List Char} (lt : cs < ds) :
    cs.flatMap String.utf8EncodeChar < ds.flatMap String.utf8EncodeChar := by
  induction cs generalizing ds with
  | nil =>
    cases ds with
    | nil => exact absurd lt (List.not_lt_nil [])
    | cons d ds =>
      rw [List.flatMap_cons, List.flatMap_nil]
      cases encoded : String.utf8EncodeChar d with
      | nil =>
        have size := String.length_utf8EncodeChar d
        rw [encoded] at size
        exact absurd d.utf8Size_pos (by rw [← size]; exact Nat.lt_irrefl 0)
      | cons b bs => exact List.nil_lt_cons b _
  | cons c cs ih =>
    cases ds with
    | nil => exact absurd lt (List.not_lt_nil _)
    | cons d ds =>
      rw [List.flatMap_cons, List.flatMap_cons]
      rcases List.cons_lt_cons_iff.1 lt with first | ⟨rfl, rest⟩
      · exact utf8EncodeChar_append_lt first _ _
      · exact List.append_left_lt (ih rest)

/-- **The bytes of texts are in the order of the texts.** -/
theorem ofString_lt {s t : String} (lt : s < t) : ofString s < ofString t := by
  rw [ofString_eq_flatMap, ofString_eq_flatMap]
  exact flatMap_utf8EncodeChar_lt (String.lt_iff.1 lt)

end Lobby.Bytes
