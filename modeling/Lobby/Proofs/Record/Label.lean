import Lobby.Record.Writer

/-!
# Labels and their tags

Labels and tags of three bytes correspond to each other.  A tag may open a field of a group if its
first byte is neither the end nor the mark of the group, as it is for every label with a name.
-/

namespace Lobby.Label

theorem packed_lt (l : Label) : l.packed < 0x1000000 := by
  have h1 := l.first.isLt
  have h2 := l.second.isLt
  have h3 := l.third.isLt
  have h4 := l.fourth.isLt
  simp only [packed]
  omega

theorem ofPacked_packed (l : Label) : ofPacked l.packed = l := by
  obtain ⟨s1, s2, s3, s4⟩ := l
  simp only [ofPacked, packed, Label.mk.injEq, Fin.ext_iff, Fin.val_ofNat]
  omega

/-- Every label is read back from its tag. -/
@[simp] theorem ofTag_tag (l : Label) : ofTag l.tag.1 l.tag.2.1 l.tag.2.2 = l := by
  have bound := l.packed_lt
  have sum : (UInt8.ofNat (l.packed / 0x10000)).toNat * 0x10000 +
      (UInt8.ofNat (l.packed / 0x100)).toNat * 0x100 + (UInt8.ofNat l.packed).toNat = l.packed := by
    simp only [UInt8.toNat_ofNat']
    omega
  rw [ofTag, tag, sum, ofPacked_packed]

/-- Every tag is written back from its label. -/
@[simp] theorem tag_ofTag (a b c : UInt8) : (ofTag a b c).tag = (a, b, c) := by
  have ha := a.toNat_lt
  have hb := b.toNat_lt
  have hc := c.toNat_lt
  have digits : (ofTag a b c).packed = a.toNat * 0x10000 + b.toNat * 0x100 + c.toNat := by
    simp only [ofTag, ofPacked, packed, Fin.val_ofNat]
    omega
  rw [tag, digits]
  simp only [Prod.mk.injEq, ← UInt8.toNat_inj, UInt8.toNat_ofNat']
  omega

/-- Can the tag of a label open a field of a group, where it must not look like the end or the mark
of the group? -/
def OpensField (l : Label) : Prop := l.tag.1 ≠ groupEnd ∧ l.tag.1 ≠ groupMark

theorem isNameChar_iff {c : Char} :
    isNameChar c ↔ 'A' ≤ c ∧ c ≤ 'Z' ∨ '0' ≤ c ∧ c ≤ '9' := by
  have upper : c.isUpper ↔ 'A' ≤ c ∧ c ≤ 'Z' := decide_eq_true_iff
  have digit : c.isDigit ↔ '0' ≤ c ∧ c ≤ '9' :=
    Bool.and_eq_true_iff.trans (and_congr decide_eq_true_iff decide_eq_true_iff)
  rw [isNameChar, Bool.or_eq_true, upper, digit]

/-- Capital letters and digits are among the characters of labels, and are no blanks. -/
theorem toNat_of_isNameChar {c : Char} (h : isNameChar c) : 48 ≤ c.toNat ∧ c.toNat ≤ 90 := by
  have apart {a b : Char} (le : a ≤ b) : a.toNat ≤ b.toNat := le
  rcases isNameChar_iff.1 h with ⟨low, high⟩ | ⟨low, high⟩
  · exact ⟨Nat.le_trans (by decide) (apart low), apart high⟩
  · exact ⟨apart low, Nat.le_trans (apart high) (by decide)⟩

theorem symbol_ge_of_isNameChar {c : Char} (h : isNameChar c) : 16 ≤ (symbol c).val := by
  have range := toNat_of_isNameChar h
  simp only [symbol, Fin.val_ofNat]
  omega

theorem opensField_of_first {l : Label} (h : 16 ≤ l.first.val) : l.OpensField := by
  have high : 0x400000 ≤ l.packed := by
    simp only [packed]
    omega
  have bound := l.packed_lt
  constructor
  all_goals
    intro same
    have value := congrArg UInt8.toNat same
    simp only [tag, groupEnd, groupMark, UInt8.toNat_ofNat', UInt8.toNat_ofNat] at value
    omega

/-- **No label that a program names collides with the bytes around the fields of a group.** -/
theorem opensField_of_parse {name : String} {l : Label} (h : parse? name = some l) :
    l.OpensField := by
  unfold parse? at h
  split at h
  · next named =>
    obtain ⟨long, _, chars⟩ := named
    cases cs : name.toList with
    | nil =>
      have : name = "" := by simpa using cs
      subst this
      exact absurd long (by decide)
    | cons c rest =>
      rw [cs] at h chars
      obtain rfl := Option.some.inj h
      exact opensField_of_first (symbol_ge_of_isNameChar (List.all_eq_true.1 chars c (by simp)))
  · cases h

theorem parse_of_check {name : String} {l : Label} (h : check name = .ok l) :
    parse? name = some l := by
  unfold check at h
  split at h
  · cases h
  · next sized =>
    split at h
    · next chars =>
      obtain rfl := Except.ok.inj h
      rw [parse?, if_pos ⟨by omega, by omega, chars⟩]
    · cases h

end Lobby.Label
