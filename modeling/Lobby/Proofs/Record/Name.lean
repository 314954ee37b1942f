import Lobby.Proofs.Record.Label

/-!
# Names and tags in order

Labels, their padded texts and their tags are in the same order.  A label is named by one to four
capital letters and digits, whichever way the name is checked, and a label whose text is a name is
the label of that name: padding is all that a text leaves out.
-/

namespace Lobby.Label

/-! ### Symbols -/

theorem toNat_character (s : Fin 64) : (character s).toNat = s.val + 32 := by
  revert s
  decide

theorem symbol_character (s : Fin 64) : symbol (character s) = s := by
  revert s
  decide

/-- A symbol is six bits of its character, bit 6 and the low five. -/
theorem symbol_eq_bits (s : Fin 64) :
    s.val = ((character s).toNat &&& 0x40) >>> 1 ||| ((character s).toNat &&& 0x1f) := by
  revert s
  decide

theorem character_lt_iff {s t : Fin 64} : character s < character t ↔ s < t := by
  show (character s).val < (character t).val ↔ s.val < t.val
  have hs : (character s).val.toNat = s.val + 32 := toNat_character s
  have ht : (character t).val.toNat = t.val + 32 := toNat_character t
  rw [UInt32.lt_iff_toNat_lt, hs, ht]
  omega

theorem character_inj {s t : Fin 64} : character s = character t ↔ s = t := by
  constructor
  · intro same
    rw [← symbol_character s, same, symbol_character]
  · rintro rfl
    rfl

/-! ### Order -/

def tagBytes (l : Label) : Bytes := [l.tag.1, l.tag.2.1, l.tag.2.2]

theorem lt_iff_packed_lt {l m : Label} : l < m ↔ l.packed < m.packed := by
  obtain ⟨l1, l2, l3, l4⟩ := l
  obtain ⟨m1, m2, m3, m4⟩ := m
  show [l1, l2, l3, l4] < [m1, m2, m3, m4] ↔ _
  simp only [List.cons_lt_cons_iff, List.lt_irrefl, and_false, or_false, Fin.lt_def, Fin.ext_iff,
    packed]
  omega

theorem tagBytes_lt_iff {l m : Label} : l.tagBytes < m.tagBytes ↔ l.packed < m.packed := by
  have hl := l.packed_lt
  have hm := m.packed_lt
  simp only [tagBytes, tag, List.cons_lt_cons_iff, List.lt_irrefl, and_false, or_false,
    UInt8.lt_iff_toNat_lt, ← UInt8.toNat_inj, UInt8.toNat_ofNat']
  omega

theorem padded_lt_iff {l m : Label} : l.padded < m.padded ↔ l < m := by
  obtain ⟨l1, l2, l3, l4⟩ := l
  obtain ⟨m1, m2, m3, m4⟩ := m
  show _ ↔ [l1, l2, l3, l4] < [m1, m2, m3, m4]
  simp only [padded, symbols, List.map_cons, List.map_nil, List.cons_lt_cons_iff, List.lt_irrefl,
    and_false, or_false, character_lt_iff, character_inj]

/-! ### Texts -/

/-- The characters of a label, without the blanks at the end. -/
def trimmed (l : Label) : List Char := (l.padded.reverse.dropWhile (· = ' ')).reverse

@[simp] theorem toList_text (l : Label) : l.text.toList = l.trimmed := String.toList_ofList

/-- A label lacks nothing but blanks at its end. -/
theorem exists_padded_eq (l : Label) : ∃ k, l.padded = l.trimmed ++ List.replicate k ' ' := by
  have blanks : l.padded.reverse.takeWhile (· = ' ') =
      List.replicate (l.padded.reverse.takeWhile (· = ' ')).length ' ' :=
    List.eq_replicate_iff.2 ⟨rfl, fun c hc => by
      simpa using List.all_eq_true.1 List.all_takeWhile c hc⟩
  have split := List.takeWhile_append_dropWhile (p := (· = ' ')) (l := l.padded.reverse)
  refine ⟨(l.padded.reverse.takeWhile (· = ' ')).length, ?_⟩
  rw [trimmed, ← List.reverse_replicate, ← blanks, ← List.reverse_append, split,
    List.reverse_reverse]

theorem ofChars_append_blanks (cs : List Char) (k : Nat) :
    ofChars (cs ++ List.replicate k ' ') = ofChars cs := by
  have blank (i : Nat) : (cs ++ List.replicate k ' ').getD i ' ' = cs.getD i ' ' := by
    simp only [List.getD_eq_getElem?_getD, List.getElem?_append, List.getElem?_replicate]
    grind
  simp only [ofChars, blank]

/-- **The text of a label determines it.** -/
theorem ofChars_trimmed (l : Label) : ofChars l.trimmed = l := by
  obtain ⟨k, whole⟩ := l.exists_padded_eq
  rw [← ofChars_append_blanks l.trimmed k, ← whole]
  simp only [padded, symbols, ofChars, List.map_cons, List.map_nil, List.getD_cons_zero,
    List.getD_cons_succ, symbol_character]

/-! ### Names -/

/-- One to four capital letters and digits. -/
structure IsName (name : String) : Prop where
  length : 1 ≤ name.length ∧ name.length ≤ 4
  characters : ∀ c ∈ name.toList, 'A' ≤ c ∧ c ≤ 'Z' ∨ '0' ≤ c ∧ c ≤ '9'

theorem utf8ByteSize_of_named {cs : List Char} (named : ∀ c ∈ cs, isNameChar c) :
    (String.ofList cs).utf8ByteSize = cs.length := by
  induction cs with
  | nil => rfl
  | cons c cs ih =>
    have ascii := (toNat_of_isNameChar (named c List.mem_cons_self)).2
    have one : (String.ofList [c]).utf8ByteSize = 1 := by
      show (String.singleton c).utf8ByteSize = 1
      rw [String.utf8ByteSize_singleton, Char.utf8Size_eq_one_iff, UInt32.le_iff_toNat_le]
      exact Nat.le_trans ascii (by decide)
    rw [← List.singleton_append, String.ofList_append, String.utf8ByteSize_append, one,
      ih fun d hd => named d (List.mem_cons_of_mem c hd), List.length_append,
      List.length_singleton]

theorem isName_iff {name : String} :
    IsName name ↔
      1 ≤ name.utf8ByteSize ∧ name.utf8ByteSize ≤ 4 ∧ name.toList.all isNameChar := by
  have size (named : ∀ c ∈ name.toList, isNameChar c) : name.utf8ByteSize = name.length := by
    conv => lhs; rw [← name.ofList_toList]
    exact utf8ByteSize_of_named named
  constructor
  · rintro ⟨⟨long, short⟩, characters⟩
    have named : ∀ c ∈ name.toList, isNameChar c := fun c hc => isNameChar_iff.2 (characters c hc)
    rw [size named]
    exact ⟨long, short, List.all_eq_true.2 named⟩
  · rintro ⟨long, short, named⟩
    have named := List.all_eq_true.1 named
    rw [size named] at long short
    exact ⟨⟨long, short⟩, fun c hc => isNameChar_iff.1 (named c hc)⟩

theorem parse?_eq_some_iff {name : String} {l : Label} :
    parse? name = some l ↔ IsName name ∧ ofChars name.toList = l := by
  rw [parse?, isName_iff]
  split
  · next named => simp only [named, true_and, Option.some.injEq]
  · next unnamed => simp only [unnamed, false_and, reduceCtorEq]

/-- **Checking a name and parsing it are the same**, but for the fault. -/
theorem check_eq_ok_iff {name : String} {l : Label} :
    check name = .ok l ↔ parse? name = some l := by
  refine ⟨parse_of_check, fun h => ?_⟩
  obtain ⟨named, rfl⟩ := parse?_eq_some_iff.1 h
  obtain ⟨long, short, characters⟩ := isName_iff.1 named
  rw [check, if_neg (by omega), if_pos characters]

theorem padded_ofChars {cs : List Char} (short : cs.length ≤ 4) :
    (ofChars cs).padded =
      (cs ++ List.replicate (4 - cs.length) ' ').map fun c => character (symbol c) := by
  match cs, short with
  | [], _ | [_], _ | [_, _], _ | [_, _, _], _ | [_, _, _, _], _ => rfl

theorem character_symbol {c : Char} (low : 32 ≤ c.toNat) (high : c.toNat < 96) :
    character (symbol c) = c := by
  apply Char.toNat_inj.1
  rw [toNat_character, symbol, Fin.val_ofNat]
  omega

/-- Names are not changed by padding and trimming. -/
theorem trimmed_ofChars {cs : List Char} (short : cs.length ≤ 4)
    (named : ∀ c ∈ cs, isNameChar c) : (ofChars cs).trimmed = cs := by
  have same : (ofChars cs).padded = cs ++ List.replicate (4 - cs.length) ' ' := by
    rw [padded_ofChars short]
    conv => rhs; rw [← List.map_id (cs ++ _)]
    refine List.map_congr_left fun c hc => ?_
    rcases List.mem_append.1 hc with hc | hc
    · have range := toNat_of_isNameChar (named c hc)
      exact character_symbol (by omega) (by omega)
    · rw [List.eq_of_mem_replicate hc]
      rfl
  have blank (c : Char) (hc : c ∈ cs) : c ≠ ' ' := by
    rintro rfl
    exact absurd (named ' ' hc) (by decide)
  rw [trimmed, same, List.reverse_append, List.reverse_replicate,
    List.dropWhile_append_of_pos (by simp)]
  cases reversed : cs.reverse with
  | nil => simpa using reversed.symm
  | cons c rest =>
    have mem : c ∈ cs := List.mem_reverse.1 (reversed ▸ List.mem_cons_self)
    rw [List.dropWhile_cons_of_neg (by simpa using blank c mem), ← reversed, List.reverse_reverse]

theorem text_of_parse? {name : String} {l : Label} (h : parse? name = some l) : l.text = name := by
  obtain ⟨named, rfl⟩ := parse?_eq_some_iff.1 h
  apply String.toList_inj.1
  rw [toList_text]
  have short : name.toList.length ≤ 4 := by
    rw [String.length_toList]
    exact named.length.2
  exact trimmed_ofChars short fun c hc =>
    isNameChar_iff.2 (named.characters c hc)

/-- What the text of a label is parsed as is that label. -/
theorem eq_of_parse?_text {l m : Label} (h : parse? l.text = some m) : m = l := by
  obtain ⟨-, rfl⟩ := parse?_eq_some_iff.1 h
  rw [toList_text, ofChars_trimmed]

theorem length_text_le (l : Label) : l.text.length ≤ 4 := by
  obtain ⟨k, whole⟩ := l.exists_padded_eq
  have length : 4 = l.trimmed.length + k := by
    simpa [padded, symbols] using congrArg List.length whole
  rw [← String.length_toList, toList_text]
  omega

/-- **Labels, tags and names.**

* Labels and tags correspond to each other, and both are in the order of the padded texts.  Of each
  character of its padded text a label has six bits.
* A name is one to four capital letters and digits.  Names are what can be parsed and what passes
  the check, with the same label, whose text is the name.
* The text of a label is parsed as that label or not at all, and not at all exactly if it is empty
  or not all of its characters are capital letters and digits. -/
theorem tags_and_names :
    (∀ a b c : UInt8, (ofTag a b c).tag = (a, b, c)) ∧
    (∀ l : Label, ofTag l.tag.1 l.tag.2.1 l.tag.2.2 = l) ∧
    (∀ l m : Label, (l < m ↔ l.tagBytes < m.tagBytes) ∧ (l < m ↔ l.padded < m.padded)) ∧
    (∀ l : Label, l.symbols.map (·.val) =
      l.padded.map fun c => (c.toNat &&& 0x40) >>> 1 ||| (c.toNat &&& 0x1f)) ∧
    (∀ name : String,
      ((∃ l, parse? name = some l) ↔ IsName name) ∧
      ((∃ l, check name = .ok l) ↔ IsName name) ∧
      ∀ l, (check name = .ok l ↔ parse? name = some l) ∧ (parse? name = some l → l.text = name)) ∧
    ∀ l : Label, (parse? l.text = some l ∨ parse? l.text = none) ∧
      (parse? l.text = none ↔
        l.text = "" ∨ ∃ c ∈ l.text.toList, ¬('A' ≤ c ∧ c ≤ 'Z' ∨ '0' ≤ c ∧ c ≤ '9')) := by
  have named (name : String) : (∃ l, parse? name = some l) ↔ IsName name := by
    simp only [parse?_eq_some_iff, exists_and_left, exists_eq', and_true]
  refine ⟨tag_ofTag, ofTag_tag, fun l m => ⟨?_, padded_lt_iff.symm⟩, fun l => ?_,
    fun name => ⟨named name, ?_, fun l => ⟨check_eq_ok_iff, text_of_parse?⟩⟩, fun l => ⟨?_, ?_⟩⟩
  · rw [lt_iff_packed_lt, tagBytes_lt_iff]
  · rw [padded, List.map_map]
    exact List.map_congr_left fun s _ => symbol_eq_bits s
  · simp only [check_eq_ok_iff, named]
  · cases parsed : parse? l.text with
    | none => exact .inr rfl
    | some m => exact .inl (congrArg some (eq_of_parse?_text parsed))
  · rw [← Option.not_isSome_iff_eq_none, Option.isSome_iff_exists, named]
    constructor
    · intro unnamed
      by_cases empty : l.text = ""
      · exact .inl empty
      · have long : 1 ≤ l.text.length :=
          Nat.pos_of_ne_zero fun zero => empty (String.length_eq_zero_iff.1 zero)
        have other : ¬∀ c ∈ l.text.toList, 'A' ≤ c ∧ c ≤ 'Z' ∨ '0' ≤ c ∧ c ≤ '9' :=
          fun characters => unnamed ⟨⟨long, l.length_text_le⟩, characters⟩
        refine .inr ?_
        simpa only [Classical.not_forall, exists_prop] using other
    · rintro (empty | ⟨c, hc, other⟩) ⟨⟨long, -⟩, characters⟩
      · rw [empty] at long
        exact absurd long (by decide)
      · exact other (characters c hc)

end Lobby.Label
