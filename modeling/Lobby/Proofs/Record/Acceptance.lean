import Lobby.Proofs.Record.Grammar
import Lobby.Proofs.Record.Reader

/-!
# Readers and the grammar

`read.Accepts R` says that `read` takes exactly the bytes off the front that `R` allows for a value,
whatever follows them.  It is closed under sequencing and repetition, so each reader has one law.
A reader of nested values goes only so deep, and its law carries the depth.
-/

namespace Lobby.Reader

variable {α β : Type}

/-- `read` yields a value exactly for the bytes that `R` allows for it. -/
def Accepts (read : Reader α) (R : α → Bytes → Prop) : Prop :=
  ∀ ⦃bytes a rest⦄, read bytes = .ok (a, rest) ↔ ∃ p, bytes = p ++ rest ∧ R a p

namespace Accepts

variable {R R' : α → Bytes → Prop}

theorem congr {read : Reader α} (h : read.Accepts R) (same : ∀ a p, R a p ↔ R' a p) :
    read.Accepts R' := by
  intro bytes a rest
  rw [h]
  simp only [same]

theorem pure (a : α) : Accepts (pure a) fun b p => b = a ∧ p = [] := by
  intro bytes b rest
  constructor
  · intro result
    cases result
    exact ⟨[], rfl, rfl, rfl⟩
  · rintro ⟨p, rfl, rfl, rfl⟩
    rfl

theorem fail (cause : DecodeError) : Accepts (fail cause) fun (_ : α) _ => False := by
  intro bytes a rest
  constructor
  · intro result
    cases result
  · rintro ⟨p, -, no⟩
    exact no.elim

/-- One reader after the other takes one spelling after the other. -/
theorem bind {read : Reader α} {next : α → Reader β} {S : α → β → Bytes → Prop}
    (h : read.Accepts R) (hn : ∀ a, (next a).Accepts (S a)) :
    Accepts (read >>= next) fun b p => ∃ a q r, p = q ++ r ∧ R a q ∧ S a b r := by
  intro bytes b rest
  rw [bind_apply]
  constructor
  · intro result
    cases first : read bytes with
    | error cause =>
      rw [first] at result
      cases result
    | ok taken =>
      obtain ⟨a, middle⟩ := taken
      rw [first] at result
      obtain ⟨q, rfl, ha⟩ := h.1 first
      obtain ⟨r, rfl, hb⟩ := (hn a).1 result
      exact ⟨q ++ r, (List.append_assoc ..).symm, a, q, r, rfl, ha, hb⟩
  · rintro ⟨p, rfl, a, q, r, rfl, ha, hb⟩
    rw [h.2 ⟨q, List.append_assoc .., ha⟩]
    exact (hn a).2 ⟨r, rfl, hb⟩

/-- What is made of a value is spelled as the value. -/
theorem map {read : Reader α} (h : read.Accepts R) (f : α → β) :
    Accepts (read >>= fun a => Pure.pure (f a)) fun b p => ∃ a, b = f a ∧ R a p := by
  refine (h.bind fun a => .pure (f a)).congr fun b p => ?_
  constructor
  · rintro ⟨a, q, r, rfl, ha, rfl, rfl⟩
    exact ⟨a, rfl, by rwa [List.append_nil]⟩
  · rintro ⟨a, rfl, ha⟩
    exact ⟨a, p, [], (List.append_nil p).symm, ha, rfl, rfl⟩

/-- Bytes that are read as two values of one rule are read alike. -/
theorem unique {read : Reader α} (h : read.Accepts R) {a b : α} {p q rest rest' : Bytes}
    (ha : R a p) (hb : R b q) (same : p ++ rest = q ++ rest') : a = b ∧ p = q ∧ rest = rest' := by
  have first : read (p ++ rest) = .ok (a, rest) := h.2 ⟨p, rfl, ha⟩
  have second : read (p ++ rest) = .ok (b, rest') := h.2 ⟨q, same, hb⟩
  obtain ⟨rfl, rfl⟩ := Prod.mk.inj (Except.ok.inj (first.symm.trans second))
  exact ⟨rfl, List.append_cancel_right same, rfl⟩

end Accepts

/-! ### Scalars -/

theorem accepts_byte : byte.Accepts fun b p => p = [b] := by
  intro bytes b rest
  cases bytes with
  | nil => simp [byte]
  | cons c bytes =>
    simp only [byte, Except.ok.injEq, Prod.mk.injEq, exists_eq_right, List.singleton_append,
      List.cons.injEq]

theorem accepts_take (n : Nat) : (take n).Accepts fun bytes p => p = bytes ∧ bytes.length = n := by
  intro bytes front rest
  constructor
  · intro result
    simp only [take] at result
    split at result
    · cases result
    · next long =>
      cases result
      refine ⟨_, (List.take_append_drop n bytes).symm, rfl, ?_⟩
      have := List.length_take_le n bytes
      omega
  · rintro ⟨p, rfl, rfl, rfl⟩
    simp [take]

theorem accepts_varint : varint.Accepts Varint.Spelling := fun _ _ _ => Varint.read_eq_ok_iff

theorem accepts_length : length.Accepts Length.Spelling := by
  have next (v : Int64) : Accepts
      (if v.toInt < 0 then fail (.invalidLength v) else pure v.toInt.toNat)
      fun n p => v.toInt = n ∧ p = [] := by
    by_cases negative : v.toInt < 0
    · rw [if_pos negative]
      refine (Accepts.fail _).congr fun n p => ?_
      constructor
      · exact False.elim
      · rintro ⟨value, -⟩
        omega
    · rw [if_neg negative]
      refine (Accepts.pure _).congr fun n p => ?_
      constructor
      · rintro ⟨rfl, rfl⟩
        exact ⟨by omega, rfl⟩
      · rintro ⟨value, rfl⟩
        exact ⟨by omega, rfl⟩
  refine (accepts_varint.bind next).congr fun n p => ?_
  constructor
  · rintro ⟨v, q, r, rfl, number, value, rfl⟩
    exact ⟨v, value, by rwa [List.append_nil]⟩
  · rintro ⟨v, value, number⟩
    exact ⟨v, p, [], (List.append_nil p).symm, number, value, rfl⟩

/-- The bytes of a text before its last byte. -/
theorem toString?_dropLast_iff {bytes : Bytes} {s : String} {n : Nat}
    (count : bytes.length = n + 1) : Bytes.toString? bytes.dropLast = some s ↔
      ∃ close, bytes = Bytes.ofString s ++ [close] := by
  constructor
  · intro text
    have nonempty : bytes ≠ [] := List.ne_nil_of_length_eq_add_one count
    rw [← Bytes.eq_ofString_of_toString? text]
    exact ⟨_, (List.dropLast_concat_getLast nonempty).symm⟩
  · rintro ⟨close, rfl⟩
    rw [List.dropLast_concat, Bytes.toString?_ofString]

theorem accepts_string : string.Accepts Text.Spelling := by
  have framed (n : Nat) (s : String) (p : Bytes) :
      (∃ bytes q r, p = q ++ r ∧ (q = bytes ∧ bytes.length = n + 1) ∧
        Bytes.toString? bytes.dropLast = some s ∧ r = []) ↔
        p.length = n + 1 ∧ ∃ close, p = Bytes.ofString s ++ [close] := by
    constructor
    · rintro ⟨bytes, q, r, rfl, ⟨rfl, count⟩, text, rfl⟩
      rw [List.append_nil]
      exact ⟨count, (toString?_dropLast_iff count).1 text⟩
    · rintro ⟨count, closed⟩
      have text := (toString?_dropLast_iff count).2 closed
      exact ⟨p, p, [], (List.append_nil p).symm, ⟨rfl, count⟩, text, rfl⟩
  refine (accepts_length.bind (?next : ∀ n, Accepts _ fun s p => n = 0 ∧ s = "" ∧ p = [] ∨
    n = p.length ∧ ∃ close, p = Bytes.ofString s ++ [close])).congr fun s p => ?_
  case next =>
    intro n
    cases n with
    | zero =>
      refine (Accepts.pure "").congr fun s p => ?_
      constructor
      · rintro ⟨rfl, rfl⟩
        exact .inl ⟨rfl, rfl, rfl⟩
      · rintro (⟨-, rfl, rfl⟩ | ⟨count, close, rfl⟩)
        · exact ⟨rfl, rfl⟩
        · simp at count
    | succ n =>
      refine ((accepts_take (n + 1)).bind (?text : ∀ bytes, Accepts _ fun s p =>
        Bytes.toString? bytes.dropLast = some s ∧ p = [])).congr fun s p => ?_
      case text =>
        intro bytes
        cases Bytes.toString? bytes.dropLast with
        | none => exact (Accepts.fail _).congr fun s p => by simp
        | some s => exact (Accepts.pure s).congr fun s' p => by simp [eq_comm]
      refine (framed n s p).trans ?_
      constructor
      · rintro ⟨count, closed⟩
        exact .inr ⟨count.symm, closed⟩
      · rintro (⟨zero, -⟩ | ⟨count, closed⟩)
        · cases zero
        · exact ⟨count.symm, closed⟩
  constructor
  · rintro ⟨n, q, r, rfl, length, ⟨rfl, rfl, rfl⟩ | ⟨rfl, close, rfl⟩⟩
    · rw [List.append_nil]
      exact .empty length
    · exact .closed (by simpa using length) close
  · rintro (length | ⟨length, close⟩)
    · exact ⟨0, p, [], (List.append_nil p).symm, length, .inl ⟨rfl, rfl, rfl⟩⟩
    · exact ⟨_, _, _, rfl, length, .inr ⟨by simp, close, rfl⟩⟩

theorem accepts_blob : blob.Accepts fun bytes p =>
    ∃ q, p = q ++ bytes ∧ Length.Spelling bytes.length q := by
  refine (accepts_length.bind accepts_take).congr fun bytes p => ?_
  constructor
  · rintro ⟨n, q, r, rfl, length, rfl, rfl⟩
    exact ⟨q, rfl, length⟩
  · rintro ⟨q, rfl, length⟩
    exact ⟨_, q, bytes, rfl, length, rfl, rfl⟩

theorem accepts_triple : triple.Accepts Triple.Spelling := by
  refine (accepts_varint.bind fun a => accepts_varint.bind fun b =>
    accepts_varint.map fun c => (a, b, c)).congr fun t p => ?_
  constructor
  · rintro ⟨a, p, s, rfl, first, b, q, r, rfl, second, c, rfl, third⟩
    exact .mk first second third
  · rintro ⟨first, second, third⟩
    exact ⟨_, _, _, rfl, first, _, _, _, rfl, second, _, rfl, third⟩

theorem accepts_float : float.Accepts Bits.Spelling := by
  intro bytes bits rest
  constructor
  · intro result
    match bytes with
    | a :: b :: c :: d :: bytes =>
      cases result
      exact ⟨[a, b, c, d], rfl, .mk a b c d⟩
    | [] | [_] | [_, _] | [_, _, _] => cases result
  · rintro ⟨p, rfl, ⟨a, b, c, d⟩⟩
    rfl

/-! ### Sequences -/

theorem times_go_eq_ok_iff {read : Reader α} {R : α → Bytes → Prop} (h : read.Accepts R) (n : Nat) :
    ∀ {done : List α} {bytes xs rest}, times.go read n done bytes = .ok (xs, rest) ↔
      ∃ new p, xs = done.reverse ++ new ∧ bytes = p ++ rest ∧ new.length = n ∧ Chain R new p := by
  induction n with
  | zero =>
    intro done bytes xs rest
    constructor
    · intro result
      cases result
      exact ⟨[], [], by simp, rfl, rfl, .nil⟩
    · rintro ⟨new, p, rfl, rfl, count, chain⟩
      cases chain with
      | nil => simp [times.go]
      | cons first rest => simp at count
  | succ n ih =>
    intro done bytes xs rest
    rw [times.go]
    constructor
    · intro result
      split at result
      · cases result
      · next a middle first =>
        obtain ⟨q, rfl, ha⟩ := h.1 first
        obtain ⟨new, p, rfl, rfl, count, chain⟩ := ih.1 result
        exact ⟨a :: new, q ++ p, by simp, by simp, by simp [count], .cons ha chain⟩
    · rintro ⟨new, p, rfl, rfl, count, chain⟩
      cases chain with
      | nil => simp at count
      | @cons a as q r first others =>
        rw [h.2 ⟨q, List.append_assoc .., first⟩]
        exact ih.2 ⟨as, r, by simp, rfl, by simpa using count, others⟩

theorem accepts_times {read : Reader α} {R : α → Bytes → Prop} (h : read.Accepts R) (n : Nat) :
    (times read n).Accepts fun xs p => xs.length = n ∧ Chain R xs p := by
  intro bytes xs rest
  rw [times, times_go_eq_ok_iff h]
  constructor
  · rintro ⟨new, p, rfl, rfl, count, chain⟩
    exact ⟨p, rfl, count, chain⟩
  · rintro ⟨p, rfl, count, chain⟩
    exact ⟨xs, p, rfl, rfl, count, chain⟩

end Lobby.Reader
