import Lobby.Proofs.Record.Reader

/-!
# Loops of readers without their bounds

The loops of the readers collect what they have read in reverse, and those over a group and over
content also carry a bound on the number of their turns.  Neither matters: a record takes at least
four bytes, so the bound is never reached, and each loop unrolls by one turn into itself.  The
equations here are all that later proofs need of the loops, and they say that the loops end.
-/

namespace Lobby.Reader

variable {α β : Type}

/-- What was read in two steps was read in each of them. -/
theorem of_bind {read : Reader α} {next : α → Reader β} {bytes rest : Bytes} {b : β}
    (h : (read >>= next) bytes = .ok (b, rest)) :
    ∃ a middle, read bytes = .ok (a, middle) ∧ next a middle = .ok (b, rest) := by
  rw [bind_apply] at h
  cases first : read bytes with
  | error cause =>
    rw [first] at h
    cases h
  | ok p =>
    rw [first] at h
    exact ⟨p.1, p.2, rfl, h⟩

/-! ### Repetition -/

theorem times_go_eq_map (read : Reader α) (n : Nat) : ∀ (done : List α) (bytes : Bytes),
    times.go read n done bytes =
      (times read n bytes).map fun p => (done.reverse ++ p.1, p.2) := by
  induction n with
  | zero =>
    intro done bytes
    simp [times, times.go, Except.map]
  | succ n ih =>
    intro done bytes
    simp only [times, times.go]
    cases read bytes with
    | error cause => rfl
    | ok p =>
      obtain ⟨a, rest⟩ := p
      simp only [ih (a :: done), ih [a]]
      cases times read n rest with
      | error cause => rfl
      | ok q => simp [Except.map]

theorem times_succ (read : Reader α) (n : Nat) :
    times read (n + 1) = do
      let a ← read
      let as ← times read n
      return a :: as := by
  funext bytes
  rw [times, times.go, bind_apply]
  cases read bytes with
  | error cause => rfl
  | ok p =>
    obtain ⟨a, rest⟩ := p
    dsimp only [Except.bind]
    rw [times_go_eq_map read n [a], bind_apply]
    cases times read n rest with
    | error cause => rfl
    | ok q => rfl

theorem length_of_times {read : Reader α} {n : Nat} :
    ∀ {bytes as rest}, times read n bytes = .ok (as, rest) → as.length = n := by
  induction n with
  | zero =>
    intro bytes as rest h
    cases h
    rfl
  | succ n ih =>
    intro bytes as rest h
    rw [times_succ] at h
    obtain ⟨a, middle, -, others⟩ := of_bind h
    obtain ⟨as, last, others, same⟩ := of_bind others
    cases same
    rw [List.length_cons, ih others]

/-! ### Groups -/

/-- Every record that `record` takes off the front leaves fewer bytes. -/
def Shortens (record : Reader Record) : Prop :=
  ∀ ⦃bytes r rest⦄, record bytes = .ok (r, rest) → rest.length < bytes.length

theorem shortens_record (n : Nat) : (record n).Shortens := by
  intro bytes r rest h
  have := length_of_record h
  omega

section Group

variable {record : Reader Record}

/-- By induction on the number of bytes: each turn leaves fewer. -/
theorem groupOver_go_eq_map (shorter : record.Shortens) (bytes : Bytes) :
    ∀ (turns : Bytes) (extended : Bool) (done : List Record), bytes.length ≤ turns.length →
      groupOver.go record turns extended done bytes =
        (groupOver record bytes).map fun p =>
          (.mk (extended || p.1.extended) (done.reverse ++ p.1.fields), p.2) := by
  induction bytes using (measure List.length).wf.induction with
  | h bytes ih =>
    intro turns extended done enough
    match bytes, turns with
    | [], [] | [], _ :: _ => rfl
    | _ :: _, [] => simp at enough
    | b :: bytes, _ :: turns =>
      simp only [List.length_cons, Nat.add_le_add_iff_right] at enough
      simp only [groupOver, groupOver.go]
      split
      · simp [Except.map, Group.extended, Group.fields]
      · split
        · have turn := ih bytes (Nat.lt_succ_self _)
          rw [turn turns true done enough, turn bytes true [] (Nat.le_refl _)]
          cases groupOver record bytes with
          | error cause => rfl
          | ok p => simp [Except.map, Group.extended, Group.fields]
        · cases first : record (b :: bytes) with
          | error cause => rfl
          | ok p =>
            obtain ⟨r, rest⟩ := p
            have less : rest.length ≤ bytes.length := Nat.lt_succ_iff.1 (shorter first)
            have turn := ih rest (shorter first)
            dsimp only
            rw [turn turns extended (r :: done) (Nat.le_trans less enough),
              turn bytes false [r] less]
            cases groupOver record rest with
            | error cause => rfl
            | ok p => simp [Except.map, Group.extended, Group.fields]

/-- A group ends at its closing byte, is extended by a mark, or goes on with a record. -/
theorem groupOver_cons (shorter : record.Shortens) (b : UInt8) (bytes : Bytes) :
    groupOver record (b :: bytes) =
      if b = groupEnd then .ok (.mk false [], bytes)
      else if b = groupMark then
        (groupOver record bytes).map fun p => (.mk true p.1.fields, p.2)
      else
        (record (b :: bytes)).bind fun first =>
          (groupOver record first.2).map fun p =>
            (.mk p.1.extended (first.1 :: p.1.fields), p.2) := by
  conv => lhs; rw [groupOver, groupOver.go]
  split
  · rfl
  · split
    · rw [groupOver_go_eq_map shorter bytes bytes true [] (Nat.le_refl _)]
      cases groupOver record bytes with
      | error cause => rfl
      | ok p => simp [Except.map]
    · cases first : record (b :: bytes) with
      | error cause => rfl
      | ok p =>
        obtain ⟨r, rest⟩ := p
        have less : rest.length ≤ bytes.length := Nat.lt_succ_iff.1 (shorter first)
        dsimp only [Except.bind]
        rw [groupOver_go_eq_map shorter rest bytes false [r] less]
        cases groupOver record rest with
        | error cause => rfl
        | ok p => simp [Except.map]

/-- What one turn of the loop over a group can do. -/
theorem of_groupOver_cons (shorter : record.Shortens) {b : UInt8} {bytes rest : Bytes} {g : Group}
    (h : groupOver record (b :: bytes) = .ok (g, rest)) :
    (g = .mk false [] ∧ rest = bytes) ∨
    (∃ g', groupOver record bytes = .ok (g', rest) ∧ g = .mk true g'.fields) ∨
    (∃ r middle g', record (b :: bytes) = .ok (r, middle) ∧
      groupOver record middle = .ok (g', rest) ∧ g = .mk g'.extended (r :: g'.fields)) := by
  rw [groupOver_cons shorter] at h
  split at h
  · cases h
    exact .inl ⟨rfl, rfl⟩
  · split at h
    · cases others : groupOver record bytes with
      | error cause =>
        rw [others] at h
        cases h
      | ok p =>
        rw [others] at h
        cases h
        exact .inr (.inl ⟨p.1, rfl, rfl⟩)
    · cases first : record (b :: bytes) with
      | error cause =>
        rw [first] at h
        cases h
      | ok p =>
        obtain ⟨r, middle⟩ := p
        rw [first] at h
        dsimp only [Except.bind] at h
        cases others : groupOver record middle with
        | error cause =>
          rw [others] at h
          cases h
        | ok p =>
          rw [others] at h
          cases h
          exact .inr (.inr ⟨r, middle, p.1, rfl, others, rfl⟩)

end Group

/-! ### Nested readers -/

/-- What reads a group inside a record with at most `n` levels of nesting. -/
def groupWithin : Nat → Reader Group
  | 0 => fail (.tooDeep maxDepth)
  | n + 1 => groupOver (record n)

/-- What reads the record of a union inside a record with at most `n` levels of nesting. -/
def recordWithin : Nat → Reader Record
  | 0 => fail (.tooDeep maxDepth)
  | n + 1 => record n

theorem record_eq (n : Nat) : record n = recordOver (groupWithin n) (recordWithin n) := by
  cases n <;> rfl

end Lobby.Reader

namespace Lobby

/-! ### Content -/

theorem decodeAll_go_eq_map (bytes : Bytes) :
    ∀ (turns : Bytes) (done : List Record), bytes.length ≤ turns.length →
      decodeAll.go turns done bytes = (decodeAll bytes).map (done.reverse ++ ·) := by
  induction bytes using (measure List.length).wf.induction with
  | h bytes ih =>
    intro turns done enough
    match bytes, turns with
    | [], [] | [], _ :: _ => simp [decodeAll, decodeAll.go, Except.map]
    | _ :: _, [] => simp at enough
    | b :: bytes, _ :: turns =>
      simp only [List.length_cons, Nat.add_le_add_iff_right] at enough
      simp only [decodeAll, decodeAll.go]
      cases first : readRecord (b :: bytes) with
      | error cause => rfl
      | ok p =>
        obtain ⟨r, rest⟩ := p
        have shorter := Reader.shortens_record maxDepth first
        have less : rest.length ≤ bytes.length := Nat.lt_succ_iff.1 shorter
        have turn := ih rest shorter
        dsimp only
        rw [turn turns (r :: done) (Nat.le_trans less enough), turn bytes [r] less]
        cases decodeAll rest with
        | error cause => rfl
        | ok rs => simp [Except.map]

@[simp] theorem decodeAll_nil : decodeAll [] = .ok [] := rfl

/-- Content is a record and the content after it. -/
theorem decodeAll_eq_bind {bytes : Bytes} (more : bytes ≠ []) :
    decodeAll bytes = (readRecord bytes).bind fun first =>
      (decodeAll first.2).map (first.1 :: ·) := by
  obtain ⟨b, bytes, rfl⟩ := List.exists_cons_of_ne_nil more
  conv => lhs; rw [decodeAll, decodeAll.go]
  cases first : readRecord (b :: bytes) with
  | error cause => rfl
  | ok p =>
    obtain ⟨r, rest⟩ := p
    have less : rest.length ≤ bytes.length :=
      Nat.lt_succ_iff.1 (Reader.shortens_record maxDepth first)
    exact decodeAll_go_eq_map rest bytes [r] less

/-- What one turn of the loop over content can do. -/
theorem of_decodeAll {bytes : Bytes} {rs : List Record} (h : decodeAll bytes = .ok rs)
    (more : bytes ≠ []) : ∃ r rest rs', readRecord bytes = .ok (r, rest) ∧
      decodeAll rest = .ok rs' ∧ rs = r :: rs' := by
  rw [decodeAll_eq_bind more] at h
  cases first : readRecord bytes with
  | error cause =>
    rw [first] at h
    cases h
  | ok p =>
    obtain ⟨r, rest⟩ := p
    rw [first] at h
    dsimp only [Except.bind] at h
    cases others : decodeAll rest with
    | error cause =>
      rw [others] at h
      cases h
    | ok rs' =>
      rw [others] at h
      cases h
      exact ⟨r, rest, rs', rfl, others, rfl⟩

end Lobby
