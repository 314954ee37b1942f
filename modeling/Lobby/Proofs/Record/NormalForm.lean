import Lobby.Proofs.Record.RoundTrip

/-!
# Writing as a normal form

The reader takes some forms that the writer never produces: labels outside the names of programs,
long varints and a negative zero, empty texts without a closing byte, any closing byte, and marks of
an extended group anywhere in it.  Each of them is a value that the writer can express, because what
is read is sound (`Reader.yields_record`).  So writing what was read and reading it again changes
nothing.
-/

namespace Lobby

/-- The bytes that the writer gives for what the reader makes of some bytes. -/
def recode (bytes : Bytes) : Except DecodeError Bytes := (decodeAll bytes).map encodeAll

theorem decodeAll_go_sound (turns : Bytes) : ∀ {done : List Record} {bytes rs},
    decodeAll.go turns done bytes = .ok rs →
      ∃ new, rs = done.reverse ++ new ∧ ∀ r ∈ new, r.Sound ∧ r.depth ≤ maxDepth := by
  induction turns with
  | nil =>
    intro done bytes rs h
    cases bytes with
    | nil =>
      cases h
      exact ⟨[], by simp⟩
    | cons b bytes => cases h
  | cons turn turns ih =>
    intro done bytes rs h
    cases bytes with
    | nil =>
      cases h
      exact ⟨[], by simp⟩
    | cons b bytes =>
      rw [decodeAll.go] at h
      split at h
      · cases h
      · next r rest first =>
        obtain ⟨new, rfl, hnew⟩ := ih h
        refine ⟨r :: new, by simp, ?_⟩
        intro x hx
        rcases List.mem_cons.1 hx with rfl | hx
        · exact (Reader.yields_record maxDepth first).2
        · exact hnew x hx

/-- Whatever content is read from, its records are sound and not too deep. -/
theorem sound_of_decodeAll {bytes : Bytes} {rs : List Record} (h : decodeAll bytes = .ok rs) :
    (∀ r ∈ rs, r.Sound) ∧ Record.depthAll rs ≤ maxDepth := by
  obtain ⟨new, rfl, hnew⟩ := decodeAll_go_sound bytes h
  exact ⟨fun r hr => (hnew r hr).1, Record.depthAll_le_iff.2 fun r hr => (hnew r hr).2⟩

/-- **Writing is a normal form of everything that can be read.** -/
theorem recode_recode {bytes : Bytes} {rs : List Record} (h : decodeAll bytes = .ok rs) :
    decodeAll (encodeAll rs) = .ok rs ∧ recode bytes = .ok (encodeAll rs) ∧
      recode (encodeAll rs) = .ok (encodeAll rs) := by
  obtain ⟨sound, shallow⟩ := sound_of_decodeAll h
  have back : decodeAll (encodeAll rs) = .ok rs := by
    rw [decodeAll_encodeAll_eq sound, if_pos shallow]
  refine ⟨back, ?_, ?_⟩
  · rw [recode, h]
    rfl
  · rw [recode, back]
    rfl

theorem recode_recode_loose :
    let bytes : Bytes :=
      [0, 0, 0, 0, 0x80, 0x00, 1, 2, 3, 1, 0x00, 1, 2, 3, 1, 0x02, 0x61, 0xff,
        1, 2, 3, 3, 0x02, 9, 9, 9, 0, 0x40, 0x02, 0x02, 0x00,
        1, 2, 3, 6, 0, 0, 2, 0, 10, 0x7f, 0xc0, 0, 1]
    let rs : List Record :=
      [.mk (.ofTag 0 0 0) (.varint 0), .mk (.ofTag 1 2 3) (.string ""),
        .mk (.ofTag 1 2 3) (.string "a"),
        .mk (.ofTag 1 2 3) (.group (.mk true [.mk (.ofTag 9 9 9) (.varint 0)])),
        .mk (.ofTag 1 2 3) (.union ⟨0, by decide⟩ (.mk (.ofTag 0 2 0) (.float 0x7fc00001)))]
    decodeAll bytes = .ok rs ∧ decodeAll (encodeAll rs) = .ok rs := by
  intro bytes rs
  have read : decodeAll bytes = .ok rs := by rfl
  exact ⟨read, (recode_recode read).1⟩

end Lobby
