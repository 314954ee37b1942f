import Lobby.Proofs.Packet.Stream

/-!
# Frames cut off a stream

A frame that is decoded is cut off the front of its buffer.  It is as long as its packet says, but
for one that carries a high half for a length of sixteen bits: the packet does not tell that it was
there, so such a frame is two bytes longer (`Frame.exists_cut_of_decode`).

A series of frames is taken off a stream one after another (`Stream.Takes`), and `Stream.drain` does
so (`Stream.exists_takes_drain`).
-/

namespace Lobby

/-- A frame that has been cut off a stream, and its packet. -/
structure Cut where
  frame : Bytes
  packet : Packet

/-- The bytes of a frame that the size of its packet leaves out: a high half of the length where a
length of sixteen bits needs none. -/
def Cut.surplus (c : Cut) : Nat :=
  if c.frame.getD 9 0 &&& extendedFlag ≠ 0 ∧ c.packet.contents.length ≤ 0xffff then 2 else 0

namespace Frame

variable {limit length : Nat} {header : Header} {buffer rest left : Bytes} {p : Packet}

theorem contents_of_body (h : decode.body limit header length rest = .ok (some (p, left))) :
    ∃ contents, rest = contents ++ left ∧ contents.length = length ∧
      p = .received header contents := by
  rw [decode.body] at h
  split at h
  · cases h
  · dsimp only at h
    split at h
    · cases h
    · next whole =>
      cases h
      refine ⟨rest.take length, (List.take_append_drop length rest).symm, ?_, rfl⟩
      rw [List.length_take] at whole ⊢
      omega

theorem frameSize_received (header : Header) (contents : Bytes) :
    (Packet.received header contents).frameSize =
      if 0xffff < contents.length then 14 + contents.length else 12 + contents.length :=
  rfl

/-- **A decoded frame is cut off, and is as long as its packet says but for the surplus.** -/
theorem exists_cut_of_decode (h : decode limit buffer = .ok (some (p, rest))) :
    ∃ frame, buffer = frame ++ rest ∧ frame.length = p.frameSize + (Cut.mk frame p).surplus := by
  rw [decode.eq_def] at h
  split at h
  · next l1 l0 p1 p0 c1 c0 e1 e0 kind flags i1 i0 tail =>
    have low := Bytes.toNat16_lt l1 l0
    dsimp only at h
    split at h
    · next plain =>
      obtain ⟨contents, rfl, size, rfl⟩ := contents_of_body h
      refine ⟨[l1, l0, p1, p0, c1, c0, e1, e0, kind, flags, i1, i0] ++ contents, rfl, ?_⟩
      rw [frameSize_received, if_neg (by omega), Cut.surplus, if_neg fun long => long.1 plain]
      show contents.length + 12 = 12 + contents.length
      omega
    · next long =>
      split at h
      · next h1 h0 tail =>
        obtain ⟨contents, rfl, size, rfl⟩ := contents_of_body h
        refine ⟨[l1, l0, p1, p0, c1, c0, e1, e0, kind, flags, i1, i0, h1, h0] ++ contents, rfl, ?_⟩
        rw [frameSize_received, Cut.surplus]
        by_cases large : 0xffff < contents.length
        · rw [if_pos large, if_neg fun needless => Nat.not_le.2 large needless.2]
          show contents.length + 14 = 14 + contents.length
          omega
        · rw [if_neg large, if_pos ⟨long, Nat.le_of_not_lt large⟩]
          show contents.length + 14 = 12 + contents.length + 2
          omega
      · cases h
  · cases h

end Frame

namespace Stream

open Lobby.Frame

variable {limit : Nat} {buffer middle rest : Bytes} {cuts more : List Cut}

/-- Frames are taken off a buffer one after another, and leave the rest of it. -/
inductive Takes (limit : Nat) : Bytes → List Cut → Bytes → Prop
  | none (buffer : Bytes) : Takes limit buffer [] buffer
  | next {frame buffer rest : Bytes} {p : Packet} {cuts : List Cut}
      (first : decode limit (frame ++ buffer) = .ok (some (p, buffer)))
      (others : Takes limit buffer cuts rest) :
      Takes limit (frame ++ buffer) (⟨frame, p⟩ :: cuts) rest

namespace Takes

theorem trans (h : Takes limit buffer cuts middle) (h' : Takes limit middle more rest) :
    Takes limit buffer (cuts ++ more) rest := by
  induction h with
  | none _ => exact h'
  | next first _ ih => exact .next first (ih h')

/-- Frames are also taken off a longer buffer. -/
theorem append (h : Takes limit buffer cuts rest) (bytes : Bytes) :
    Takes limit (buffer ++ bytes) cuts (rest ++ bytes) := by
  induction h with
  | none _ => exact .none _
  | next first _ ih =>
    have longer := decode_append first bytes
    rw [List.append_assoc] at longer ⊢
    exact .next longer ih

/-- The first of some frames leave the others. -/
theorem split (h : Takes limit buffer (cuts ++ more) rest) :
    ∃ middle, Takes limit buffer cuts middle ∧ Takes limit middle more rest := by
  induction cuts generalizing buffer with
  | nil => exact ⟨buffer, .none buffer, h⟩
  | cons c cuts ih =>
    cases h with
    | next first others =>
      obtain ⟨middle, front, back⟩ := ih others
      exact ⟨middle, .next first front, back⟩

theorem eq_append (h : Takes limit buffer cuts rest) : buffer = cuts.flatMap (·.frame) ++ rest := by
  induction h with
  | none _ => rfl
  | next _ _ ih => rw [List.flatMap_cons, List.append_assoc, ← ih]

/-- Frames are as long as their packets say, but for the surplus. -/
theorem length_of_mem (h : Takes limit buffer cuts rest) :
    ∀ c ∈ cuts, c.frame.length = c.packet.frameSize + c.surplus := by
  induction h with
  | none _ => nofun
  | next first _ ih =>
    refine List.forall_mem_cons.2 ⟨?_, ih⟩
    obtain ⟨frame, split, length⟩ := exists_cut_of_decode first
    rwa [← List.append_cancel_right split] at length

end Takes

/-- What is drained of a buffer is taken off it. -/
theorem exists_takes_drain (limit : Nat) (buffer : Bytes) :
    ∃ cuts : List Cut, cuts.map (·.packet) = (drain limit buffer).packets ∧
      Takes limit buffer cuts (drain limit buffer).rest := by
  refine drain_induction (motive := fun buffer f => ∃ cuts : List Cut,
    cuts.map (·.packet) = f.packets ∧ Takes limit buffer cuts f.rest) ?_ ?_ ?_ buffer
  · exact fun buffer _ => ⟨[], rfl, .none buffer⟩
  · exact fun buffer e _ => ⟨[], rfl, .none buffer⟩
  · rintro buffer p rest step ⟨cuts, packets, others⟩
    obtain ⟨frame, rfl, -⟩ := exists_cut_of_decode step
    exact ⟨⟨frame, p⟩ :: cuts, congrArg (p :: ·) packets, .next step others⟩

end Stream

end Lobby
