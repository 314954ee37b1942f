import Lobby.Proofs.Packet.Stream

/-!
# Frames there and back

A packet is read back from its frame, whatever follows, if its kind is one that a frame can name.
Both sides refuse the same packets, those whose content is above the limit, for the same length; a
header cannot express more than 32 bits of length.

Frames that were not written here may carry the high half of the length where it is zero.  What is
read from such a frame is written in the shorter form and read back all the same.
-/

namespace Lobby

namespace Packet

/-- The content of a packet is within a limit, and a header can express its length. -/
def Fits (limit : Nat) (p : Packet) : Prop :=
  p.contents.length ≤ limit ∧ p.contents.length ≤ maxExpressible

instance (limit : Nat) (p : Packet) : Decidable (p.Fits limit) :=
  inferInstanceAs (Decidable (_ ∧ _))

def frame (p : Packet) : Bytes := Frame.headerBytes p.header p.contents.length ++ p.contents

/-- The packet as far as a frame tells. -/
def bare (p : Packet) : Packet := .received p.header p.contents

theorem length_frame (p : Packet) : p.frame.length = p.frameSize := by
  rw [frame, Frame.headerBytes, frameSize]
  by_cases extended : 0xffff < p.contents.length
  · simp only [extended, if_true, Bytes.ofNat16, List.length_append, List.length_cons,
      List.length_nil, extendedHeaderSize]
  · simp only [extended, if_false, Bytes.ofNat16, List.length_append, List.length_cons,
      List.length_nil, headerSize]

end Packet

namespace Frame

variable {limit length : Nat} {header : Header} {buffer rest out : Bytes} {p : Packet} {e : Error}

/-! ### Writing -/

theorem encode_of_fits (fits : p.Fits limit) (buffer : Bytes) :
    encode limit p buffer = .ok (buffer ++ p.frame) := by
  obtain ⟨small, expressible⟩ := fits
  exact if_neg (by omega)

theorem encode_of_not_fits (large : ¬p.Fits limit) (buffer : Bytes) :
    encode limit p buffer = .error (.oversized p.contents.length) := by
  rw [Packet.Fits] at large
  exact if_pos (by omega)

theorem encode_eq_error_iff :
    encode limit p buffer = .error e ↔ ¬p.Fits limit ∧ e = .oversized p.contents.length := by
  by_cases fits : p.Fits limit
  · simp [encode_of_fits fits, fits]
  · simp [encode_of_not_fits fits, fits, eq_comm]

theorem encode_eq_ok_iff :
    encode limit p buffer = .ok out ↔ p.Fits limit ∧ out = buffer ++ p.frame := by
  by_cases fits : p.Fits limit
  · simp [encode_of_fits fits, fits, eq_comm]
  · simp [encode_of_not_fits fits, fits]

def put (bytes : Bytes) : ExceptT Error (StateM Bytes) Unit := modify (· ++ bytes)

/-- Writes a frame into a buffer, field by field. -/
def write (limit : Nat) (p : Packet) : ExceptT Error (StateM Bytes) Unit := do
  let length := p.contents.length
  if limit < length ∨ maxExpressible < length then throw (.oversized length)
  let extended := 0xffff < length
  put (Bytes.ofNat16 length)
  put (Bytes.ofNat16 p.header.component.toNat)
  put (Bytes.ofNat16 p.header.command.toNat)
  put (Bytes.ofNat16 p.header.error.toNat)
  put [p.header.kind.code]
  put [if extended then extendedFlag else 0]
  put (Bytes.ofNat16 p.header.id.toNat)
  if extended then put (Bytes.ofNat16 (length / 0x10000))
  put p.contents

/-- **Nothing is written of a packet that is refused**, not even a part of its header. -/
theorem run_write (limit : Nat) (p : Packet) (buffer : Bytes) :
    (write limit p).run.run buffer =
      match encode limit p buffer with
      | .ok out => (.ok (), out)
      | .error e => (.error e, buffer) := by
  by_cases fits : p.Fits limit
  · rw [encode_of_fits fits]
    obtain ⟨small, expressible⟩ := fits
    rw [write, if_neg (by omega), Packet.frame, headerBytes]
    by_cases extended : 0xffff < p.contents.length
    · simp only [extended, if_true]
      show (Except.ok (), _) = (Except.ok (), _)
      simp
    · simp only [extended, if_false]
      show (Except.ok (), _) = (Except.ok (), _)
      simp
  · rw [encode_of_not_fits fits]
    rw [Packet.Fits] at fits
    rw [write, if_pos (by omega)]
    rfl

/-! ### Reading back -/

theorem ofNat_toNat16 (x : UInt16) :
    UInt16.ofNat (Bytes.toNat16 (UInt8.ofNat (x.toNat / 0x100)) (UInt8.ofNat x.toNat)) = x := by
  rw [Bytes.toNat16_ofNat, Nat.mod_eq_of_lt x.toNat_lt, UInt16.ofNat_toNat]

/-- A header is read back from its bytes, but for a kind that another one stands for. -/
theorem decode_headerBytes (limit : Nat) (header : Header) (expressible : length ≤ maxExpressible)
    (rest : Bytes) :
    decode limit (headerBytes header length ++ rest) =
      decode.body limit { header with kind := .ofCode header.kind.code } length rest := by
  have bound : maxExpressible = 0xffffffff := rfl
  rw [headerBytes]
  by_cases extended : 0xffff < length
  · have halves : Bytes.toNat16 (UInt8.ofNat (length / 0x10000 / 0x100))
        (UInt8.ofNat (length / 0x10000)) * 0x10000 +
          Bytes.toNat16 (UInt8.ofNat (length / 0x100)) (UInt8.ofNat length) = length := by
      rw [Bytes.toNat16_ofNat, Bytes.toNat16_ofNat]
      omega
    simp only [extended, if_true, Bytes.ofNat16, List.cons_append, List.nil_append, decode,
      ofNat_toNat16, halves]
    rfl
  · have low : Bytes.toNat16 (UInt8.ofNat (length / 0x100)) (UInt8.ofNat length) = length := by
      rw [Bytes.toNat16_ofNat]
      omega
    simp only [extended, if_false, Bytes.ofNat16, List.cons_append, List.nil_append, decode,
      ofNat_toNat16, low]
    rfl

theorem body_append_eq (limit : Nat) (header : Header) (contents rest : Bytes) :
    decode.body limit header contents.length (contents ++ rest) =
      if limit < contents.length then .error (.oversized contents.length)
      else .ok (some (.received header contents, rest)) := by
  simp [decode.body]

/-- What the decoder makes of a frame depends on the length of its content alone. -/
theorem decode_frame (limit : Nat) (expressible : p.contents.length ≤ maxExpressible)
    (rest : Bytes) :
    decode limit (p.frame ++ rest) =
      if limit < p.contents.length then .error (.oversized p.contents.length)
      else .ok (some
        (.received { p.header with kind := .ofCode p.header.kind.code } p.contents, rest)) := by
  rw [Packet.frame, List.append_assoc, decode_headerBytes limit p.header expressible,
    body_append_eq]

theorem decode_frame_of_fits (fits : p.Fits limit) (received : p.header.kind.Received)
    (rest : Bytes) : decode limit (p.frame ++ rest) = .ok (some (p.bare, rest)) := by
  obtain ⟨small, expressible⟩ := fits
  rw [decode_frame limit expressible, if_neg (by omega), received]
  rfl

/-- A packet comes out of a frame with a kind that a frame can name, as far as it was received, and
within the limit. -/
theorem fits_of_decode (h : decode limit buffer = .ok (some (p, rest))) :
    p.header.kind.Received ∧ p.bare = p ∧ p.Fits limit := by
  have body {header : Header} {length : Nat} {payload : Bytes} (kind : header.kind.Received)
      (expressible : length ≤ maxExpressible)
      (h : decode.body limit header length payload = .ok (some (p, rest))) :
      p.header.kind.Received ∧ p.bare = p ∧ p.Fits limit := by
    rw [decode.body] at h
    split at h
    · cases h
    · next small =>
      dsimp only at h
      split at h
      · cases h
      · cases h
        have short := List.length_take_le length payload
        exact ⟨kind, rfl, Nat.le_trans short (Nat.le_of_not_lt small),
          Nat.le_trans short expressible⟩
  have bound : maxExpressible = 0xffffffff := rfl
  rw [decode.eq_def] at h
  split at h
  · next l1 l0 p1 p0 c1 c0 e1 e0 kind flags i1 i0 tail =>
    have low := Bytes.toNat16_lt l1 l0
    dsimp only at h
    split at h
    · exact body (PacketKind.received_ofCode kind) (by omega) h
    · split at h
      · next h1 h0 tail =>
        have high := Bytes.toNat16_lt h1 h0
        exact body (PacketKind.received_ofCode kind) (by omega) h
      · cases h
  · cases h

/-! ### Several packets -/

/-- Writes the frames of several packets, up to the first that is refused. -/
def encodeAll (limit : Nat) (ps : List Packet) (buffer : Bytes) : Except Error Bytes :=
  ps.foldlM (fun buffer p => encode limit p buffer) buffer

theorem encodeAll_eq_ok_iff {ps : List Packet} :
    encodeAll limit ps buffer = .ok out ↔
      (∀ p ∈ ps, p.Fits limit) ∧ out = buffer ++ ps.flatMap Packet.frame := by
  rw [encodeAll]
  induction ps generalizing buffer with
  | nil => simp [pure, Except.pure, eq_comm]
  | cons p ps ih =>
    rw [List.foldlM_cons]
    by_cases fits : p.Fits limit
    · rw [encode_of_fits fits]
      show List.foldlM _ _ _ = _ ↔ _
      rw [ih]
      simp [fits]
    · rw [encode_of_not_fits fits]
      simp [fits, bind, Except.bind]

theorem drain_frames {ps : List Packet}
    (fits : ∀ p ∈ ps, p.Fits limit ∧ p.header.kind.Received) :
    Stream.drain limit (ps.flatMap Packet.frame) = ⟨ps.map Packet.bare, [], none⟩ := by
  induction ps with
  | nil => rfl
  | cons p ps ih =>
    obtain ⟨small, received⟩ := fits p List.mem_cons_self
    rw [List.flatMap_cons, Stream.drain_some (decode_frame_of_fits small received _),
      ih fun q hq => fits q (List.mem_cons_of_mem p hq)]
    rfl

/-- **Writing frames and reading them are inverse, and both enforce the limit.**

* A packet is refused for its length exactly if its content is above the limit or above what a
  header can express, and the buffer is left as it was.  Otherwise its frame stands behind what the
  buffer held.
* The frames of several packets are read back as those packets, up to the last byte.
* A frame that was written without a limit is refused by a reader just if its packet would have been
  refused by a writer.
* A packet that was read, whatever from, is within the limit and is read back from its own frame. -/
theorem encode_decode (limit : Nat) :
    (∀ (p : Packet) (buffer : Bytes),
      (∀ e, encode limit p buffer = .error e ↔
        (limit < p.contents.length ∨ UInt32.size - 1 < p.contents.length) ∧
          e = .oversized p.contents.length) ∧
      (∀ out, encode limit p buffer = .ok out →
        ∃ frame, out = buffer ++ frame ∧ frame.length = p.frameSize) ∧
      (write limit p).run.run buffer =
        match encode limit p buffer with
        | .ok out => (.ok (), out)
        | .error e => (.error e, buffer)) ∧
    (∀ (ps : List Packet) (buffer out : Bytes), (∀ p ∈ ps, p.header.kind.Received) →
      encodeAll limit ps buffer = .ok out →
        ∃ frames, out = buffer ++ frames ∧
          Stream.drain limit frames = ⟨ps.map Packet.bare, [], none⟩) ∧
    (∀ (p : Packet) (frame : Bytes), p.toBytes = .ok frame → ∀ rest buffer e,
      decode limit (frame ++ rest) = .error e ↔ encode limit p buffer = .error e) ∧
    ∀ (bytes rest : Bytes) (p : Packet), decode limit bytes = .ok (some (p, rest)) →
      p.header.kind.Received ∧ ∀ buffer, ∃ frame, encode limit p buffer = .ok (buffer ++ frame) ∧
        ∀ more, decode limit (frame ++ more) = .ok (some (p, more)) := by
  refine ⟨fun p buffer => ⟨fun e => ?_, fun out h => ?_, run_write limit p buffer⟩,
    fun ps buffer out received h => ?_, fun p frame h rest buffer e => ?_, fun bytes rest p h => ?_⟩
  · rw [encode_eq_error_iff, Packet.Fits, maxExpressible]
    refine and_congr_left fun _ => ?_
    omega
  · obtain ⟨-, rfl⟩ := encode_eq_ok_iff.1 h
    exact ⟨p.frame, rfl, p.length_frame⟩
  · obtain ⟨fits, rfl⟩ := encodeAll_eq_ok_iff.1 h
    exact ⟨_, rfl, drain_frames fun p hp => ⟨fits p hp, received p hp⟩⟩
  · obtain ⟨⟨-, expressible⟩, rfl⟩ := encode_eq_ok_iff.1 h
    rw [List.nil_append, decode_frame limit expressible, encode_eq_error_iff, Packet.Fits]
    split
    · next large => simp [Nat.not_le.2 large, eq_comm]
    · next small => simp [Nat.le_of_not_lt small, expressible]
  · obtain ⟨received, same, fits⟩ := fits_of_decode h
    refine ⟨received, fun buffer => ⟨p.frame, encode_of_fits fits buffer, fun more => ?_⟩⟩
    rw [decode_frame_of_fits fits received, same]

/-- A frame of one byte of content, of a kind without a name, that carries a high half of its
length. -/
theorem encode_decode_longer :
    let bytes : Bytes := [0, 1, 0x78, 2, 0, 0x14, 0, 0, 0x40, 0x10, 0xbe, 0xef, 0, 0, 0x55, 0xaa]
    let p : Packet := .received ⟨0x7802, 0x14, 0, .other 0x40, 0xbeef⟩ [0x55]
    let short : Bytes := [0, 1, 0x78, 2, 0, 0x14, 0, 0, 0x40, 0, 0xbe, 0xef, 0x55]
    decode 1 bytes = .ok (some (p, [0xaa])) ∧ p.header.kind.Received ∧
      encode 1 p [7] = .ok ([7] ++ short) ∧ decode 1 (short ++ [9]) = .ok (some (p, [9])) ∧
      ∃ frames, [7] ++ (short ++ short) = [7] ++ frames ∧
        Stream.drain 1 frames = ⟨[p, p], [], none⟩ := by
  intro bytes p short
  have read : decode 1 bytes = .ok (some (p, [0xaa])) := by cbv
  have same : p.frame = short := by cbv
  obtain ⟨-, several, -, again⟩ := encode_decode 1
  obtain ⟨received, back⟩ := again bytes [0xaa] p read
  obtain ⟨frame, written, reread⟩ := back [7]
  obtain ⟨fits, front⟩ := encode_eq_ok_iff.1 written
  obtain rfl : frame = short := (List.append_cancel_left front).trans same
  have both : encodeAll 1 [p, p] [7] = .ok ([7] ++ (short ++ short)) :=
    encodeAll_eq_ok_iff.2 ⟨by simpa using fits, by simp [same]⟩
  exact ⟨read, received, written, reread [9], several [p, p] [7] _ (by simpa using received) both⟩

end Frame

end Lobby
