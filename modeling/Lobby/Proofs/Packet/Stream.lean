import Lobby.Packet.Frame

/-!
# Streams in chunks

Frames come out of a stream however it is cut into chunks.  The decoder is stable: what it says of a
buffer, a frame or an error, it says of every longer buffer, and while it waits it keeps everything
it has.  So taking the frames out of `b ++ c` is taking those out of `b` and going on with the bytes
left and `c` (`drain_append`), and a series of chunks comes down to their concatenation.
-/

namespace Lobby

namespace Frame

variable {limit : Nat} {header : Header} {length : Nat} {buffer rest left : Bytes} {p : Packet}
  {e : Error}

/-! ### Content -/

theorem body_append (h : decode.body limit header length rest = .ok (some (p, left)))
    (more : Bytes) :
    decode.body limit header length (rest ++ more) = .ok (some (p, left ++ more)) := by
  rw [decode.body] at h ⊢
  split at h
  · cases h
  · next fits =>
    rw [if_neg fits]
    dsimp only at h ⊢
    split at h
    · cases h
    · next whole =>
      have enough : length ≤ rest.length := by
        rw [List.length_take] at whole
        omega
      cases h
      rw [List.take_append_of_le_length enough, List.drop_append_of_le_length enough, if_neg whole]

theorem suffix_of_body (h : decode.body limit header length rest = .ok (some (p, left))) :
    left <:+ rest := by
  rw [decode.body] at h
  split at h
  · cases h
  · dsimp only at h
    split at h
    · cases h
    · cases h
      exact List.drop_suffix _ _

/-- Content is refused for its length alone, whatever is there of it. -/
theorem body_error (h : decode.body limit header length rest = .error e) (more : Bytes) :
    decode.body limit header length more = .error e ∧ e = .oversized length ∧ limit < length := by
  rw [decode.body] at h ⊢
  split at h
  · next large =>
    cases h
    exact ⟨if_pos large, rfl, large⟩
  · dsimp only at h
    split at h <;> cases h

theorem length_of_body_none (h : decode.body limit header length rest = .ok none) :
    rest.length < limit := by
  rw [decode.body] at h
  split at h
  · cases h
  · dsimp only at h
    split at h
    · next short =>
      rw [List.length_take] at short
      omega
    · cases h

/-! ### Frames -/

/-- Either the buffer ends inside the header of a frame, or the header is read off its front
whatever follows. -/
theorem decode_cases (limit : Nat) (buffer : Bytes) :
    decode limit buffer = .ok none ∧ buffer.length < Packet.extendedHeaderSize ∨
      ∃ header length front rest, buffer = front ++ rest ∧ Packet.headerSize ≤ front.length ∧
        front.length ≤ Packet.extendedHeaderSize ∧
        ∀ more, decode limit (front ++ more) = decode.body limit header length more := by
  match buffer with
  | l1 :: l0 :: p1 :: p0 :: c1 :: c0 :: e1 :: e0 :: kind :: flags :: i1 :: i0 :: rest =>
    let header : Header :=
      ⟨UInt16.ofNat (Bytes.toNat16 p1 p0), UInt16.ofNat (Bytes.toNat16 c1 c0),
        UInt16.ofNat (Bytes.toNat16 e1 e0), .ofCode kind, UInt16.ofNat (Bytes.toNat16 i1 i0)⟩
    let low := Bytes.toNat16 l1 l0
    by_cases plain : flags &&& extendedFlag = 0
    · refine .inr ⟨header, low, [l1, l0, p1, p0, c1, c0, e1, e0, kind, flags, i1, i0], rest, rfl,
        Nat.le_refl 12, Nat.le_add_right 12 2, fun more => ?_⟩
      exact if_pos plain
    · match rest with
      | h1 :: h0 :: rest =>
        refine .inr ⟨header, Bytes.toNat16 h1 h0 * 0x10000 + low,
          [l1, l0, p1, p0, c1, c0, e1, e0, kind, flags, i1, i0, h1, h0], rest, rfl,
          Nat.le_add_right 12 2, Nat.le_refl 14, fun more => ?_⟩
        exact if_neg plain
      | [] | [_] =>
        refine .inl ⟨if_neg plain, ?_⟩
        simp [Packet.extendedHeaderSize]
  | [] | [_] | [_, _] | [_, _, _] | [_, _, _, _] | [_, _, _, _, _] | [_, _, _, _, _, _]
  | [_, _, _, _, _, _, _] | [_, _, _, _, _, _, _, _] | [_, _, _, _, _, _, _, _, _]
  | [_, _, _, _, _, _, _, _, _, _] | [_, _, _, _, _, _, _, _, _, _, _] =>
    exact .inl ⟨rfl, by simp [Packet.extendedHeaderSize]⟩

/-- **A frame that was found is found in every longer buffer.** -/
theorem decode_append (h : decode limit buffer = .ok (some (p, left))) (more : Bytes) :
    decode limit (buffer ++ more) = .ok (some (p, left ++ more)) := by
  rcases decode_cases limit buffer with ⟨waits, -⟩ | ⟨header, length, front, rest, rfl, -, -, same⟩
  · rw [waits] at h
    cases h
  · rw [same] at h
    rw [List.append_assoc, same]
    exact body_append h more

/-- **A refused frame is refused in every longer buffer**, and always for its length. -/
theorem decode_error (h : decode limit buffer = .error e) (more : Bytes) :
    decode limit (buffer ++ more) = .error e ∧
      ∃ length, e = .oversized length ∧ limit < length := by
  rcases decode_cases limit buffer with ⟨waits, -⟩ | ⟨header, length, front, rest, rfl, -, -, same⟩
  · rw [waits] at h
    cases h
  · rw [same] at h
    rw [List.append_assoc, same]
    obtain ⟨refused, cause⟩ := body_error h (rest ++ more)
    exact ⟨refused, length, cause⟩

/-- A frame takes at least a header off the front. -/
theorem suffix_of_decode (h : decode limit buffer = .ok (some (p, left))) :
    left <:+ buffer ∧ left.length + Packet.headerSize ≤ buffer.length := by
  rcases decode_cases limit buffer with
    ⟨waits, -⟩ | ⟨header, length, front, rest, rfl, size, -, same⟩
  · rw [waits] at h
    cases h
  · rw [same] at h
    have short := suffix_of_body h
    have := short.length_le
    refine ⟨short.trans (List.suffix_append _ _), ?_⟩
    rw [List.length_append]
    omega

/-- The decoder never waits for more than the longest frame it accepts. -/
theorem length_of_decode_none (h : decode limit buffer = .ok none) :
    buffer.length < Packet.extendedHeaderSize + limit := by
  rcases decode_cases limit buffer with
    ⟨-, short⟩ | ⟨header, length, front, rest, rfl, -, size, same⟩
  · omega
  · rw [same] at h
    have := length_of_body_none h
    rw [List.length_append]
    omega

end Frame

namespace Feed

/-- The same feed with packets in front of its own. -/
def after (packets : List Packet) (f : Feed) : Feed := { f with packets := packets ++ f.packets }

@[simp] theorem after_after (ps qs : List Packet) (f : Feed) :
    after ps (after qs f) = after (ps ++ qs) f := by
  simp [after]

/-- What a series of feeds gave altogether, beginning with `buffer`. -/
def total (buffer : Bytes) (feeds : List Feed) : Feed where
  packets := feeds.flatMap (·.packets)
  rest := (feeds.getLast?.map (·.rest)).getD buffer
  error := feeds.getLast?.bind (·.error)

theorem total_singleton (buffer : Bytes) (f : Feed) : total buffer [f] = f := by
  simp [total]

theorem total_cons (buffer : Bytes) {f : Feed} (fs : List Feed) (h : f.error = none) :
    total buffer (f :: fs) = after f.packets (total f.rest fs) := by
  cases last : fs.getLast? <;> simp [total, after, List.getLast?_cons, last, h]

end Feed

namespace Stream

open Lobby.Frame

variable {limit : Nat}

/-! ### Taking frames out of a buffer -/

theorem go_error {turn : UInt8} {turns bytes : Bytes} {done : List Packet} {e : Error}
    (h : decode limit bytes = .error e) :
    drain.go limit (turn :: turns) done bytes = ⟨done.reverse, bytes, some e⟩ := by
  rw [drain.go, h]

theorem go_none {turn : UInt8} {turns bytes : Bytes} {done : List Packet}
    (h : decode limit bytes = .ok none) :
    drain.go limit (turn :: turns) done bytes = ⟨done.reverse, bytes, none⟩ := by
  rw [drain.go, h]

theorem go_some {turn : UInt8} {turns bytes rest : Bytes} {done : List Packet} {p : Packet}
    (h : decode limit bytes = .ok (some (p, rest))) :
    drain.go limit (turn :: turns) done bytes = drain.go limit turns (p :: done) rest := by
  rw [drain.go, h]

/-- The number of turns does not matter as long as it suffices: every frame takes a byte at
least. -/
theorem go_eq (n : Nat) : ∀ {turns bytes : Bytes} {done : List Packet}, turns.length ≤ n →
    bytes.length ≤ turns.length →
      drain.go limit turns done bytes = Feed.after done.reverse (drain limit bytes) := by
  induction n with
  | zero =>
    intro turns bytes done few enough
    obtain rfl : turns = [] := List.length_eq_zero_iff.1 (by omega)
    obtain rfl : bytes = [] := List.length_eq_zero_iff.1 (Nat.le_zero.1 enough)
    simp [drain, drain.go, Feed.after]
  | succ n ih =>
    intro turns bytes done few enough
    cases bytes with
    | nil => cases turns <;> simp [drain, drain.go, decode, Feed.after]
    | cons b bytes =>
      cases turns with
      | nil => simp at enough
      | cons turn turns =>
        simp only [List.length_cons] at few enough
        cases step : decode limit (b :: bytes) with
        | error e => simp [drain, go_error step, Feed.after]
        | ok found =>
          cases found with
          | none => simp [drain, go_none step, Feed.after]
          | some found =>
            obtain ⟨p, rest⟩ := found
            have shorter := (suffix_of_decode step).2
            simp only [List.length_cons, Packet.headerSize] at shorter
            rw [drain, go_some step, go_some step, ih (by omega) (by omega),
              ih (by omega) (by omega)]
            simp

theorem drain_error {buffer : Bytes} {e : Error} (h : decode limit buffer = .error e) :
    drain limit buffer = ⟨[], buffer, some e⟩ := by
  cases buffer with
  | nil => cases h
  | cons b buffer => exact go_error h

theorem drain_none {buffer : Bytes} (h : decode limit buffer = .ok none) :
    drain limit buffer = ⟨[], buffer, none⟩ := by
  cases buffer with
  | nil => rfl
  | cons b buffer => exact go_none h

theorem drain_some {buffer rest : Bytes} {p : Packet}
    (h : decode limit buffer = .ok (some (p, rest))) :
    drain limit buffer = Feed.after [p] (drain limit rest) := by
  cases buffer with
  | nil => cases h
  | cons b buffer =>
    have shorter := (suffix_of_decode h).2
    simp only [List.length_cons, Packet.headerSize] at shorter
    rw [drain, go_some h, go_eq buffer.length (Nat.le_refl _) (by omega)]
    rfl

/-- Draining a buffer frame by frame. -/
theorem drain_induction {motive : Bytes → Feed → Prop}
    (waits : ∀ buffer, decode limit buffer = .ok none → motive buffer ⟨[], buffer, none⟩)
    (fails : ∀ buffer e, decode limit buffer = .error e → motive buffer ⟨[], buffer, some e⟩)
    (takes : ∀ buffer p rest, decode limit buffer = .ok (some (p, rest)) →
      motive rest (drain limit rest) → motive buffer (Feed.after [p] (drain limit rest)))
    (buffer : Bytes) : motive buffer (drain limit buffer) := by
  induction size : buffer.length using Nat.strongRecOn generalizing buffer with
  | ind n ih =>
    cases step : decode limit buffer with
    | error e =>
      rw [drain_error step]
      exact fails buffer e step
    | ok found =>
      cases found with
      | none =>
        rw [drain_none step]
        exact waits buffer step
      | some found =>
        obtain ⟨p, rest⟩ := found
        have shorter := (suffix_of_decode step).2
        simp only [Packet.headerSize] at shorter
        rw [drain_some step]
        exact takes buffer p rest step (ih rest.length (by omega) rest rfl)

/-- What is left is a suffix of the buffer.  Without an error the decoder waits on it, and an error
is always that of an oversized frame. -/
theorem drain_rest (limit : Nat) (buffer : Bytes) :
    (drain limit buffer).rest <:+ buffer ∧
      ((drain limit buffer).error = none → decode limit (drain limit buffer).rest = .ok none) ∧
      ∀ e, (drain limit buffer).error = some e →
        ∃ length, e = .oversized length ∧ limit < length := by
  refine drain_induction (motive := fun buffer f => f.rest <:+ buffer ∧
    (f.error = none → decode limit f.rest = .ok none) ∧
    ∀ e, f.error = some e → ∃ length, e = .oversized length ∧ limit < length) ?_ ?_ ?_ buffer
  · intro buffer step
    refine ⟨List.suffix_refl _, fun _ => step, ?_⟩
    intro e h
    cases h
  · intro buffer e step
    refine ⟨List.suffix_refl _, nofun, ?_⟩
    intro e' h
    cases h
    exact (decode_error step []).2
  · intro buffer p rest step ih
    exact ⟨ih.1.trans (suffix_of_decode step).1, ih.2⟩

/-- **Draining `b ++ c` is draining `b`, and then what is left of it with `c`.** -/
theorem drain_append {b : Bytes} (h : (drain limit b).error = none) (c : Bytes) :
    drain limit (b ++ c) =
      Feed.after (drain limit b).packets (drain limit ((drain limit b).rest ++ c)) := by
  refine drain_induction (motive := fun b f => f.error = none →
    drain limit (b ++ c) = Feed.after f.packets (drain limit (f.rest ++ c))) ?_ ?_ ?_ b h
  · intro b step _
    rfl
  · intro b e step h
    cases h
  · intro b p rest step ih h
    rw [drain_some (decode_append step c), ih h]
    exact Feed.after_after _ _ _

/-- After an error nothing changes any more but the bytes left. -/
theorem drain_append_of_error {b : Bytes} {e : Error} (h : (drain limit b).error = some e)
    (c : Bytes) :
    drain limit (b ++ c) = ⟨(drain limit b).packets, (drain limit b).rest ++ c, some e⟩ := by
  refine drain_induction (motive := fun b f => f.error = some e →
    drain limit (b ++ c) = ⟨f.packets, f.rest ++ c, some e⟩) ?_ ?_ ?_ b h
  · intro b step h
    cases h
  · intro b e' step h
    cases h
    exact drain_error (decode_error step c).1
  · intro b p rest step ih h
    rw [drain_some (decode_append step c), ih h]
    rfl

/-! ### Chunks -/

/-- Feeding chunks to a decoder that waits on `buffer` gives what the whole stream gives. -/
theorem feedAll_eq_drain (limit : Nat) (chunks : List Bytes) : ∀ buffer : Bytes,
    decode limit buffer = .ok none →
      let parts := Feed.total buffer (feedAll limit buffer chunks)
      let whole := drain limit (buffer ++ chunks.flatten)
      parts.packets = whole.packets ∧ parts.error = whole.error ∧
        (whole.error = none → parts.rest = whole.rest) := by
  induction chunks with
  | nil =>
    intro buffer waits
    simp [feedAll, Feed.total, drain_none waits]
  | cons chunk chunks ih =>
    intro buffer waits
    rw [List.flatten_cons, ← List.append_assoc, feedAll]
    dsimp only [feed]
    cases error : (drain limit (buffer ++ chunk)).error with
    | some e =>
      rw [Feed.total_singleton, drain_append_of_error error]
      exact ⟨rfl, error, nofun⟩
    | none =>
      have next := (drain_rest limit (buffer ++ chunk)).2.1 error
      obtain ⟨packets, last, rest⟩ := ih _ next
      rw [Feed.total_cons buffer _ error, drain_append error]
      exact ⟨congrArg (_ ++ ·) packets, last, rest⟩

/-- **Frame decoding does not depend on how the stream is cut.**  The chunks give the packets and
the error that the whole stream gives.  Without an error they leave the same bytes, a suffix of the
stream that is shorter than the longest frame; an error is that of a frame over the limit. -/
theorem feedAll_flatten (limit : Nat) (chunks : List Bytes) :
    let parts := Feed.total [] (feedAll limit [] chunks)
    let whole := feed limit [] chunks.flatten
    parts.packets = whole.packets ∧ parts.error = whole.error ∧
      (whole.error = none → parts.rest = whole.rest ∧ whole.rest <:+ chunks.flatten ∧
        whole.rest.length < 14 + limit) ∧
      ∀ e, whole.error = some e → ∃ length, e = .oversized length ∧ limit < length := by
  obtain ⟨packets, error, rest⟩ := feedAll_eq_drain limit chunks [] rfl
  obtain ⟨suffix, waits, cause⟩ := drain_rest limit chunks.flatten
  exact ⟨packets, error, fun h => ⟨rest h, suffix, length_of_decode_none (waits h)⟩, cause⟩

end Stream

end Lobby
