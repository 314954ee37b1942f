import Lobby.Error
import Lobby.Packet.Basic

/-!
# Frames

A frame is a header and the content of one packet.  All numbers are big-endian:

    length(2) component(2) command(2) error(2) kind(1) flags(1) id(2) [length high(2)] content

The high half of the length is there when bit 4 of the flags is set.  Content larger than a limit is
refused on both sides, and on the reading side as soon as the header tells.

Reading a stream looks at the header until the whole frame is there, so a partial frame is left
where it stands.  `Stream.feed` appends a chunk and takes out every complete frame.
-/

namespace Lobby

/-- The flag of a length of more than sixteen bits. -/
def extendedFlag : UInt8 := 0x10

/-- The greatest length of content a header can express. -/
def maxExpressible : Nat := UInt32.size - 1

/-- The content a connection accepts unless told otherwise. -/
def defaultMaxPacketSize : Nat := 16 * 1024 * 1024

namespace Frame

/-- The header of a frame with `length` bytes of content. -/
def headerBytes (h : Header) (length : Nat) : Bytes :=
  let extended := 0xffff < length
  Bytes.ofNat16 length ++ Bytes.ofNat16 h.component.toNat ++ Bytes.ofNat16 h.command.toNat ++
    Bytes.ofNat16 h.error.toNat ++
    [h.kind.code, if extended then extendedFlag else 0] ++ Bytes.ofNat16 h.id.toNat ++
    if extended then Bytes.ofNat16 (length / 0x10000) else []

/-- Appends the frame of a packet to `buffer`. -/
def encode (limit : Nat) (p : Packet) (buffer : Bytes) : Except Error Bytes :=
  let length := p.contents.length
  if limit < length ∨ maxExpressible < length then .error (.oversized length)
  else .ok (buffer ++ (headerBytes p.header length ++ p.contents))

/-- Takes one frame off the front of `buffer`.  Without an error, `none` says that the frame is not
complete. -/
def decode (limit : Nat) (buffer : Bytes) : Except Error (Option (Packet × Bytes)) :=
  match buffer with
  | l1 :: l0 :: p1 :: p0 :: c1 :: c0 :: e1 :: e0 :: kind :: flags :: i1 :: i0 :: rest =>
    let header : Header :=
      { component := UInt16.ofNat (Bytes.toNat16 p1 p0)
        command := UInt16.ofNat (Bytes.toNat16 c1 c0)
        error := UInt16.ofNat (Bytes.toNat16 e1 e0)
        kind := .ofCode kind
        id := UInt16.ofNat (Bytes.toNat16 i1 i0) }
    let low := Bytes.toNat16 l1 l0
    if flags &&& extendedFlag = 0 then body header low rest
    else
      match rest with
      | h1 :: h0 :: rest => body header (Bytes.toNat16 h1 h0 * 0x10000 + low) rest
      | _ => .ok none
  | _ => .ok none
where
  body (header : Header) (length : Nat) (rest : Bytes) : Except Error (Option (Packet × Bytes)) :=
    if limit < length then .error (.oversized length)
    else
      let contents := rest.take length
      if contents.length < length then .ok none
      else .ok (some (.received header contents, rest.drop length))

end Frame

namespace Packet

/-- The frame of a packet, whatever its size. -/
def toBytes (p : Packet) : Except Error Bytes := Frame.encode maxExpressible p []

/-- The packet whose frame these bytes start with. -/
def ofBytes (bytes : Bytes) : Except Error Packet :=
  match Frame.decode maxExpressible bytes with
  | .ok (some (p, _)) => .ok p
  | .ok none => .error .invalidHeader
  | .error e => .error e

end Packet

/-- What came out of a stream: packets in order, the bytes kept, and the error that ended it. -/
structure Feed where
  packets : List Packet
  rest : Bytes
  error : Option Error

namespace Stream

/-- Takes complete frames off the front until none is left.  A frame takes at least one byte, so the
bytes themselves bound the number of turns. -/
def drain (limit : Nat) (buffer : Bytes) : Feed := go buffer [] buffer
where
  go : Bytes → List Packet → Bytes → Feed
    | [], done, bytes => ⟨done.reverse, bytes, none⟩
    | _ :: turns, done, bytes =>
      match Frame.decode limit bytes with
      | .error e => ⟨done.reverse, bytes, some e⟩
      | .ok none => ⟨done.reverse, bytes, none⟩
      | .ok (some (p, rest)) => go turns (p :: done) rest

/-- Appends a chunk to what is buffered and takes out every complete frame. -/
def feed (limit : Nat) (buffer chunk : Bytes) : Feed := drain limit (buffer ++ chunk)

/-- Feeds chunks one by one, up to the first error. -/
def feedAll (limit : Nat) (buffer : Bytes) : List Bytes → List Feed
  | [] => []
  | chunk :: chunks =>
    let step := feed limit buffer chunk
    match step.error with
    | some _ => [step]
    | none => step :: feedAll limit step.rest chunks

end Stream

end Lobby
