import Lobby.Record.Lookup
import Lobby.Record.Reader

/-!
# Packets

A packet is a header with content.  The header routes it by component and command, pairs a reply
with its request by the id, and says what kind of message it is.

The content travels as bytes.  A packet built from records keeps those records, and a received one
is parsed when its records are asked for; `Packet.parsed` remembers the outcome.
-/

namespace Lobby

/-- What a packet is for. -/
inductive PacketKind where
  /-- A request of a client. -/
  | incoming
  /-- The reply to a request. -/
  | response
  /-- A notification, which answers no request. -/
  | unique
  /-- The refusal of a request. -/
  | error
  /-- Anything else, kept as it came. -/
  | other (code : UInt8)
  deriving DecidableEq, Repr

namespace PacketKind

def code : PacketKind → UInt8
  | incoming => 0x00
  | response => 0x10
  | unique => 0x20
  | error => 0x30
  | other code => code

def ofCode (code : UInt8) : PacketKind :=
  if code = 0x00 then incoming
  else if code = 0x10 then response
  else if code = 0x20 then unique
  else if code = 0x30 then error
  else other code

/-- The name of a kind in messages. -/
def name : PacketKind → String
  | incoming => "Incoming"
  | response => "Response"
  | unique => "Unique"
  | error => "Error"
  | other code => s!"Other({code.toNat})"

/-- A kind that a received packet can have. -/
def Received (kind : PacketKind) : Prop := ofCode kind.code = kind

instance (kind : PacketKind) : Decidable kind.Received :=
  inferInstanceAs (Decidable (ofCode kind.code = kind))

theorem code_ofCode (code : UInt8) : (ofCode code).code = code := by
  unfold ofCode
  split
  · next h => exact h.symm
  · split
    · next h => exact h.symm
    · split
      · next h => exact h.symm
      · split
        · next h => exact h.symm
        · rfl

theorem received_ofCode (code : UInt8) : (ofCode code).Received := by
  rw [Received, code_ofCode]

end PacketKind

structure Header where
  component : UInt16
  command : UInt16
  error : UInt16
  kind : PacketKind
  id : UInt16
  deriving DecidableEq, Repr

/-- Where a request is routed: its component and its command. -/
abbrev Route := UInt16 × UInt16

namespace Header

def request (route : Route) (id : UInt16) : Header := ⟨route.1, route.2, 0, .incoming, id⟩

def notification (route : Route) : Header := ⟨route.1, route.2, 0, .unique, 0⟩

/-- The header of the reply to a request. -/
def response (h : Header) : Header := ⟨h.component, h.command, 0, .response, h.id⟩

/-- The header of the refusal of a request. -/
def refusal (h : Header) (error : UInt16) : Header := ⟨h.component, h.command, error, .error, h.id⟩

def route (h : Header) : Route := (h.component, h.command)

end Header

structure Packet where
  header : Header
  contents : Bytes
  /-- The records of the content, once they are known. -/
  known : Option (Except DecodeError Content)

namespace Packet

/-- A packet as it was received. -/
def received (header : Header) (contents : Bytes) : Packet := ⟨header, contents, none⟩

/-- A packet with these records. -/
def ofRecords (header : Header) (records : Content) : Packet :=
  ⟨header, encodeAll records, some (.ok records)⟩

def request (route : Route) (id : UInt16) (records : Content) : Packet :=
  ofRecords (.request route id) records

def notification (route : Route) (records : Content) : Packet :=
  ofRecords (.notification route) records

/-- The reply to `request` with these records. -/
def response (request : Packet) (records : Content) : Packet :=
  ofRecords request.header.response records

/-- The reply to `request` without content. -/
def emptyResponse (request : Packet) : Packet := received request.header.response []

/-- The refusal of `request` with these records. -/
def refusal (request : Packet) (error : UInt16) (records : Content) : Packet :=
  ofRecords (request.header.refusal error) records

/-- The refusal of `request` without content. -/
def emptyRefusal (request : Packet) (error : UInt16) : Packet :=
  received (request.header.refusal error) []

/-- The records of a packet, or why its content has none. -/
def records (p : Packet) : Except DecodeError Content :=
  match p.known with
  | some records => records
  | none => decodeAll p.contents

/-- Have the records been asked for, or were they given? -/
def isParsed (p : Packet) : Bool := p.known.isSome

/-- The same packet, its records known. -/
def parsed (p : Packet) : Packet := { p with known := some p.records }

/-- The first record with a label, in content that can be parsed. -/
def field? (p : Packet) (label : Label) : Option Record :=
  match p.records with
  | .ok records => Content.field? records label
  | .error _ => none

/-- Packets are equal on the wire. -/
instance : BEq Packet := ⟨fun p q => p.header == q.header && p.contents == q.contents⟩

/-- The size of a frame header. -/
def headerSize : Nat := 12

/-- The size of a frame header that carries the high half of the length. -/
def extendedHeaderSize : Nat := 14

/-- The size of the frame of a packet. -/
def frameSize (p : Packet) : Nat :=
  let length := p.contents.length
  if 0xffff < length then extendedHeaderSize + length else headerSize + length

@[simp] theorem records_ofRecords (header : Header) (records : Content) :
    (ofRecords header records).records = .ok records := rfl

@[simp] theorem records_parsed (p : Packet) : p.parsed.records = p.records := rfl

end Packet

end Lobby
