import Lobby.Field
import Lobby.Record.Required

/-!
# Network data

The addresses a client reports of itself, as it sees them and as others see them.  They travel as a
union that is absent until they are known, that is, while all four numbers are zero.
-/

namespace Lobby

/-- An IPv4 address, as the number it is, with a port. -/
structure Endpoint where
  ip : UInt32
  port : UInt16
  deriving DecidableEq, Repr

structure Network where
  internal : Endpoint
  external : Endpoint
  deriving DecidableEq, Repr

namespace Endpoint

def unknown : Endpoint := ⟨0, 0⟩

def record (label : Label) (e : Endpoint) : Record :=
  .group label [.nat Field.ip e.ip.toNat, .nat Field.port e.port.toNat]

/-- The endpoint under a label. -/
def read (pair : Content) (label : Label) : Except Label Endpoint := do
  let group ← pair.requireGroup label
  let ip ← Content.requireUInt32 group.fields Field.ip
  let port ← Content.requireUInt16 group.fields Field.port
  return ⟨ip, port⟩

end Endpoint

namespace Network

def unknown : Network := ⟨.unknown, .unknown⟩

/-- The discriminant of a pair of addresses. -/
def discriminant : Discriminant := ⟨0x2, by decide⟩

/-- The addresses under a label, absent while unknown. -/
def record (label : Label) (n : Network) : Record :=
  if n = unknown then .unset label
  else
    .union label discriminant
      (.group Field.valu [n.external.record Field.exip, n.internal.record Field.inip])

/-- The addresses in a union.  Any present union will do that holds a group labelled as a value. -/
def read : Option (Discriminant × Record) → Except Label Network
  | none => .ok unknown
  | some (_, .mk label (.group pair)) =>
    if label = Field.valu then do
      let internal ← Endpoint.read pair.fields Field.inip
      let external ← Endpoint.read pair.fields Field.exip
      return ⟨internal, external⟩
    else .error Field.valu
  | some _ => .error Field.valu

end Network

end Lobby
