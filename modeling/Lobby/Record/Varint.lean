import Lobby.Bytes
import Lobby.Record.DecodeError

/-!
# Varints

A signed 64-bit number travels as its magnitude in little-endian digits: six bits in the first byte,
seven in each later one.  Bit 7 of a byte says that more digits follow; bit 6 of the first byte is
the sign.  A magnitude of 64 bits takes at most ten bytes.

Reading accepts longer forms than writing produces, and a negative zero, but nothing that does not
fit into 64 bits.
-/

namespace Lobby.Varint

/-- The digits of a magnitude after its low six bits, seven at a time. -/
def writeDigits (n : Nat) (rest : Bytes) : Bytes :=
  if n < 128 then UInt8.ofNat n :: rest
  else UInt8.ofNat (n % 128 + 128) :: writeDigits (n / 128) rest
termination_by n

/-- The bytes of `v`, followed by `rest`. -/
def write (v : Int64) (rest : Bytes) : Bytes :=
  let magnitude := v.toInt.natAbs
  let sign := if v.toInt < 0 then 64 else 0
  if magnitude < 64 then UInt8.ofNat (magnitude + sign) :: rest
  else UInt8.ofNat (magnitude % 64 + sign + 128) :: writeDigits (magnitude / 64) rest

/-- The number of seven-bit digits of a number. -/
def digitCount (n : Nat) : Nat := if n = 0 then 0 else digitCount (n / 128) + 1
termination_by n

/-- The number of bytes `write` takes for `v`. -/
def size (v : Int64) : Nat := digitCount (v.toInt.natAbs / 64) + 1

/-- Reads digits, the first of which counts `weight` times, and adds them to `sum`, up to the
first byte that says no digit follows.  A digit that does not fit into 64 bits is refused where it
stands. -/
def readDigits : (weight sum : Nat) → Bytes → Except DecodeError (Nat × Bytes)
  | _, _, [] => .error .unexpectedEnd
  | weight, sum, byte :: rest =>
    let digit := byte.toNat % 128
    if UInt64.size ≤ weight ∨ UInt64.size ≤ digit * weight then .error .overflow
    else if byte.toNat < 128 then .ok (sum + digit * weight, rest)
    else readDigits (weight * 128) (sum + digit * weight) rest

/-- The number with a sign and a magnitude, if 64 bits hold it. -/
def signed (negative : Bool) (magnitude : Nat) : Except DecodeError Int64 :=
  if negative then
    if magnitude ≤ 0x8000000000000000 then .ok (Int64.ofInt (-magnitude)) else .error .overflow
  else
    if magnitude < 0x8000000000000000 then .ok (Int64.ofInt magnitude) else .error .overflow

/-- Reads one number off the front. -/
def read : Bytes → Except DecodeError (Int64 × Bytes)
  | [] => .error .unexpectedEnd
  | byte :: rest => do
    let low := byte.toNat % 64
    let (magnitude, rest) ← if byte.toNat < 128 then .ok (low, rest) else readDigits 64 low rest
    let v ← signed (decide (64 ≤ byte.toNat % 128)) magnitude
    return (v, rest)

end Lobby.Varint
