import Lobby.Bytes

/-!
# Hexadecimal text

Numbers and bytes in hexadecimal digits.  The digits above nine are written as small letters and
read in either case.
-/

namespace Lobby.Hex

/-- At least `width` digits of a number. -/
def ofNat (width n : Nat) : String :=
  let digits := Nat.toDigits 16 n
  String.ofList (List.replicate (width - digits.length) '0' ++ digits)

/-- The digit of a number below sixteen. -/
def digit (n : UInt8) : Char := Char.ofNat (n.toNat + if n < 10 then 48 else 87)

/-- Two digits for each byte. -/
def ofBytes (bytes : Bytes) : String :=
  bytes.foldl (fun text b => (text.push (digit (b / 16))).push (digit (b % 16))) ""

/-- The value of a digit. -/
def value? (c : Char) : Option UInt8 :=
  let above := fun (base : Nat) => some (UInt8.ofNat (c.toNat - base))
  if '0' ≤ c ∧ c ≤ '9' then above 48
  else if 'a' ≤ c ∧ c ≤ 'f' then above 87
  else if 'A' ≤ c ∧ c ≤ 'F' then above 55
  else none

/-- The bytes that digits spell, two digits for each, after those already read. -/
def readInto (done : Array UInt8) : List Char → Option (Array UInt8)
  | [] => some done
  | [_] => none
  | a :: b :: rest =>
    match value? a, value? b with
    | some x, some y => readInto (done.push (x * 16 + y)) rest
    | _, _ => none

/-- The bytes that a text spells. -/
def toBytes? (s : String) : Option Bytes := (readInto #[] s.toList).map (·.toList)

end Lobby.Hex
