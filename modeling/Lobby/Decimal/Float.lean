import Lobby.Decimal.Shortest

/-!
# The text of a 32-bit float

A float prints as its shortest decimal, with at least one digit after the point.  From 10⁻⁴ up to
10¹⁶ it is written out in full; smaller and larger ones have one digit before the point and an
exponent after an `e`.
-/

namespace Lobby.Decimal

/-- Which decimals are written out in full: those whose point stands after position `least` and up
to position `most` of `0.d₁d₂…`. -/
structure FloatFormat where
  least : Int
  most : Int

def floatFormat : FloatFormat := ⟨-4, 16⟩

/-- The shortest decimal of a finite positive float, given its exponent and fraction bits. -/
def ofFloatParts (exponent fraction : Nat) : Decimal :=
  let interval :=
    if exponent = 0 then Interval.ofBinary fraction (-149) false
    else Interval.ofBinary (fraction + 0x800000) (exponent - 150) (fraction = 0 ∧ 1 < exponent)
  interval.shortest 9

/-- Digits and a point, as `FloatFormat` says. -/
def FloatFormat.render (format : FloatFormat) (digits : List Char) (point : Int) : String :=
  if format.least < point ∧ point ≤ format.most then
    let whole :=
      if point ≤ 0 then ['0']
      else digits.take point.toNat ++ List.replicate (point.toNat - digits.length) '0'
    let tail :=
      if point ≤ 0 then List.replicate (-point).toNat '0' ++ digits else digits.drop point.toNat
    String.ofList (whole ++ '.' :: if tail.isEmpty then ['0'] else tail)
  else
    let tail := digits.drop 1
    String.ofList (digits.take 1 ++ if tail.isEmpty then [] else '.' :: tail) ++
      "e" ++ toString (point - 1)

/-- The text of the float with these bits. -/
def floatText (bits : UInt32) : String :=
  let n := bits.toNat
  let sign := if 0x80000000 ≤ n then "-" else ""
  let exponent := n / 0x800000 % 0x100
  let fraction := n % 0x800000
  if exponent = 255 then if fraction = 0 then sign ++ "inf" else "NaN"
  else if exponent = 0 ∧ fraction = 0 then sign ++ "0.0"
  else
    let (digits, point) := (ofFloatParts exponent fraction).normal
    sign ++ floatFormat.render digits point

end Lobby.Decimal
