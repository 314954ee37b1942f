/-!
# Shortest decimals

A binary floating-point number stands for all the reals that round to it.  Its shortest decimal is
the one with the fewest digits among those reals, and among these the nearest to the number
itself; of two equally near ones the larger.

`Interval` is what rounds to a number, as fractions over one denominator, and `Interval.shortest`
tries one digit, then two, and so on.  On the grid of decimals with a given number of digits only
the two neighbours of the number can be nearest, so these are tried.
-/

namespace Lobby

/-- The decimal `digits · 10 ^ exponent`. -/
structure Decimal where
  digits : Nat
  exponent : Int
  deriving DecidableEq, Repr

namespace Decimal

/-- A positive number `centre / scale` with the reals between `low / scale` and `high / scale` that
round to it, the ends included if `closed`. -/
structure Interval where
  centre : Nat
  low : Nat
  high : Nat
  scale : Nat
  closed : Bool
  deriving Repr

namespace Interval

/-- The interval of `mantissa · 2 ^ exponent`.  Below a power of two the next number is nearer, if
`narrow` says that numbers below it are denser. -/
def ofBinary (mantissa : Nat) (exponent : Int) (narrow : Bool) : Interval :=
  let up := Nat.pow 2 exponent.toNat
  { centre := 4 * mantissa * up
    low := (4 * mantissa - if narrow then 1 else 2) * up
    high := (4 * mantissa + 2) * up
    scale := 4 * Nat.pow 2 (-exponent).toNat
    closed := mantissa % 2 = 0 }

/-- Is `n · 10 ^ e` in the interval? -/
def contains (i : Interval) (n : Nat) (e : Int) : Bool :=
  let value := n * Nat.pow 10 e.toNat * i.scale
  let shift := Nat.pow 10 (-e).toNat
  if i.closed then i.low * shift ≤ value && value ≤ i.high * shift
  else i.low * shift < value && value < i.high * shift

/-- The number of digits of the whole part of `n / d`, minus one; negative below one. -/
def magnitude (n d : Nat) : Int :=
  if d ≤ n then climb (n / d).log2 0
  else -(descend d n d)
where
  /-- The greatest `e` from `start` on with `10 ^ e ≤ n / d`, at most `fuel` above it. -/
  climb (fuel start : Nat) : Int :=
    match fuel with
    | 0 => start
    | fuel + 1 => if Nat.pow 10 (start + 1) * d ≤ n then climb fuel (start + 1) else start
  /-- The least `e` with `1 ≤ n · 10 ^ e / d`, at most `fuel`. -/
  descend (fuel n d : Nat) : Nat :=
    match fuel with
    | 0 => 0
    | fuel + 1 => if d ≤ n then 0 else descend fuel (n * 10) d + 1

/-- The nearest decimal with `count` digits that lies in the interval. -/
def nearest? (i : Interval) (count : Nat) : Option Decimal :=
  let e := magnitude i.centre i.scale - (count - 1 : Nat)
  let shift := Nat.pow 10 (-e).toNat
  let unit := Nat.pow 10 e.toNat * i.scale
  let below := i.centre * shift / unit
  let gap := 2 * (i.centre * shift % unit)
  match i.contains below e, i.contains (below + 1) e with
  | true, true => some ⟨if gap < unit then below else below + 1, e⟩
  | true, false => some ⟨below, e⟩
  | false, true => some ⟨below + 1, e⟩
  | false, false => none

/-- The shortest decimal in the interval, of at most `limit` digits. -/
def shortest (i : Interval) (limit : Nat) : Decimal :=
  ((List.range limit).findSome? fun n => i.nearest? (n + 1)).getD ⟨i.centre / i.scale, 0⟩

end Interval

/-- The digits of a decimal without zeros at their end, and the place of the point: the decimal is
`0.d₁d₂… · 10 ^ point`. -/
def normal (d : Decimal) : List Char × Int :=
  let digits := Nat.toDigits 10 d.digits
  ((digits.reverse.dropWhile (· = '0')).reverse, digits.length + d.exponent)

end Decimal

end Lobby
