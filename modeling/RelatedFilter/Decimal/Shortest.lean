/-
  RelatedFilter.Decimal.Shortest

  The fewest decimal digits that read back as a given double.  The reals that
  round to `m * 2 ^ e` form an interval; for one digit, two digits and so on
  the two neighbours of the value on that decimal grid are tried, and the first
  grid with a point in the interval gives the digits.  Of two points the nearer
  one is taken, and of two equally near ones the even one.
-/
import RelatedFilter.Decimal.Binary64

namespace RelatedFilter.Decimal

/-- Decimal digits `digits` with the point after `point` of them:
    the value is `0.digits * 10 ^ point`. -/
structure Scientific where
  digits : List Char
  point : Int
deriving DecidableEq, Repr

/-- The reals that round to one double, over a common denominator: `low`,
    `value` and `high` over `den`. -/
structure Interval where
  low : Nat
  value : Nat
  high : Nat
  den : Nat
  /-- The ends themselves round to the value. -/
  closed : Bool

/-- The rounding interval of the magnitude of a double.  Below a power of two
    the neighbours are twice as near. -/
def interval (x : Binary64) : Interval :=
  let m := x.significand
  let below := if m = Nat.pow 2 52 ∧ x.biasedExponent > 1 then 1 else 2
  let scale := Nat.pow 2 (x.exponent - 2).toNat
  ⟨(4 * m - below) * scale, 4 * m * scale, (4 * m + 2) * scale,
    Nat.pow 2 (2 - x.exponent).toNat, m % 2 == 0⟩

namespace Interval

/-- Does `d * 10 ^ e` lie in the interval? -/
def contains (i : Interval) (d : Nat) (e : Int) : Bool :=
  let point := d * Nat.pow 10 e.toNat * i.den
  let unit := Nat.pow 10 (-e).toNat
  if i.closed then i.low * unit ≤ point && point ≤ i.high * unit
  else i.low * unit < point && point < i.high * unit

/-- The least `p` with `value < 10 ^ p`, searched upwards from a lower bound. -/
def magnitudeFrom (i : Interval) : Nat → Int → Int
  | 0, p => p
  | fuel + 1, p =>
    if i.value * Nat.pow 10 (-p).toNat < i.den * Nat.pow 10 p.toNat then p
    else magnitudeFrom i fuel (p + 1)

/-- The least `p` with `value < 10 ^ p`. -/
def magnitude (i : Interval) : Int :=
  -- log10 of the value, from below: 2 ^ 10 > 10 ^ 3, and 1233 / 4096 < log10 2
  let bits : Int := (i.value.log2 : Int) - (i.den.log2 : Int) - 1
  i.magnitudeFrom 40 (Int.fdiv (bits * 1233) 4096 - 2)

/-- The decimal with `n` digits before the exponent that reads back, if there
    is one: the nearer neighbour, or the even one of two at the same distance. -/
def onGrid (i : Interval) (e : Int) : Option Nat :=
  let num := i.value * Nat.pow 10 (-e).toNat
  let den := i.den * Nat.pow 10 e.toNat
  let d := num / den
  let twice := 2 * (num % den)
  let upperFirst := twice > den || (twice == den && d % 2 == 1)
  let nearer := if upperFirst then d + 1 else d
  let other := if upperFirst then d else d + 1
  if i.contains nearer e then some nearer
  else if i.contains other e then some other
  else none

/-- The first grid of `n`, `n + 1`, … digits with a point in the interval. -/
def firstGrid (i : Interval) (p : Int) : Nat → Nat → Nat × Int
  | 0, n => (i.value * Nat.pow 10 (n - p).toNat / (i.den * Nat.pow 10 (p - n).toNat), p - n)
  | fuel + 1, n =>
    match i.onGrid (p - n) with
    | some d => (d, p - n)
    | none => firstGrid i p fuel (n + 1)

end Interval

/-- The digits of a natural, without its trailing zeros. -/
def significantDigits (d : Nat) : List Char :=
  (((toString d).toList.reverse).dropWhile (· == '0')).reverse

/-- The fewest digits that read back as the magnitude of a finite non-zero double. -/
def shortest (x : Binary64) : Scientific :=
  let i := interval x
  let (d, e) := i.firstGrid i.magnitude 17 1
  ⟨significantDigits d, e + (toString d).length⟩

end RelatedFilter.Decimal
