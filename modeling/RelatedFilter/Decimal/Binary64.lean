/-
  RelatedFilter.Decimal.Binary64

  Double-precision numbers by their bit pattern, with the arithmetic that
  reading a JSON number takes: rounding an exact quotient of naturals to the
  nearest double (a tie goes to the even significand), and one product or
  quotient of two doubles.  All of it is exact arithmetic on naturals, powers
  (`Nat.pow`) included, so a result does not depend on a floating-point unit.
-/

namespace RelatedFilter

/-- A double-precision number, by its 64 bits. -/
structure Binary64 where
  bits : UInt64
deriving DecidableEq, Repr

namespace Binary64

/-! ## Fields -/

/-- The sign bit. -/
def negative (x : Binary64) : Bool := x.bits.toNat / Nat.pow 2 63 == 1

/-- The eleven bits of the biased exponent. -/
def biasedExponent (x : Binary64) : Nat := x.bits.toNat / Nat.pow 2 52 % Nat.pow 2 11

/-- The fifty-two stored bits of the significand. -/
def fraction (x : Binary64) : Nat := x.bits.toNat % Nat.pow 2 52

/-- The significand with its hidden bit: the magnitude is
    `significand * 2 ^ exponent`. -/
def significand (x : Binary64) : Nat :=
  if x.biasedExponent = 0 then x.fraction else x.fraction + Nat.pow 2 52

/-- The exponent that goes with `significand`. -/
def exponent (x : Binary64) : Int :=
  if x.biasedExponent = 0 then -1074 else (x.biasedExponent : Int) - 1075

/-- Neither infinite nor a NaN. -/
def isFinite (x : Binary64) : Bool := x.biasedExponent != 2047

/-- Either of the two zeros. -/
def isZero (x : Binary64) : Bool := x.significand == 0

/-- The magnitude as a quotient of naturals. -/
def magnitude (x : Binary64) : Nat × Nat :=
  if 0 ≤ x.exponent then (x.significand * Nat.pow 2 x.exponent.toNat, 1)
  else (x.significand, Nat.pow 2 (-x.exponent).toNat)

def zero : Binary64 := ⟨0⟩

def infinity : Binary64 := ⟨0x7ff0000000000000⟩

/-- The same magnitude with the other sign. -/
def neg (x : Binary64) : Binary64 := ⟨x.bits ^^^ 0x8000000000000000⟩

/-! ## Rounding -/

/-- The natural nearest to `num / den`; a tie goes to the even one. -/
def roundDiv (num den : Nat) : Nat :=
  let q := num / den
  let twice := 2 * (num % den)
  if twice < den then q
  else if twice > den then q + 1
  else q + q % 2

/-- `num / (den * 2 ^ e)`, rounded to a natural. -/
def roundAt (num den : Nat) (e : Int) : Nat :=
  if 0 ≤ e then roundDiv num (den * Nat.pow 2 e.toNat)
  else roundDiv (num * Nat.pow 2 (-e).toNat) den

/-- The double `m * 2 ^ e` for `m ≤ 2 ^ 53`, where `e` is -1074 if `m` has no
    hidden bit; infinite beyond the largest double. -/
def pack (m : Nat) (e : Int) : Binary64 :=
  let (m, e) := if m = Nat.pow 2 53 then (Nat.pow 2 52, e + 1) else (m, e)
  if m < Nat.pow 2 52 then ⟨UInt64.ofNat m⟩
  else if e > 971 then infinity
  else ⟨UInt64.ofNat ((e + 1075).toNat * Nat.pow 2 52 + (m - Nat.pow 2 52))⟩

/-- The double nearest to the positive quotient `num / den`. -/
def ofQuotient (num den : Nat) : Binary64 :=
  if num = 0 then zero
  else
    -- with this exponent the quotient lies in [2 ^ 52, 2 ^ 54)
    let guess : Int := (num.log2 : Int) - (den.log2 : Int) - 53
    let tooWide := if 0 ≤ guess then num ≥ den * Nat.pow 2 guess.toNat * Nat.pow 2 53
      else num * Nat.pow 2 (-guess).toNat ≥ den * Nat.pow 2 53
    let e := max (-1074) (if tooWide then guess + 1 else guess)
    pack (roundAt num den e) e

/-- The double nearest to a natural. -/
def ofNat (n : Nat) : Binary64 := ofQuotient n 1

/-- The double nearest to `10 ^ e`. -/
def powerOfTen (e : Nat) : Binary64 := ofNat (Nat.pow 10 e)

/-- The nearest double to the product of two non-negative finite doubles. -/
def mul (x y : Binary64) : Binary64 :=
  let (a, b) := x.magnitude
  let (c, d) := y.magnitude
  ofQuotient (a * c) (b * d)

/-- The nearest double to the quotient of two non-negative finite doubles, the
    second not zero. -/
def div (x y : Binary64) : Binary64 :=
  let (a, b) := x.magnitude
  let (c, d) := y.magnitude
  ofQuotient (a * d) (b * c)

end Binary64
end RelatedFilter
