/-!
# Magnitudes: the nonnegative binary64 numbers

A magnitude is `mantissa · 2 ^ exponent`. Arithmetic on magnitudes is exact arithmetic on the
ratios that they stand for, followed by one rounding: to the nearest magnitude, of two equally
near ones to the one with an even mantissa. There is no infinite magnitude; a result beyond the
largest one is absent.

Magnitudes that `nearest?` returns are canonical. Zero is `0 · 2 ^ -1074`; every other one has a
mantissa of exactly 53 bits, or the least exponent.
-/

namespace EntSchema.Decimal

/-- The number `mantissa · 2 ^ exponent`. -/
structure Magnitude where
  mantissa : Nat
  exponent : Int
  deriving DecidableEq, Repr, Inhabited

namespace Magnitude

/-- The exponent of the smallest magnitudes. -/
def leastExponent : Int := -1074

/-- The exponent of the largest magnitudes. -/
def greatestExponent : Int := 971

/-- The smallest mantissa of 53 bits. -/
def leastNormal : Nat := Nat.pow 2 52

/-- Zero. -/
def zero : Magnitude := ⟨0, leastExponent⟩

/-- Whether the number is zero. -/
def isZero (a : Magnitude) : Bool := a.mantissa == 0

/-- The numerator of the number as a ratio of naturals. -/
def num (a : Magnitude) : Nat := a.mantissa * Nat.pow 2 a.exponent.toNat

/-- The denominator of the number as a ratio of naturals. -/
def den (a : Magnitude) : Nat := Nat.pow 2 (-a.exponent).toNat

end Magnitude

/-- The natural nearest to `n / d`, of two equally near ones the even one. -/
def roundDiv (n d : Nat) : Nat :=
  let q := n / d
  let r := n % d
  if d < 2 * r || (2 * r == d && q % 2 == 1) then q + 1 else q

/-- The ratio `n / d` counted in units of `2 ^ e`, again as a ratio. -/
def inUnits (n d : Nat) (e : Int) : Nat × Nat :=
  (n * Nat.pow 2 (-e).toNat, d * Nat.pow 2 e.toNat)

/--
The exponent at which the ratio `n / d` has a mantissa of 53 bits. The two logarithms give it up
to one: the quotient in units of `2 ^ guess` has 52 or 53 bits.
-/
def unitExponent (n d : Nat) : Int :=
  let guess : Int := (Nat.log2 n : Int) - Nat.log2 d - 52
  let scaled := inUnits n d guess
  if scaled.1 / scaled.2 < Magnitude.leastNormal then guess - 1 else guess

/-- The magnitude nearest to `n / d`; absent when that is beyond the largest one. -/
def nearest? (n d : Nat) : Option Magnitude :=
  if n = 0 then some .zero
  else
    let e := max (unitExponent n d) Magnitude.leastExponent
    let scaled := inUnits n d e
    let m := roundDiv scaled.1 scaled.2
    let rounded : Magnitude :=
      if m = 2 * Magnitude.leastNormal then ⟨Magnitude.leastNormal, e + 1⟩ else ⟨m, e⟩
    if Magnitude.greatestExponent < rounded.exponent then none else some rounded

namespace Magnitude

/-- The magnitude nearest to a natural below `2 ^ 1023`. -/
def ofNat (n : Nat) : Magnitude := (nearest? n 1).getD zero

/-- The product of two magnitudes, rounded. -/
def mul? (a b : Magnitude) : Option Magnitude := nearest? (a.num * b.num) (a.den * b.den)

/-- The quotient of two magnitudes, rounded; the divisor is not zero. -/
def div? (a b : Magnitude) : Option Magnitude := nearest? (a.num * b.den) (a.den * b.num)

end Magnitude

/-! ## Powers of ten -/

/-- The number `n · 10 ^ e` as a ratio of naturals. -/
def decimalRatio (n : Nat) (e : Int) : Nat × Nat :=
  (n * Nat.pow 10 e.toNat, Nat.pow 10 (-e).toNat)

/-- The largest power of ten that is a magnitude has this exponent. -/
def greatestTenth : Nat := 308

/-- The magnitude nearest to `10 ^ k`, for `k` up to `greatestTenth`. -/
def tenPow (k : Nat) : Magnitude := .ofNat (Nat.pow 10 k)

/--
`a · 10 ^ -k`, in divisions by at most `10 ^ 308`, each rounded. A number that reached zero on
the way stays zero.
-/
def scaleDown (a : Magnitude) (k : Nat) : Magnitude :=
  if k ≤ greatestTenth then (a.div? (tenPow k)).getD .zero
  else if a.isZero then a
  else scaleDown ((a.div? (tenPow greatestTenth)).getD .zero) (k - greatestTenth)
termination_by k
decreasing_by
  have : 0 < greatestTenth := by decide
  omega

/-- `a · 10 ^ k`, rounded; absent when it is beyond the largest magnitude. -/
def scaleUp? (a : Magnitude) (k : Nat) : Option Magnitude :=
  if k ≤ greatestTenth then a.mul? (tenPow k)
  else if a.isZero then some a
  else none

/-- The number `significand · 10 ^ exponent`: the significand is rounded first, then scaled. -/
def scale? (significand : Nat) (exponent : Int) : Option Magnitude :=
  let a := Magnitude.ofNat significand
  if 0 ≤ exponent then scaleUp? a exponent.toNat else some (scaleDown a (-exponent).toNat)

end EntSchema.Decimal
