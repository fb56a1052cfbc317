import EntSchema.Decimal.Magnitude

/-!
# The fewest digits that read back

Every magnitude is the rounding of a whole interval of reals. Among the decimals of that interval
`shortest` picks one with the fewest digits, and of those the one nearest to the magnitude. It
tries the grids of 1, 2, …, 17 digits in turn: on each grid only the two neighbours of the
magnitude can be in the interval, because a point of the grid further away has one of the
neighbours between itself and the magnitude.
-/

namespace EntSchema.Decimal

/-- The number `digits · 10 ^ exponent`. -/
structure Digits where
  digits : Nat
  exponent : Int
  deriving DecidableEq, Repr, Inhabited

/--
Four times the bounds of the interval that rounds to a magnitude, in units of `2 ^ exponent`. The
lower half of the interval is half as wide where the spacing of the magnitudes changes.
-/
def interval (a : Magnitude) : Nat × Nat :=
  let low :=
    if a.mantissa = Magnitude.leastNormal ∧ Magnitude.leastExponent < a.exponent then 1 else 2
  (4 * a.mantissa - low, 4 * a.mantissa + 2)

/-- Whether the ratio `n / d` rounds to `a`. The ends of the interval do when the mantissa is
even. -/
def roundsTo (a : Magnitude) (n d : Nat) : Bool :=
  let bounds := interval a
  let scaled := inUnits n d a.exponent
  let below := compare (bounds.1 * scaled.2) (4 * scaled.1)
  let above := compare (4 * scaled.1) (bounds.2 * scaled.2)
  if a.mantissa % 2 == 0 then below.isLE && above.isLE else below.isLT && above.isLT

/-- How many digits a natural other than zero has, less one. -/
def log10 (n : Nat) : Nat := (Nat.toDigits 10 n).length - 1

/-- The decimal exponent `p` of a magnitude that is not zero: `10 ^ p ≤ a < 10 ^ (p + 1)`. -/
def leadingExponent (a : Magnitude) : Int :=
  if a.den ≤ a.num then log10 (a.num / a.den)
  else
    let p := log10 (a.den / a.num)
    if a.num * Nat.pow 10 p = a.den then -(p : Int) else -(p : Int) - 1

/-- The point nearest to `a` on the grid of multiples of `10 ^ e`, if it or its other neighbour
rounds to `a`; of two equally near points the even one. -/
def onGrid? (a : Magnitude) (e : Int) : Option Nat :=
  let n := a.num * Nat.pow 10 (-e).toNat
  let d := a.den * Nat.pow 10 e.toNat
  let rounds (c : Nat) : Bool := let r := decimalRatio c e; roundsTo a r.1 r.2
  let near := roundDiv n d
  let other := if near = n / d then near + 1 else near - 1
  if rounds near then some near else if rounds other then some other else none

/-- A number without the zeros at its end, and how many there were; at most `fuel` are taken. -/
def dropZeros : Nat → Nat → Nat × Nat
  | 0, n => (n, 0)
  | fuel + 1, n =>
    if n % 10 == 0 then
      let r := dropZeros fuel (n / 10)
      (r.1, r.2 + 1)
    else (n, 0)

/-- The shortest decimal that rounds to a magnitude, without zeros at its end. -/
def shortest (a : Magnitude) : Digits :=
  if a.isZero then ⟨0, 0⟩
  else
    let p := leadingExponent a
    let grids := (List.range 17).map fun (k : Nat) => p - k
    match grids.findSome? fun e => (onGrid? a e).map fun n => (n, e) with
    | some (n, e) =>
      let r := dropZeros 20 n
      ⟨r.1, e + r.2⟩
    | none => ⟨a.mantissa, a.exponent⟩

end EntSchema.Decimal
