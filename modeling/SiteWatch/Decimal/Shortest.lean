/-
# Shortest decimal digits

The fewest decimal digits that read back as a given binary64 value, and among those the ones
nearest to it. The values that round to a number form an interval around it; a decimal grid of
`n` digits has a point in that interval exactly when one of the two grid points next to the value
lies in it, so testing two neighbours on each of the grids of 1, 2, … 17 digits is enough.
-/

import SiteWatch.Decimal.Double

namespace SiteWatch.Double

/-- Decimal digits without leading zeros and the place of the decimal point: the value is
`0.digits * 10 ^ point`. -/
structure Digits where
  digits : Nat
  count : Nat
  point : Int
deriving DecidableEq, Repr

/-- A power of ten as a fraction of naturals. -/
def powerOfTen (exponent : Int) : Nat × Nat :=
  if exponent ≥ 0 then (Nat.pow 10 exponent.toNat, 1) else (1, Nat.pow 10 (-exponent).toNat)

/-- Whether a positive fraction is at least a power of ten. -/
def atLeastPowerOfTen (numerator denominator : Nat) (exponent : Int) : Bool :=
  let (up, down) := powerOfTen exponent
  numerator * down ≥ up * denominator

/-- The number of digits before the decimal point of a positive fraction: the least `k` with
the fraction below `10 ^ k`. The binary logarithms give it up to two. -/
def decimalPoint (numerator denominator : Nat) : Int :=
  let bits : Int := (Nat.log2 numerator : Int) - (Nat.log2 denominator : Int)
  let guess : Int := (bits * 30103).fdiv 100000 - 1
  let rec settle : Nat → Int → Int
    | 0, place => place
    | more + 1, place =>
      if atLeastPowerOfTen numerator denominator place then settle more (place + 1) else place
  settle 5 guess

/-- How far below `x` numbers still round to it, in quarters of the unit in its last place: half a
unit, but only a quarter at a power of two, whose lower neighbour is nearer. -/
def lowerReach (x : Double) : Nat :=
  if x.mantissa = Nat.pow 2 52 ∧ x.exponent > minExponent then 1 else 2

/-- Whether the decimal `candidate * 10 ^ unit` reads back as the magnitude of `x`. -/
def readsBack (x : Double) (candidate : Nat) (unit : Int) : Bool :=
  let (up, down) := powerOfTen unit
  let (binUp, binDown) :=
    if x.exponent - 2 ≥ 0 then (Nat.pow 2 (x.exponent - 2).toNat, 1)
    else (1, Nat.pow 2 (2 - x.exponent).toNat)
  let here := candidate * up * binDown
  let low := (4 * x.mantissa - x.lowerReach) * binUp * down
  let high := (4 * x.mantissa + 2) * binUp * down
  if x.mantissa % 2 = 0 then low ≤ here && here ≤ high else low < here && here < high

/-- The number of decimal digits of a natural number, at least one. -/
def digitCount (n : Nat) : Nat := (Nat.toDigits 10 n).length

/-- Drop zeros at the end; they do not change the value. -/
def dropTrailingZeros : Nat → Nat → Nat
  | 0, n => n
  | more + 1, n => if n ≠ 0 ∧ n % 10 = 0 then dropTrailingZeros more (n / 10) else n

/-- The shortest digits of the magnitude of `x`; a single zero for zero. -/
def shortest (x : Double) : Digits :=
  if x.mantissa = 0 then ⟨0, 1, 1⟩
  else
    let (numerator, denominator) := x.ratio
    let point := decimalPoint numerator denominator
    let rec search : Nat → Nat → Digits
      | 0, count => ⟨0, count, point⟩
      | more + 1, count =>
        let unit := point - (count : Int)
        let (up, down) := powerOfTen unit
        let scaled := numerator * down
        let step := denominator * up
        let lower := scaled / step
        let lowerHit := lower ≠ 0 ∧ x.readsBack lower unit
        let upperHit := x.readsBack (lower + 1) unit
        let nearerLower := 2 * (scaled % step) < step
          ∨ (2 * (scaled % step) = step ∧ lower % 2 = 0)
        if lowerHit ∧ (¬ upperHit ∨ nearerLower) then finish lower count
        else if upperHit then finish (lower + 1) count
        else search more (count + 1)
    search 18 1
where
  /-- A grid point as digits; rounding up may have carried into one more place. -/
  finish (value count : Nat) : Digits :=
    let (numerator, denominator) := x.ratio
    let point := decimalPoint numerator denominator
    let carried := digitCount value - count
    let trimmed := dropTrailingZeros 20 value
    ⟨trimmed, digitCount trimmed, point + (carried : Int)⟩

end SiteWatch.Double
