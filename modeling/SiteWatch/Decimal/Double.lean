/-
# Double precision numbers

A finite binary64 number as plain data: a sign, an integer significand and a binary exponent. All
arithmetic goes through one rounding of an exact ratio to the nearest representable value, ties to
the even significand, so that every operation can be evaluated and reasoned about in `Nat`.
-/

namespace SiteWatch

/-- The finite binary64 value `± mantissa * 2 ^ exponent`. -/
structure Double where
  negative : Bool
  mantissa : Nat
  exponent : Int
deriving DecidableEq, Repr, Inhabited

namespace Double

/-- The exponent of the least significant bit of the smallest positive value. -/
def minExponent : Int := -1074

/-- The exponent of the least significant bit of the largest finite value. -/
def maxExponent : Int := 971

/-- Zero with the given sign. -/
def zero (negative : Bool) : Double := ⟨negative, 0, minExponent⟩

def isZero (x : Double) : Bool := x.mantissa == 0

/-- The quotient of two naturals, rounded to the nearest integer, a half going to the even one. -/
def roundedQuotient (numerator denominator : Nat) : Nat :=
  let quotient := numerator / denominator
  let rest := 2 * (numerator % denominator)
  if rest < denominator then quotient
  else if rest = denominator then quotient + quotient % 2
  else quotient + 1

/-- `numerator / (denominator * 2 ^ exponent)` as a fraction of naturals. -/
def scaledBy (numerator denominator : Nat) (exponent : Int) : Nat × Nat :=
  if exponent ≥ 0 then (numerator, denominator * Nat.pow 2 exponent.toNat)
  else (numerator * Nat.pow 2 (-exponent).toNat, denominator)

/-- The exponent at which `numerator / denominator` has a significand of 53 bits, bounded below
by the least exponent of the format. -/
def exponentFor (numerator denominator : Nat) : Int :=
  let guess : Int := (Nat.log2 numerator : Int) - (Nat.log2 denominator : Int) - 52
  let (scaled, unit) := scaledBy numerator denominator guess
  let fitted := if scaled / unit < Nat.pow 2 52 then guess - 1 else guess
  max fitted minExponent

/-- The representable value nearest to `± numerator / denominator`; `none` when it lies beyond
the largest finite one. -/
def ofRatio (negative : Bool) (numerator denominator : Nat) : Option Double :=
  if numerator = 0 then some (zero negative)
  else
    let exponent := exponentFor numerator denominator
    let (scaled, unit) := scaledBy numerator denominator exponent
    let mantissa := roundedQuotient scaled unit
    let (mantissa, exponent) :=
      if mantissa = Nat.pow 2 53 then (Nat.pow 2 52, exponent + 1) else (mantissa, exponent)
    if exponent > maxExponent then none
    else if mantissa = 0 then some (zero negative)
    else some ⟨negative, mantissa, exponent⟩

/-- The magnitude as a fraction of naturals. -/
def ratio (x : Double) : Nat × Nat :=
  if x.exponent ≥ 0 then (x.mantissa * Nat.pow 2 x.exponent.toNat, 1)
  else (x.mantissa, Nat.pow 2 (-x.exponent).toNat)

/-- The value nearest to a decimal `± significand * 10 ^ exponent`. -/
def ofDecimal (negative : Bool) (significand : Nat) (exponent : Int) : Option Double :=
  if exponent ≥ 0 then ofRatio negative (significand * Nat.pow 10 exponent.toNat) 1
  else ofRatio negative significand (Nat.pow 10 (-exponent).toNat)

/-- The product, rounded once. -/
def mul (x y : Double) : Option Double :=
  let (a, b) := x.ratio
  let (c, d) := y.ratio
  ofRatio (x.negative != y.negative) (a * c) (b * d)

/-- The quotient by a value other than zero, rounded once. -/
def div (x y : Double) : Option Double :=
  let (a, b) := x.ratio
  let (c, d) := y.ratio
  ofRatio (x.negative != y.negative) (a * d) (b * c)

/-- The same magnitude with the other sign. -/
def negate (x : Double) : Double := { x with negative := !x.negative }

/-- Whether the value is an integer. -/
def isIntegral (x : Double) : Bool :=
  let (a, b) := x.ratio
  a % b == 0

/-- Whether the value lies strictly below a natural number. -/
def lessThan (x : Double) (bound : Nat) : Bool :=
  let (a, b) := x.ratio
  if x.negative then a > 0 || bound > 0 else a < bound * b

end Double

end SiteWatch
