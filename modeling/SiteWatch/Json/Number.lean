/-
# Number literals

Reading the number at the front of a JSON text. An integer that fits 64 bits stays an integer.
Every other literal is gathered into a significand of at most 64 bits, whose further digits are
dropped, and a power of ten; the value is the significand rounded to binary64 and then multiplied or
divided by the power of ten, rounding again. A magnitude beyond the largest finite value is an
error; a negative zero is a binary64 zero.
-/

import SiteWatch.Json.Basic

namespace SiteWatch.Json.Number

/-- The largest significand that is gathered. -/
def maxSignificand : Nat := 18446744073709551615

/-- The value of a decimal digit. -/
def digitValue (c : Char) : Nat := c.toNat - 48

/-- Digits of a literal: the significand they give and how many were dropped because the
significand was full. Once one digit is dropped all later ones are. -/
def gather : Nat → Bool → Nat → List Char → Nat × Nat × List Char
  | significand, full, dropped, c :: rest =>
    if c.isDigit then
      let next := significand * 10 + digitValue c
      if full ∨ next > maxSignificand then gather significand true (dropped + 1) rest
      else gather next false dropped rest
    else (significand, dropped, c :: rest)
  | significand, _, dropped, [] => (significand, dropped, [])

/-- Digits after the decimal point: each digit kept lowers the exponent by one, and digits beyond a
full significand are dropped without effect. Also says how many digits there were. -/
def gatherFraction : Nat → Bool → Int → Nat → List Char → Nat × Int × Nat × List Char
  | significand, full, exponent, seen, c :: rest =>
    if c.isDigit then
      let next := significand * 10 + digitValue c
      if full ∨ next > maxSignificand then
        gatherFraction significand true exponent (seen + 1) rest
      else gatherFraction next false (exponent - 1) (seen + 1) rest
    else (significand, exponent, seen, c :: rest)
  | significand, _, exponent, seen, [] => (significand, exponent, seen, [])

/-- The greatest power of ten that is a binary64 number. -/
def largestPower : Nat := 308

/-- A power of ten as a binary64 number. -/
def power (exponent : Nat) : Double :=
  (Double.ofRatio false (Nat.pow 10 exponent) 1).getD (Double.zero false)

/-- Divide by the largest power of ten until the exponent is in its range. -/
def scaleDown : Nat → Double → Int → Option Double
  | 0, x, _ => some x
  | more + 1, x, exponent =>
    if exponent ≥ -308 then x.div (power (-exponent).toNat)
    else if x.isZero then some x
    else match x.div (power largestPower) with
      | some y => scaleDown more y (exponent + 308)
      | none => none

/-- The binary64 value of a significand and a power of ten; `none` beyond the finite range. -/
def assemble (negative : Bool) (significand : Nat) (exponent : Int) : Option Double :=
  match Double.ofRatio false significand 1 with
  | none => none
  | some base =>
    let magnitude :=
      if exponent ≥ 0 then
        if exponent ≤ 308 then base.mul (power exponent.toNat)
        else if base.isZero then some base
        else none
      else scaleDown (exponent.natAbs / 308 + 1) base exponent
    magnitude.map fun x => { x with negative := negative }

/-- The largest exponent that is read digit by digit. -/
def maxExponent : Nat := 2147483647

/-- What a literal was cut off or spoilt by. -/
inductive Fault where
  | unfinished
  | malformed
  | outOfRange
deriving DecidableEq, Repr

/-- The text of a fault. -/
def Fault.message : Fault → String
  | unfinished => "EOF while parsing a value"
  | malformed => "invalid number"
  | outOfRange => "number out of range"

/-- A value out of a significand and exponent, refusing what is not finite. -/
def finish (negative : Bool) (significand : Nat) (exponent : Int) (rest : List Char) :
    Except Fault (Json × List Char) :=
  match assemble negative significand exponent with
  | some x => .ok (.float x, rest)
  | none => .error .outOfRange

/-- The digits of an exponent, as a number. -/
def exponentDigits (chars : List Char) : Nat × List Char :=
  ((chars.takeWhile Char.isDigit).foldl (fun n c => n * 10 + digitValue c) 0,
    chars.dropWhile Char.isDigit)

/-- The exponent part, after its letter. An exponent too large to hold gives an error when it is
positive and the significand is not zero, and zero otherwise. -/
def readExponent (negative : Bool) (significand : Nat) (start : Int) (chars : List Char) :
    Except Fault (Json × List Char) :=
  let (raises, digits) := match chars with
    | '+' :: rest => (true, rest)
    | '-' :: rest => (false, rest)
    | _ => (true, chars)
  match digits with
  | [] => .error .unfinished
  | c :: _ =>
    if ¬ c.isDigit then .error .malformed
    else
      let (size, rest) := exponentDigits digits
      if size > maxExponent then
        if significand ≠ 0 ∧ raises then .error .outOfRange
        else .ok (.float (Double.zero negative), rest)
      else finish negative significand (if raises then start + size else start - size) rest

/-- The fraction, after its point, and what may follow it. -/
def readFraction (negative : Bool) (significand : Nat) (start : Int) (chars : List Char) :
    Except Fault (Json × List Char) :=
  let (significand, exponent, seen, rest) := gatherFraction significand false start 0 chars
  if seen = 0 then
    match rest with
    | [] => .error .unfinished
    | _ => .error .malformed
  else match rest with
    | 'e' :: more | 'E' :: more => readExponent negative significand exponent more
    | _ => finish negative significand exponent rest

/-- An integer without fraction and exponent. -/
def integer (negative : Bool) (significand dropped : Nat) (rest : List Char) :
    Except Fault (Json × List Char) :=
  if dropped > 0 then finish negative significand dropped rest
  else if negative then
    if significand = 0 ∨ significand > 9223372036854775808 then finish true significand 0 rest
    else .ok (.int (-(significand : Int)), rest)
  else .ok (.int significand, rest)

/-- The number at the front of a text, after its sign. A leading zero stands alone. -/
def readUnsigned (negative : Bool) (chars : List Char) : Except Fault (Json × List Char) :=
  match chars with
  | [] => .error .unfinished
  | '0' :: next :: rest =>
    if next.isDigit then .error .malformed
    else continueWith 0 0 (next :: rest)
  | c :: _ =>
    if c.isDigit then
      let (significand, dropped, rest) := gather 0 false 0 chars
      continueWith significand dropped rest
    else .error .malformed
where
  /-- What follows the digits of the integer part. -/
  continueWith (significand dropped : Nat) : List Char → Except Fault (Json × List Char)
    | '.' :: rest => readFraction negative significand dropped rest
    | 'e' :: rest | 'E' :: rest => readExponent negative significand dropped rest
    | rest => integer negative significand dropped rest

/-- The number at the front of a text. -/
def read : List Char → Except Fault (Json × List Char)
  | '-' :: rest => readUnsigned true rest
  | chars => readUnsigned false chars

end SiteWatch.Json.Number
