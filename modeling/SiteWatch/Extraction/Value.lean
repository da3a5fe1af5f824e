/-
# Values of fields

What one piece of text found in a document is worth: its blanks are trimmed, a text of blanks alone is
nothing, and the transform of the extractor is applied to the rest.
-/

import SiteWatch.Json.Basic
import SiteWatch.Json.Number
import SiteWatch.Site.Extractor
import SiteWatch.Text.Case
import SiteWatch.Url.Parse

namespace SiteWatch

namespace Decimal

/-- The digits of a decimal numeral, with those before and after its point told apart. -/
def wholeAndPart (chars : List Char) : Option (List Char × List Char) :=
  let whole := chars.takeWhile Char.isDigit
  match chars.dropWhile Char.isDigit with
  | [] => some (whole, [])
  | '.' :: part => if part.all Char.isDigit then some (whole, part) else none
  | _ => none

/-- The number that a plain decimal numeral stands for: an optional minus sign, then digits with at
most one point among or beside them. None if it is not one, or too large. -/
def read? (chars : List Char) : Option Double :=
  let (negative, rest) :=
    match chars with
    | '-' :: rest => (true, rest)
    | other => (false, other)
  match wholeAndPart rest with
  | none => none
  | some (whole, part) =>
    let digits := whole ++ part
    if digits.isEmpty then none
    else
      let significand := digits.foldl (fun sum c => 10 * sum + Json.Number.digitValue c) 0
      Double.ofDecimal negative significand (-(part.length : Int))

end Decimal

namespace Transform

/-- Whether a number may begin with a character. -/
def startsNumber (c : Char) : Bool := c.isDigit || c = '-'

/-- Whether a number may go on with a character. -/
def continuesNumber (c : Char) : Bool := c.isDigit || c = '.' || c = ',' || c = '-'

/-- The first numeral of a text, without the commas that set its thousands apart. -/
def numeral (text : List Char) : List Char :=
  ((text.dropWhile fun c => !startsNumber c).takeWhile continuesNumber).filter (· ≠ ',')

/-- The first number of a text. -/
def number? (text : String) : Option Double := Decimal.read? (numeral text.toList)

/-- A link made absolute against the address of its document; as it stands where that is not
possible. -/
def absolute (base : Option String) (link : String) : String :=
  let joined : Option Url := do
    let address ← base
    let page ← (Url.parse address).toOption
    (page.join link).toOption
  (joined.map Url.text).getD link

/-- What a transform makes of a trimmed text. -/
def convert? (transform : Option Transform) (base : Option String) (text : String) : Option Json :=
  match transform with
  | none | some .trim => some (.string text)
  | some .lowercase => some (.string (Text.Case.lower text))
  | some .uppercase => some (.string (Text.Case.upper text))
  | some .collapseWhitespace => some (.string (Text.collapseBlanks text))
  | some .number => (number? text).map .float
  | some .absoluteUrl => some (.string (absolute base text))

/-- What a piece of text found in a document at the address `base` is worth. -/
def valueOf? (transform : Option Transform) (base : Option String) (raw : String) : Option Json :=
  let text := Text.trim raw
  if text.isEmpty then none else convert? transform base text

end Transform

end SiteWatch
