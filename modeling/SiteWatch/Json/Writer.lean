/-
# Writing JSON

The compact form, the indented form and the canonical form of a value. The canonical form sorts
the members of every object, so that two values have the same canonical form when they differ only
in the order of members.

Numbers that are not integers are written with the fewest digits that read back: positionally when
the magnitude is at least `10 ^ -5` and below `10 ^ 16`, with an exponent otherwise.
-/

import SiteWatch.Decimal.Shortest
import SiteWatch.Json.Basic

namespace SiteWatch.Json

/-- A decimal digit of a number below sixteen as a hexadecimal character. -/
def hexDigit (n : Nat) : Char :=
  if n < 10 then Char.ofNat (48 + n) else Char.ofNat (87 + n)

/-- A character as it stands inside a quoted string: quotation mark, backslash and control
characters are escaped, everything else is itself. -/
def escapedChar (c : Char) : List Char :=
  if c = '"' then ['\\', '"']
  else if c = '\\' then ['\\', '\\']
  else if c = '\n' then ['\\', 'n']
  else if c = '\r' then ['\\', 'r']
  else if c = '\t' then ['\\', 't']
  else if c.toNat = 8 then ['\\', 'b']
  else if c.toNat = 12 then ['\\', 'f']
  else if c.toNat < 32 then
    ['\\', 'u', '0', '0', hexDigit (c.toNat / 16), hexDigit (c.toNat % 16)]
  else [c]

/-- A string in quotation marks. -/
def quoted (text : String) : String :=
  String.ofList ('"' :: text.toList.flatMap escapedChar ++ ['"'])

/-- A run of zeros. -/
def zeros (n : Nat) : String := String.ofList (List.replicate n '0')

/-- Digits with the decimal point after `place` of them, at least one digit on either side. -/
def positional (digits : String) (count : Nat) (place : Int) : String :=
  if place ≤ 0 then s!"0.{zeros (-place).toNat}{digits}"
  else if place.toNat < count then
    s!"{String.ofList (digits.toList.take place.toNat)}.{String.ofList (digits.toList.drop place.toNat)}"
  else s!"{digits}{zeros (place.toNat - count)}.0"

/-- Digits with one of them before the point and an exponent with its sign. -/
def scientific (digits : String) (place : Int) : String :=
  let exponent := place - 1
  let sign := if exponent < 0 then "-" else "+"
  let tail := String.ofList (digits.toList.drop 1)
  let fraction := if tail.isEmpty then "" else s!".{tail}"
  s!"{String.ofList (digits.toList.take 1)}{fraction}e{sign}{exponent.natAbs}"

/-- A binary64 number. -/
def floatText (x : Double) : String :=
  let shortest := x.shortest
  let digits := toString shortest.digits
  let sign := if x.negative then "-" else ""
  if x.isZero then s!"{sign}0.0"
  else if -5 < shortest.point ∧ shortest.point ≤ 16 then
    s!"{sign}{positional digits shortest.count shortest.point}"
  else s!"{sign}{scientific digits shortest.point}"

mutual

/-- The compact form: no blanks, members in the order in which they stand. -/
def compact : Json → String
  | .null => "null"
  | .bool true => "true"
  | .bool false => "false"
  | .int n => toString n
  | .float x => floatText x
  | .string text => quoted text
  | .array items => "[" ++ compactItems items ++ "]"
  | .object members => "\x7b" ++ compactMembers members ++ "\x7d"

/-- The items of an array, separated by commas. -/
def compactItems : List Json → String
  | [] => ""
  | [item] => compact item
  | item :: rest => compact item ++ "," ++ compactItems rest

/-- The members of an object, separated by commas. -/
def compactMembers : List (String × Json) → String
  | [] => ""
  | [(key, value)] => quoted key ++ ":" ++ compact value
  | (key, value) :: rest => quoted key ++ ":" ++ compact value ++ "," ++ compactMembers rest

end

/-- The compact form with the members of every object sorted by key. -/
def canonical (value : Json) : String := compact (settle value)

/-- Two blanks for every level. -/
def indentation (level : Nat) : String := String.ofList (List.replicate (2 * level) ' ')

mutual

/-- The indented form at a level of nesting: one item or member a line, two blanks a level, and
empty arrays and objects without a line break. -/
def indented (level : Nat) : Json → String
  | .array [] => "[]"
  | .array items =>
    "[\n" ++ indentedItems (level + 1) items ++ "\n" ++ indentation level ++ "]"
  | .object [] => "\x7b\x7d"
  | .object members =>
    "\x7b\n" ++ indentedMembers (level + 1) members ++ "\n" ++ indentation level ++ "\x7d"
  | .null => "null"
  | .bool true => "true"
  | .bool false => "false"
  | .int n => toString n
  | .float x => floatText x
  | .string text => quoted text

/-- The items of an array, one a line. -/
def indentedItems (level : Nat) : List Json → String
  | [] => ""
  | [item] => indentation level ++ indented level item
  | item :: rest =>
    indentation level ++ indented level item ++ ",\n" ++ indentedItems level rest

/-- The members of an object, one a line. -/
def indentedMembers (level : Nat) : List (String × Json) → String
  | [] => ""
  | [(key, value)] => indentation level ++ quoted key ++ ": " ++ indented level value
  | (key, value) :: rest =>
    indentation level ++ quoted key ++ ": " ++ indented level value ++ ",\n"
      ++ indentedMembers level rest

end

/-- The indented form of a document. -/
def pretty (value : Json) : String := indented 0 value

end SiteWatch.Json
