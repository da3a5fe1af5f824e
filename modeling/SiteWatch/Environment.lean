/-
# Environment variables

The variables that set up the program, as name and text, and the readers of their values. A
variable that is not set leaves the default; one that is set to something unreadable is a failure
that names it.
-/

import SiteWatch.Failure
import SiteWatch.Text.Blank

namespace SiteWatch

/-- Variables by name. -/
abbrev Environment := List (String × String)

namespace Environment

/-- Read the digits of a number of at most `limit`, a fault at the first character that is no digit
or goes beyond the limit. -/
def readDigits (limit : Nat) : Nat → List Char → Except String Nat
  | n, [] => .ok n
  | n, c :: rest =>
    if c.isDigit then
      let next := n * 10 + (c.toNat - 48)
      if next > limit then .error "number too large to fit in target type"
      else readDigits limit next rest
    else .error "invalid digit found in string"

/-- The number of at most `limit` that a text spells, with or without a plus sign. -/
def readNumber (limit : Nat) (text : List Char) : Except String Nat :=
  match text with
  | [] => .error "cannot parse integer from empty string"
  | '+' :: c :: rest => readDigits limit 0 (c :: rest)
  | chars => readDigits limit 0 chars

/-- The truth value that a text spells. -/
def readFlag (text : List Char) : Except String Bool :=
  if text = "true".toList then .ok true
  else if text = "false".toList then .ok false
  else .error "provided string was not \x60true\x60 or \x60false\x60"

/-- The value of a variable, blanks around it aside, or a default. -/
def valueOr {α : Type} (env : Environment) (name : String) (read : List Char → Except String α)
    (default : α) : Outcome α :=
  match env.lookup name with
  | none => .ok default
  | some raw =>
    match read (Text.trimmed raw.toList) with
    | .ok value => .ok value
    | .error reason => .error (.misconfigured s!"Invalid {name} '{raw}': {reason}")

/-- The largest numbers of 16, 32 and 64 bits. -/
def max16 : Nat := 65535

def max32 : Nat := 4294967295

def max64 : Nat := 18446744073709551615

/-- A number from a variable, or a default. -/
def numberOr (env : Environment) (name : String) (limit default : Nat) : Outcome Nat :=
  env.valueOr name (readNumber limit) default

/-- A number from a variable, or a default, that must not be zero. -/
def positiveOr (env : Environment) (name : String) (limit default : Nat) : Outcome Nat := do
  let value ← env.numberOr name limit default
  if value = 0 then throw (.misconfigured s!"{name} must be at least 1")
  return value

/-- A truth value from a variable, or a default. -/
def flagOr (env : Environment) (name : String) (default : Bool) : Outcome Bool :=
  env.valueOr name readFlag default

/-- A directory from a variable, or a default. -/
def directoryOr (env : Environment) (name default : String) : Outcome String :=
  match env.lookup name with
  | none => .ok default
  | some raw =>
    if Text.isVoid raw then .error (.misconfigured s!"{name} is set but empty")
    else .ok (Text.trim raw)

end Environment

end SiteWatch
