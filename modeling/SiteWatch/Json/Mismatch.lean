/-
# Mismatches

Why a JSON value is not of the type asked for, and the readers of the basic types. A reader never
converts: a whole number written with a fraction is no integer, and a number is no text.
-/

import SiteWatch.Json.Writer
import SiteWatch.Time.Reading

namespace SiteWatch.Json

/-- Why a value is not of the type asked for. -/
inductive Mismatch where
  /-- The value is of another type. -/
  | type (found expected : String)
  /-- The value is of the right type but not one of those allowed. -/
  | value (found expected : String)
  /-- A member of an object is missing. -/
  | missing (field : String)
  /-- A member of an object stands twice. -/
  | repeated (field : String)
  /-- An array of fields is too short or too long. -/
  | length (found : Nat)
  /-- A word is none of the choices. -/
  | choice (found : String)
  /-- The text of a value is not in its format. -/
  | format (reason : String)
deriving DecidableEq, Repr

/-- The text of a mismatch. -/
def Mismatch.message : Mismatch → String
  | type found expected => s!"invalid type: {found}, expected {expected}"
  | value found expected => s!"invalid value: {found}, expected {expected}"
  | missing field => "missing field \x60" ++ field ++ "\x60"
  | repeated field => "duplicate field \x60" ++ field ++ "\x60"
  | length found => s!"invalid length {found}"
  | choice found => "unknown variant \x60" ++ found ++ "\x60"
  | format reason => reason

/-- A reader of values of a type. -/
abbrev Reader (α : Type) := Json → Except Mismatch α

/-- What a value is, in words. -/
def description : Json → String
  | .null => "null"
  | .bool b => "boolean \x60" ++ (if b then "true" else "false") ++ "\x60"
  | .int n => "integer \x60" ++ toString n ++ "\x60"
  | .float x => "floating point \x60" ++ floatText x ++ "\x60"
  | .string text => "string " ++ quoted text
  | .array _ => "sequence"
  | .object _ => "map"

/-- A value of the wrong type. -/
def wrongType {α : Type} (expected : String) (value : Json) : Except Mismatch α :=
  .error (.type value.description expected)

/-- A truth value. -/
def readBool : Reader Bool
  | .bool b => .ok b
  | other => wrongType "a boolean" other

/-- A text. -/
def readText : Reader String
  | .string text => .ok text
  | other => wrongType "a string" other

/-- A natural number of at most so many bits. -/
def readUnsigned (bits : Nat) (expected : String) : Reader Nat
  | .int n =>
    if 0 ≤ n ∧ n < Nat.pow 2 bits then .ok n.toNat
    else .error (.value (description (.int n)) expected)
  | other => wrongType expected other

/-- A natural number of 32 bits. -/
def readNat32 : Reader Nat := readUnsigned 32 "u32"

/-- A natural number of 64 bits. -/
def readNat64 : Reader Nat := readUnsigned 64 "u64"

/-- A count of 64 bits. -/
def readCount : Reader Nat := readUnsigned 64 "usize"

/-- An integer of 32 bits. -/
def readInt32 : Reader Int
  | .int n =>
    if -2147483648 ≤ n ∧ n ≤ 2147483647 then .ok n
    else .error (.value (description (.int n)) "i32")
  | other => wrongType "i32" other

/-- A moment, written as date, time and zone. -/
def readInstant : Reader Instant
  | .string text =>
    match Time.readInstant text with
    | .ok t => .ok t
    | .error fault => .error (.format fault.message)
  | other => wrongType "an RFC 3339 formatted date and time string" other

/-- A list of values of one type. -/
def readList {α : Type} (readItem : Reader α) : Reader (List α)
  | .array items => items.mapM readItem
  | other => wrongType "a sequence" other

/-- A value that may be `null`. -/
def readOptional {α : Type} (read : Reader α) : Reader (Option α)
  | .null => .ok none
  | other => (read other).map some

/-- One of a list of words, as a text or as the only key of an object with the value `null`. -/
def readChoice {α : Type} (choices : List (String × α)) : Reader α
  | .string word => pick word
  | .object [(word, .null)] => pick word
  | .object [(word, _)] =>
    match pick word with
    | .ok _ => wrongType "unit" (.object [])
    | .error mismatch => .error mismatch
  | other => wrongType "a variant" other
where
  /-- The choice that a word names. -/
  pick (word : String) : Except Mismatch α :=
    match choices.lookup word with
    | some value => .ok value
    | none => .error (.choice word)

/-- Free data that is an object. -/
def readMembers? : Reader Members
  | .object members => .ok (Members.ofList (settleMembers members))
  | other => wrongType "a map" other

end SiteWatch.Json
