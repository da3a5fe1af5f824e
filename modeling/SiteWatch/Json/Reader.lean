/-
# Reading JSON

A strict reader of JSON texts: nothing may follow the value, strings hold no raw control characters
and no lone surrogates, and values nest at most 127 deep. The members of an object are kept as they
stand, repeated keys included; a caller who wants free data settles the value.

The reader is total because every call of it on a nested value works on fewer characters, which the
argument `fuel` counts.
-/

import SiteWatch.Json.Number

namespace SiteWatch.Json

/-- Blanks between the tokens of a text. -/
def isBlank (c : Char) : Bool := c = ' ' || c = '\n' || c = '\t' || c = '\r'

/-- A text without the blanks at its front. -/
def skipBlanks (chars : List Char) : List Char := chars.dropWhile isBlank

/-- The deepest nesting that is read. -/
def maxDepth : Nat := 127

/-- The value of a hexadecimal digit. -/
def hexValue? (c : Char) : Option Nat :=
  if '0' ≤ c ∧ c ≤ '9' then some (c.toNat - 48)
  else if 'a' ≤ c ∧ c ≤ 'f' then some (c.toNat - 87)
  else if 'A' ≤ c ∧ c ≤ 'F' then some (c.toNat - 55)
  else none

/-- Four hexadecimal digits as a number. -/
def hexUnit? : List Char → Option (Nat × List Char)
  | a :: b :: c :: d :: rest => do
    let a ← hexValue? a
    let b ← hexValue? b
    let c ← hexValue? c
    let d ← hexValue? d
    return (a * 4096 + b * 256 + c * 16 + d, rest)
  | _ => none

/-- The character of an escape of one letter. -/
def shortEscape? (c : Char) : Option Char :=
  match c with
  | '"' => some '"'
  | '\\' => some '\\'
  | '/' => some '/'
  | 'b' => some (Char.ofNat 8)
  | 'f' => some (Char.ofNat 12)
  | 'n' => some '\n'
  | 'r' => some '\r'
  | 't' => some '\t'
  | _ => none

/-- The character of a numeric escape, after its letter; a surrogate needs its partner. -/
def numericEscape (chars : List Char) : Except String (Char × List Char) :=
  match hexUnit? chars with
  | none => .error "invalid escape"
  | some (unit, rest) =>
    if unit < 0xD800 ∨ unit > 0xDFFF then .ok (Char.ofNat unit, rest)
    else if unit ≥ 0xDC00 then .error "lone leading surrogate in hex escape"
    else match rest with
      | '\\' :: 'u' :: more =>
        match hexUnit? more with
        | none => .error "invalid escape"
        | some (low, rest) =>
          if 0xDC00 ≤ low ∧ low ≤ 0xDFFF then
            .ok (Char.ofNat (0x10000 + (unit - 0xD800) * 1024 + (low - 0xDC00)), rest)
          else .error "lone leading surrogate in hex escape"
      | _ => .error "unexpected end of hex escape"

/-- The rest of a string after its opening quotation mark, with the characters read so far in
reverse order. -/
def readString : Nat → List Char → List Char → Except String (String × List Char)
  | 0, _, _ => .error "EOF while parsing a string"
  | _, _, [] => .error "EOF while parsing a string"
  | fuel + 1, read, c :: rest =>
    if c = '"' then .ok (String.ofList read.reverse, rest)
    else if c = '\\' then
      match rest with
      | [] => .error "EOF while parsing a string"
      | 'u' :: more =>
        match numericEscape more with
        | .error reason => .error reason
        | .ok (character, rest) => readString fuel (character :: read) rest
      | letter :: more =>
        match shortEscape? letter with
        | none => .error "invalid escape"
        | some character => readString fuel (character :: read) more
    else if c.toNat < 32 then .error "control character found while parsing a string"
    else readString fuel (c :: read) rest

/-- A string token: its text and what follows it. -/
def readStringToken (rest : List Char) : Except String (String × List Char) :=
  readString (rest.length + 1) [] rest

/-- A fixed word at the front of a text. -/
def readWord (word : String) (value : Json) (chars : List Char) :
    Except String (Json × List Char) :=
  if word.toList.isPrefixOf chars then .ok (value, chars.drop word.length)
  else .error "expected ident"

mutual

/-- The value at the front of a text, inside `depth` arrays and objects. -/
def readValue : Nat → Nat → List Char → Except String (Json × List Char)
  | 0, _, _ => .error "EOF while parsing a value"
  | fuel + 1, depth, chars =>
    match skipBlanks chars with
    | [] => .error "EOF while parsing a value"
    | 'n' :: rest => readWord "null" .null ('n' :: rest)
    | 't' :: rest => readWord "true" (.bool true) ('t' :: rest)
    | 'f' :: rest => readWord "false" (.bool false) ('f' :: rest)
    | '"' :: rest =>
      match readStringToken rest with
      | .error reason => .error reason
      | .ok (text, rest) => .ok (.string text, rest)
    | '[' :: rest =>
      if depth ≥ maxDepth then .error "recursion limit exceeded"
      else match skipBlanks rest with
        | ']' :: rest => .ok (.array [], rest)
        | rest =>
          match readItems fuel (depth + 1) rest with
          | .error reason => .error reason
          | .ok (items, rest) => .ok (.array items, rest)
    | '{' :: rest =>
      if depth ≥ maxDepth then .error "recursion limit exceeded"
      else match skipBlanks rest with
        | '}' :: rest => .ok (.object [], rest)
        | rest =>
          match readMembers fuel (depth + 1) rest with
          | .error reason => .error reason
          | .ok (members, rest) => .ok (.object members, rest)
    | c :: rest =>
      if c = '-' ∨ c.isDigit then
        match Number.read (c :: rest) with
        | .error fault => .error fault.message
        | .ok found => .ok found
      else .error "expected value"

/-- The items of an array that is not empty, up to its closing bracket. -/
def readItems : Nat → Nat → List Char → Except String (List Json × List Char)
  | 0, _, _ => .error "EOF while parsing a list"
  | fuel + 1, depth, chars =>
    match readValue fuel depth chars with
    | .error reason => .error reason
    | .ok (item, rest) =>
      match skipBlanks rest with
      | ',' :: rest =>
        match readItems fuel depth rest with
        | .error reason => .error reason
        | .ok (items, rest) => .ok (item :: items, rest)
      | ']' :: rest => .ok ([item], rest)
      | [] => .error "EOF while parsing a list"
      | _ => .error "expected a comma or a closing bracket"

/-- The members of an object that is not empty, up to its closing brace. -/
def readMembers : Nat → Nat → List Char → Except String (List (String × Json) × List Char)
  | 0, _, _ => .error "EOF while parsing an object"
  | fuel + 1, depth, chars =>
    match skipBlanks chars with
    | '"' :: rest =>
      match readStringToken rest with
      | .error reason => .error reason
      | .ok (key, rest) =>
        match skipBlanks rest with
        | ':' :: rest =>
          match readValue fuel depth rest with
          | .error reason => .error reason
          | .ok (value, rest) =>
            match skipBlanks rest with
            | ',' :: rest =>
              match readMembers fuel depth rest with
              | .error reason => .error reason
              | .ok (members, rest) => .ok ((key, value) :: members, rest)
            | '}' :: rest => .ok ([(key, value)], rest)
            | [] => .error "EOF while parsing an object"
            | _ => .error "expected a comma or a closing brace"
        | [] => .error "EOF while parsing an object"
        | _ => .error "expected a colon"
    | [] => .error "EOF while parsing an object"
    | _ => .error "key must be a string"

end

/-- The value that a whole text holds. -/
def read (text : String) : Except String Json :=
  let chars := text.toList
  match readValue (2 * chars.length + 2) 0 chars with
  | .error reason => .error reason
  | .ok (value, rest) =>
    if (skipBlanks rest).isEmpty then .ok value else .error "trailing characters"

/-- The free data that a whole text holds. -/
def readFree (text : String) : Except String Json := (read text).map settle

end SiteWatch.Json
