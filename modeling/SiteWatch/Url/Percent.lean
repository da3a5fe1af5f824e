/-
# Percent encoding

Bytes outside a set that depends on the part of the address are written as a percent sign and two
hexadecimal digits. Everything beyond ASCII is always written so, byte by byte of its UTF-8 form.
-/

namespace SiteWatch.Url

/-- A digit of a percent-encoded byte, in capitals. -/
def percentDigit (n : Nat) : Char :=
  if n < 10 then Char.ofNat (48 + n) else Char.ofNat (55 + n)

/-- A byte in its encoded form. -/
def percentByte (byte : UInt8) : List Char :=
  ['%', percentDigit (byte.toNat / 16), percentDigit (byte.toNat % 16)]

/-- Control characters and everything beyond ASCII. -/
def isControlByte (byte : UInt8) : Bool := byte < 32 || byte ≥ 127

/-- Encode the bytes of a text that are control characters, beyond ASCII, or in a given set. -/
def percentEncode (extra : List Char) (text : List Char) : List Char :=
  (String.ofList text).toUTF8.toList.flatMap fun byte =>
    if isControlByte byte || extra.contains (Char.ofNat byte.toNat) then percentByte byte
    else [Char.ofNat byte.toNat]

/-- What is encoded in a fragment. -/
def fragmentSet : List Char := [' ', '"', '<', '>', '\x60']

/-- What is encoded in a path. -/
def pathSet : List Char := fragmentSet ++ ['#', '?', '\x7b', '\x7d']

/-- What is encoded in user names and passwords. -/
def userInfoSet : List Char := pathSet ++ ['/', ':', ';', '=', '@', '[', '\\', ']', '^', '|']

/-- What is encoded in the query of an address of an ordinary scheme. -/
def querySet : List Char := [' ', '"', '#', '<', '>']

/-- What is encoded in the query of an address of a special scheme. -/
def specialQuerySet : List Char := querySet ++ ['\'']

/-- The value of a hexadecimal digit. -/
def hexDigit? (byte : UInt8) : Option UInt8 :=
  if 48 ≤ byte ∧ byte ≤ 57 then some (byte - 48)
  else if 97 ≤ byte ∧ byte ≤ 102 then some (byte - 87)
  else if 65 ≤ byte ∧ byte ≤ 70 then some (byte - 55)
  else none

/-- Bytes with every encoded byte decoded; percent signs that encode nothing stay. -/
def percentDecode : List UInt8 → List UInt8
  | 37 :: a :: b :: rest =>
    match hexDigit? a, hexDigit? b with
    | some high, some low => (high * 16 + low) :: percentDecode rest
    | _, _ => 37 :: percentDecode (a :: b :: rest)
  | byte :: rest => byte :: percentDecode rest
  | [] => []

/-- The text that bytes hold, if they are valid UTF-8. -/
def utf8? (bytes : List UInt8) : Option String :=
  String.fromUTF8? (ByteArray.mk bytes.toArray)

end SiteWatch.Url
