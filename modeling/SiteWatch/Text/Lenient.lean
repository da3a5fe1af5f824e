/-
# Lenient reading of bytes

The text of bytes that need not be valid UTF-8: whatever begins like a character and does not go on
like one becomes a replacement character, and reading goes on after it.
-/

namespace SiteWatch.Text

/-- The bytes that may follow a lead byte, and how many do; none if it leads nothing. -/
def followers (lead : UInt8) : Option (UInt8 × UInt8 × Nat) :=
  if 0xC2 ≤ lead ∧ lead ≤ 0xDF then some (0x80, 0xBF, 1)
  else if lead = 0xE0 then some (0xA0, 0xBF, 2)
  else if lead = 0xED then some (0x80, 0x9F, 2)
  else if 0xE1 ≤ lead ∧ lead ≤ 0xEF then some (0x80, 0xBF, 2)
  else if lead = 0xF0 then some (0x90, 0xBF, 3)
  else if lead = 0xF4 then some (0x80, 0x8F, 3)
  else if 0xF1 ≤ lead ∧ lead ≤ 0xF3 then some (0x80, 0xBF, 3)
  else none

/-- The value that the following bits add to a lead byte. -/
def leadValue (lead : UInt8) (count : Nat) : Nat := lead.toNat % Nat.pow 2 (6 - count)

/-- Read the rest of a character, of which `count` bytes are missing and the next one lies between
bounds. -/
def restOfChar (value : Nat) (low high : UInt8) : Nat → List UInt8 → Char × List UInt8
  | 0, bytes => (Char.ofNat value, bytes)
  | _ + 1, [] => ('\uFFFD', [])
  | count + 1, byte :: rest =>
    if low ≤ byte ∧ byte ≤ high then
      restOfChar (value * 64 + byte.toNat % 64) 0x80 0xBF count rest
    else ('\uFFFD', byte :: rest)

/-- The first character of bytes, and the bytes after it. -/
def readChar (lead : UInt8) (rest : List UInt8) : Char × List UInt8 :=
  if lead < 0x80 then (Char.ofNat lead.toNat, rest)
  else
    match followers lead with
    | none => ('\uFFFD', rest)
    | some (low, high, count) => restOfChar (leadValue lead count) low high count rest

/-- Reading the rest of a character leaves no more bytes than there were. -/
theorem restOfChar_length (value : Nat) (low high : UInt8) (count : Nat) (bytes : List UInt8) :
    (restOfChar value low high count bytes).2.length ≤ bytes.length := by
  induction count generalizing value low high bytes with
  | zero => simp [restOfChar]
  | succ count ih =>
    cases bytes with
    | nil => simp [restOfChar]
    | cons byte rest =>
      unfold restOfChar
      split
      · exact Nat.le_succ_of_le (ih _ _ _ rest)
      · exact Nat.le_refl _

/-- Reading a character leaves no more bytes than followed its lead. -/
theorem readChar_length (lead : UInt8) (rest : List UInt8) :
    (readChar lead rest).2.length ≤ rest.length := by
  unfold readChar
  split
  · exact Nat.le_refl _
  · split
    · exact Nat.le_refl _
    · exact restOfChar_length _ _ _ _ _

/-- The characters of bytes. -/
def readChars : List UInt8 → List Char
  | [] => []
  | lead :: rest => (readChar lead rest).1 :: readChars (readChar lead rest).2
termination_by bytes => bytes.length
decreasing_by
  simp only [List.length_cons]
  exact Nat.lt_succ_of_le (readChar_length lead rest)

/-- The text of bytes. -/
def lenient (bytes : List UInt8) : String := String.ofList (readChars bytes)

end SiteWatch.Text
