/-
# Hosts

The host of an address: a domain name in its ASCII form, an IPv4 address, an IPv6 address, or, for
schemes that are not special, any text without delimiters. A domain whose last label is a number is
an IPv4 address, in which each part may be decimal, octal or hexadecimal.
-/

import SiteWatch.Text.Blank
import SiteWatch.Text.Case
import SiteWatch.Url.Percent
import SiteWatch.Url.Punycode

namespace SiteWatch.Url

/-- Why a text is not an address. -/
inductive Fault where
  | emptyHost
  | invalidDomain
  | invalidPort
  | invalidIPv4
  | invalidIPv6
  | invalidHostCharacter
  | relativeWithoutBase
  | relativeToOpaque
deriving DecidableEq, Repr

/-- The text of a fault. -/
def Fault.message : Fault → String
  | emptyHost => "empty host"
  | invalidDomain => "invalid international domain name"
  | invalidPort => "invalid port number"
  | invalidIPv4 => "invalid IPv4 address"
  | invalidIPv6 => "invalid IPv6 address"
  | invalidHostCharacter => "invalid domain character"
  | relativeWithoutBase => "relative URL without a base"
  | relativeToOpaque => "relative URL with a cannot-be-a-base base"

/-- The host of an address. -/
inductive Host where
  | domain (name : String)
  | ipv4 (address : Nat)
  | ipv6 (groups : List Nat)
deriving DecidableEq, Repr

namespace Host

/-- Characters that no domain name may hold. -/
def isForbidden (c : Char) : Bool :=
  c.toNat ≤ 32 || c.toNat = 127 || "#/:<>?@[\\]^|%".toList.contains c

/-- Characters other than ASCII that no domain name may hold: blanks, controls, marks of direction,
and code points without a public meaning. -/
def isUnfit (n : Nat) : Bool :=
  (0x80 ≤ n && n ≤ 0xA0) || [0xA8, 0xAF, 0xB4, 0xB8, 0x3000, 0xFFFC, 0xFFFD].contains n
    || (0x2000 ≤ n && n ≤ 0x200A) || n = 0x200E || n = 0x200F || (0x2028 ≤ n && n ≤ 0x202F)
    || n = 0x205F || (0x2066 ≤ n && n ≤ 0x206F) || (0xE000 ≤ n && n ≤ 0xF8FF)
    || (0xFFF9 ≤ n && n ≤ 0xFFFB) || n % 65536 ≥ 65534 || n ≥ 0xE0000

/-- Letters and digits in another guise, with what they stand for. -/
def guises : List (Nat × String) :=
  [(0xAA, "a"), (0xB2, "2"), (0xB3, "3"), (0xB5, "μ"), (0xB9, "1"), (0xBA, "o"), (0xBC, "1⁄4"),
   (0xBD, "1⁄2"), (0xBE, "3⁄4"), (0x17F, "s"), (0x2011, "‐"), (0x2122, "tm"), (0xFB00, "ff"),
   (0xFB01, "fi"), (0xFB02, "fl"), (0xFB03, "ffi"), (0xFB04, "ffl"), (0xFB05, "st"),
   (0xFB06, "st")]

/-- Characters of a domain name before its labels are told apart: capitals become small, full-width
and other forms ordinary, all kinds of full stop a full stop, and invisible characters vanish. What
no domain name may hold becomes a blank. -/
def mapped (c : Char) : List Char :=
  let n := c.toNat
  if n = 0x3002 ∨ n = 0xFF0E ∨ n = 0xFF61 then ['.']
  else if n = 0xAD ∨ n = 0x200B ∨ n = 0x2060 ∨ n = 0xFEFF ∨ (0xFE00 ≤ n ∧ n ≤ 0xFE0F) then []
  else if isUnfit n then [' ']
  else if 0xFF01 ≤ n ∧ n ≤ 0xFF5E then [(Char.ofNat (n - 0xFEE0)).toLower]
  else
    match guises.lookup n with
    | some text => text.toList
    | none => Text.Case.lowerChar c

/-- Whether a label may stand in a domain name as it is. No mark that joins the character before it
may come first. -/
def isFitLabel (label : List Char) : Bool :=
  label.flatMap mapped == label && ! label.head?.any fun c => 0x300 ≤ c.toNat && c.toNat ≤ 0x36F

/-- A label of a domain name in ASCII; an encoded label must decode to one that is not ASCII. -/
def asciiLabel? (label : List Char) : Option (List Char) :=
  if label.all fun c => c.toNat < 128 then
    if ['x', 'n', '-', '-'].isPrefixOf label then
      match Punycode.decode? (label.drop 4) with
      | some decoded =>
        if decoded.all (fun c => c.toNat < 128) ∨ ¬ isFitLabel decoded then none else some label
      | none => none
    else some label
  else if ¬ isFitLabel label then none
  else some (['x', 'n', '-', '-'] ++ Punycode.encode label)

/-- A domain name in ASCII. -/
def asciiDomain? (name : String) : Option String := do
  let labels ← (Text.splitAt '.' (name.toList.flatMap mapped)).mapM asciiLabel?
  let joined := ['.'].intercalate labels
  if joined.any isForbidden then none else return String.ofList joined

/-- A part of an IPv4 address: decimal, octal after a zero, hexadecimal after `0x`. The inner value
is absent when the number has more than 32 bits. -/
def ipv4Part? (part : List Char) : Option (Option Nat) :=
  let read := fun (radix : Nat) (isDigit : Char → Bool) (digits : List Char) =>
    if digits.isEmpty then some (some 0)
    else if digits.all isDigit then
      let value := digits.foldl (fun n c =>
        n * radix + (if c.isDigit then c.toNat - 48 else c.toLower.toNat - 87)) 0
      some (if value < 4294967296 then some value else none)
    else none
  match part with
  | [] => none
  | '0' :: 'x' :: digits | '0' :: 'X' :: digits =>
    read 16 (fun c => c.isDigit || ('a' ≤ c.toLower && c.toLower ≤ 'f')) digits
  | '0' :: d :: digits => read 8 (fun c => '0' ≤ c && c ≤ '7') (d :: digits)
  | digits => read 10 Char.isDigit digits

/-- Whether the last label of a domain name, a final full stop aside, is a number. -/
def endsInNumber (name : List Char) : Bool :=
  let judge := fun last : List Char =>
    (! last.isEmpty && last.all Char.isDigit) || (ipv4Part? last).isSome
  match (Text.splitAt '.' name).reverse with
  | [] :: last :: _ => judge last
  | [] :: [] => false
  | last :: _ => judge last
  | [] => false

/-- An IPv4 address of one to four parts, the last of which fills the bytes that are left. -/
def parseIPv4 (name : List Char) : Except Fault Host :=
  let parts := Text.splitAt '.' name
  let parts := if parts.getLast? = some [] then parts.dropLast else parts
  if parts.length > 4 then .error .invalidIPv4
  else match parts.mapM ipv4Part? with
    | none => .error .invalidIPv4
    | some numbers =>
      match numbers.mapM id with
      | none => .error .invalidIPv4
      | some numbers =>
        let front := numbers.dropLast
        let last := numbers.getLastD 0
        if last ≥ Nat.pow 256 (4 - front.length) ∨ front.any (· > 255) then .error .invalidIPv4
        else
          let high := (front.zipIdx).foldl (fun n part => n + part.1 * Nat.pow 256 (3 - part.2)) 0
          .ok (.ipv4 (high + last))

/-- The groups of a piece of an IPv6 address between its ends and a double colon. An IPv4 address
may stand for the last two groups. -/
def ipv6Groups? (allowIPv4 : Bool) : List (List Char) → Option (List Nat)
  | [] => some []
  | [last] =>
    if allowIPv4 ∧ last.contains '.' then
      let parts := Text.splitAt '.' last
      if parts.length = 4 ∧ parts.all (fun p =>
          ! p.isEmpty && p.length ≤ 3 && p.all Char.isDigit && (p.length = 1 || p.head? ≠ some '0'))
      then
        let numbers := parts.map fun p => p.foldl (fun n c => n * 10 + (c.toNat - 48)) 0
        match numbers with
        | [a, b, c, d] =>
          if numbers.all (· ≤ 255) then some [a * 256 + b, c * 256 + d] else none
        | _ => none
      else none
    else (group? last).map ([·])
  | first :: rest => do
    let g ← group? first
    let others ← ipv6Groups? allowIPv4 rest
    return g :: others
where
  /-- One group of up to four hexadecimal digits. -/
  group? (digits : List Char) : Option Nat :=
    if digits.isEmpty ∨ digits.length > 4 then none
    else digits.foldlM (fun n c =>
      if c.isDigit then some (n * 16 + (c.toNat - 48))
      else if 'a' ≤ c.toLower ∧ c.toLower ≤ 'f' then some (n * 16 + (c.toLower.toNat - 87))
      else none) 0

/-- The pieces of a text before and after its first double colon. -/
def splitDoubleColon : List Char → List Char → Option (List Char × List Char)
  | _, [] => none
  | before, ':' :: ':' :: rest => some (before.reverse, rest)
  | before, c :: rest => splitDoubleColon (c :: before) rest

/-- An IPv6 address: eight groups, or fewer around one double colon. -/
def parseIPv6 (text : List Char) : Except Fault Host :=
  let fields := fun piece : List Char => if piece.isEmpty then [] else Text.splitAt ':' piece
  let found : Option (List Nat) := match splitDoubleColon [] text with
    | none => do
      let groups ← ipv6Groups? true (fields text)
      if groups.length = 8 then some groups else none
    | some (before, after) => do
      let front ← ipv6Groups? false (fields before)
      let back ← ipv6Groups? true (fields after)
      let missing := 8 - (front.length + back.length)
      if front.length + back.length ≤ 7 then
        some (front ++ List.replicate missing 0 ++ back)
      else none
  match found with
  | some groups => .ok (.ipv6 groups)
  | none => .error .invalidIPv6

/-- The host of an address of a special scheme. -/
def parse (text : List Char) : Except Fault Host :=
  match text with
  | '[' :: rest =>
    if rest.getLast? = some ']' then parseIPv6 rest.dropLast else .error .invalidIPv6
  | _ =>
    match utf8? (percentDecode (String.ofList text).toUTF8.toList) with
    | none => .error .invalidDomain
    | some name =>
      match asciiDomain? name with
      | none => .error .invalidDomain
      | some ascii =>
        if ascii.isEmpty then .error .emptyHost
        else if endsInNumber ascii.toList then parseIPv4 ascii.toList
        else .ok (.domain ascii)

/-- The host of an address of any other scheme. -/
def parseOpaque (text : List Char) : Except Fault Host :=
  match text with
  | '[' :: rest =>
    if rest.getLast? = some ']' then parseIPv6 rest.dropLast else .error .invalidIPv6
  | _ =>
    if text.any fun c => (c.toNat = 0 || c = '\t' || c = '\n' || c = '\r' || c = ' '
        || "#/:<>?@[\\]^|".toList.contains c) then .error .invalidHostCharacter
    else .ok (.domain (String.ofList (percentEncode [] text)))

/-- The longest run of zero groups, as its start and length; the first of several. -/
def longestZeros (groups : List Nat) : Nat × Nat :=
  let rec go : Nat → Nat × Nat → Nat × Nat → List Nat → Nat × Nat
    | _, current, best, [] => if current.2 > best.2 then current else best
    | i, current, best, g :: rest =>
      if g = 0 then
        go (i + 1) (if current.2 = 0 then (i, 1) else (current.1, current.2 + 1)) best rest
      else go (i + 1) (0, 0) (if current.2 > best.2 then current else best) rest
  go 0 (0, 0) (0, 0) groups

/-- A group in hexadecimal. -/
def groupText (n : Nat) : String := String.ofList (Nat.toDigits 16 n)

/-- The text of a host. -/
def text : Host → String
  | .domain name => name
  | .ipv4 n =>
    s!"{n / 16777216}.{n / 65536 % 256}.{n / 256 % 256}.{n % 256}"
  | .ipv6 groups =>
    let (start, length) := longestZeros groups
    let join := fun gs : List Nat => ":".intercalate (gs.map groupText)
    if length < 2 then "[" ++ join groups ++ "]"
    else "[" ++ join (groups.take start) ++ "::" ++ join (groups.drop (start + length)) ++ "]"

/-- Whether a host is the empty text. -/
def isEmpty : Host → Bool
  | .domain name => name.isEmpty
  | _ => false

end Host

end SiteWatch.Url
