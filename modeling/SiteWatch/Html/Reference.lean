/-
# Character references

What an ampersand in a document stands for: a character named or numbered, or just itself. The
longest name counts. In the value of an attribute a name without its semicolon is left alone when
a letter, a digit or an equals sign follows.
-/

import SiteWatch.Html.Entities
import SiteWatch.Text.Blank

namespace SiteWatch.Html

/-- A name that stands for characters. -/
structure Entity where
  name : List Char
  /-- The name counts only with a semicolon after it. -/
  needsSemicolon : Bool
  characters : List Char

namespace Entity

/-- The number that hexadecimal digits spell. -/
def hexValue (digits : List Char) : Nat :=
  digits.foldl (fun n c =>
    n * 16 + (if c.isDigit then c.toNat - 48 else c.toLower.toNat - 87)) 0

/-- An entry of the table. -/
def ofEntry (entry : List Char) : Entity :=
  let isMark := fun c : Char => c = '=' || c = '!'
  let rest := entry.dropWhile (! isMark ·)
  { name := entry.takeWhile (! isMark ·), needsSemicolon := rest.head? = some '=',
    characters := (Text.splitAt ',' (rest.drop 1)).map fun code => Char.ofNat (hexValue code) }

/-- All entities. -/
def all : List Entity := (Text.pieces (· = ' ') Entities.table.toList).map ofEntry

/-- What of a name stands at the beginning of a text, the semicolon included; `none` when the name
does not stand there as it must. -/
def spelling? (entity : Entity) (text : List Char) : Option Nat :=
  if entity.name.isPrefixOf text then
    if (text.drop entity.name.length).head? = some ';' then some (entity.name.length + 1)
    else if entity.needsSemicolon then none
    else some entity.name.length
  else none

/-- The longest name at the beginning of a text: its length and its characters. -/
def longest? (text : List Char) : Option (Nat × List Char) :=
  all.foldl (fun best entity =>
    match entity.spelling? text with
    | none => best
    | some length =>
      match best with
      | some (found, _) => if length > found then some (length, entity.characters) else best
      | none => some (length, entity.characters)) none

end Entity

/-- The characters that the numbers from 128 to 159 stand for in old documents. -/
def oldCharacters : List Nat :=
  [0x20AC, 0x81, 0x201A, 0x192, 0x201E, 0x2026, 0x2020, 0x2021, 0x2C6, 0x2030, 0x160, 0x2039,
   0x152, 0x8D, 0x17D, 0x8F, 0x90, 0x2018, 0x2019, 0x201C, 0x201D, 0x2022, 0x2013, 0x2014, 0x2DC,
   0x2122, 0x161, 0x203A, 0x153, 0x9D, 0x17E, 0x178]

/-- The character that a number stands for. -/
def numbered (n : Nat) : Char :=
  if n = 0 ∨ n > 0x10FFFF ∨ (0xD800 ≤ n ∧ n ≤ 0xDFFF) then Char.ofNat 0xFFFD
  else if 0x80 ≤ n ∧ n ≤ 0x9F then Char.ofNat (oldCharacters.getD (n - 0x80) 0xFFFD)
  else Char.ofNat n

/-- The character that digits stand for, and what follows them. -/
def numberedReference (isDigit : Char → Bool) (radix : Nat) (text : List Char) :
    Option (List Char × List Char) :=
  let digits := text.takeWhile isDigit
  let rest := text.dropWhile isDigit
  if digits.isEmpty then none
  else
    let value := digits.foldl (fun n c =>
      min 0x110000 (n * radix + (if c.isDigit then c.toNat - 48 else c.toLower.toNat - 87))) 0
    some ([numbered value], if rest.head? = some ';' then rest.drop 1 else rest)

/-- The characters that a reference stands for, from the text after its ampersand, and what follows
it; `none` when the ampersand is just itself. -/
def readReference (inAttribute : Bool) (text : List Char) : Option (List Char × List Char) :=
  match text with
  | '#' :: x :: rest =>
    if x = 'x' || x = 'X' then
      numberedReference (fun c => c.isDigit || ('a' ≤ c.toLower && c.toLower ≤ 'f')) 16 rest
    else numberedReference Char.isDigit 10 (x :: rest)
  | c :: _ =>
    if c.isAlphanum then
      match Entity.longest? text with
      | none => none
      | some (length, characters) =>
        let rest := text.drop length
        let withoutSemicolon := (text.drop (length - 1)).head? ≠ some ';'
        if inAttribute ∧ withoutSemicolon ∧
            rest.head?.any (fun c => c = '=' || c.isAlphanum) then none
        else some (characters, rest)
    else none
  | [] => none

/-- A text with its references replaced. -/
def replaceReferences (inAttribute : Bool) (text : List Char) : List Char :=
  let rec go : Nat → List Char → List Char
    | 0, _ => []
    | _, [] => []
    | fuel + 1, '&' :: rest =>
      match readReference inAttribute rest with
      | some (characters, after) => characters ++ go fuel after
      | none => '&' :: go fuel rest
    | fuel + 1, c :: rest => c :: go fuel rest
  go text.length text

end SiteWatch.Html
