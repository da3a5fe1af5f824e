/-
# Blanks

The characters with the Unicode property White_Space, and the operations that cut a text at them.
-/

namespace SiteWatch.Text

/-- A character with the property White_Space. -/
def isBlank (c : Char) : Bool :=
  let n := c.toNat
  (9 ≤ n && n ≤ 13) || n == 32 || n == 0x85 || n == 0xA0 || n == 0x1680
    || (0x2000 ≤ n && n ≤ 0x200A) || n == 0x2028 || n == 0x2029 || n == 0x202F
    || n == 0x205F || n == 0x3000

/-- A text without the blanks at its front. -/
def dropBlanks (chars : List Char) : List Char := chars.dropWhile isBlank

/-- A text without the blanks at either end. -/
def trimmed (chars : List Char) : List Char :=
  ((chars.dropWhile isBlank).reverse.dropWhile isBlank).reverse

/-- A text without the blanks at either end. -/
def trim (text : String) : String := String.ofList (trimmed text.toList)

/-- Whether a text holds nothing but blanks. -/
def isVoid (text : String) : Bool := text.toList.all isBlank

/-- The longest pieces of a text that hold no separator, empty ones left out. -/
def pieces (isSeparator : Char → Bool) (chars : List Char) : List (List Char) :=
  let rec go : List Char → List Char → List (List Char)
    | piece, [] => if piece.isEmpty then [] else [piece.reverse]
    | piece, c :: rest =>
      if isSeparator c then
        if piece.isEmpty then go [] rest else piece.reverse :: go [] rest
      else go (c :: piece) rest
  go [] chars

/-- A text with every run of blanks made one space and none at the ends. -/
def collapseBlanks (text : String) : String :=
  " ".intercalate ((pieces isBlank text.toList).map String.ofList)

/-- Every ASCII capital letter made small. -/
def asciiLower (text : String) : String := text.map Char.toLower

/-- Whether a text ends with another. -/
def endsWith (text suffix : String) : Bool := suffix.toList.isSuffixOf text.toList

/-- Whether a text begins with another. -/
def startsWith (text front : String) : Bool := front.toList.isPrefixOf text.toList

/-- What follows a given beginning, if the text has it. -/
def after? (front : String) (text : String) : Option String :=
  if startsWith text front then some (String.ofList (text.toList.drop front.length)) else none

/-- A text without any number of copies of a given beginning; the empty beginning is not cut. -/
def dropFronts (front : List Char) (text : List Char) : List Char :=
  let rec go : Nat → List Char → List Char
    | 0, rest => rest
    | more + 1, rest =>
      if front.isPrefixOf rest then go more (rest.drop front.length) else rest
  if front.isEmpty then text else go text.length text

/-- Whether a text holds another somewhere. -/
def holds (text piece : String) : Bool :=
  let rec go (piece : List Char) : List Char → Bool
    | [] => piece.isEmpty
    | c :: rest => piece.isPrefixOf (c :: rest) || go piece rest
  go piece.toList text.toList

/-- The parts of a text between the occurrences of a character. -/
def splitAt (separator : Char) (chars : List Char) : List (List Char) :=
  let rec go : List Char → List Char → List (List Char)
    | piece, [] => [piece.reverse]
    | piece, c :: rest =>
      if c = separator then piece.reverse :: go [] rest else go (c :: piece) rest
  go [] chars

end SiteWatch.Text
