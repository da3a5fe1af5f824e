/-
# Reading selectors

A selector is read from text as a list of alternatives separated by commas. Names may hold escapes,
comments count for nothing, and whatever is still open at the end of the text is closed there. Text
that is no selector is refused, except inside `:is` and `:where`, which pass over alternatives that
they cannot read.
-/

import SiteWatch.Css.Selector
import SiteWatch.Text.Blank

namespace SiteWatch.Css

/-- The blanks of selectors. -/
def isSpace (c : Char) : Bool :=
  c = ' ' || c = '\t' || c = '\n' || c = '\r' || c.toNat = 12

/-- A text without the blanks at its front. -/
def skipSpace (text : List Char) : List Char := text.dropWhile isSpace

/-- A text without the blanks at either end. -/
def stripped (text : List Char) : List Char :=
  (((text.dropWhile isSpace).reverse).dropWhile isSpace).reverse

/-- Whether a character may begin a name. -/
def beginsName (c : Char) : Bool := c.isAlpha || c = '_' || c.toNat ≥ 128

/-- Whether a character may stand in a name. -/
def continuesName (c : Char) : Bool := beginsName c || c.isDigit || c = '-'

/-- Whether a character is a hexadecimal digit. -/
def isHexDigit (c : Char) : Bool := c.isDigit || ('a' ≤ c.toLower && c.toLower ≤ 'f')

/-- The character that hexadecimal digits stand for. -/
def hexChar (digits : List Char) : Char :=
  let n := digits.foldl (fun n c =>
    n * 16 + (if c.isDigit then c.toNat - 48 else c.toLower.toNat - 87)) 0
  if n = 0 ∨ n > 0x10FFFF ∨ (0xD800 ≤ n ∧ n ≤ 0xDFFF) then Char.ofNat 0xFFFD else Char.ofNat n

/-- Whether a character ends a line. -/
def endsLine (c : Char) : Bool := c = '\n' || c = '\r' || c.toNat = 12

/-- A text without the blank at its front that ends an escape. -/
def skipOneBlank : List Char → List Char
  | '\r' :: '\n' :: rest => rest
  | c :: rest => if isSpace c then rest else c :: rest
  | [] => []

/-- The character that an escape stands for, from the text after the backslash, and what follows. -/
def readEscape (text : List Char) : Char × List Char :=
  match text with
  | [] => (Char.ofNat 0xFFFD, [])
  | c :: rest =>
    if isHexDigit c then
      let digits := (text.take 6).takeWhile isHexDigit
      (hexChar digits, skipOneBlank (text.drop digits.length))
    else (c, rest)

/-- Whether a backslash begins an escape before a text. -/
def escapes (text : List Char) : Bool := ! text.head?.any endsLine

/-- The characters of a name and what follows them. -/
def readNameChars : Nat → List Char → List Char × List Char
  | 0, text => ([], text)
  | _, [] => ([], [])
  | fuel + 1, c :: rest =>
    if c = '\\' ∧ escapes rest then
      let (escaped, after) := readEscape rest
      let (name, after) := readNameChars fuel after
      (escaped :: name, after)
    else if continuesName c then
      let (name, after) := readNameChars fuel rest
      (c :: name, after)
    else ([], c :: rest)

/-- Whether a text begins with a name. -/
def startsName : List Char → Bool
  | '-' :: '-' :: _ => true
  | '-' :: '\\' :: rest => escapes rest
  | '-' :: c :: _ => beginsName c
  | '\\' :: rest => escapes rest
  | c :: _ => beginsName c
  | [] => false

/-- A name and what follows it. -/
def readName? (text : List Char) : Option (String × List Char) :=
  if startsName text then
    let (name, rest) := readNameChars (text.length + 1) text
    some (String.ofList name, rest)
  else none

/-- The characters of a quoted text up to its closing quote or the end, and what follows; `none`
when a line ends first. -/
def readQuoted (quote : Char) : Nat → List Char → Option (List Char × List Char)
  | 0, _ => none
  | _, [] => some ([], [])
  | fuel + 1, c :: rest =>
    if c = quote then some ([], rest)
    else if endsLine c then none
    else if c = '\\' then
      if rest.isEmpty ∨ ¬ escapes rest then readQuoted quote fuel (skipOneBlank rest)
      else
        let (escaped, after) := readEscape rest
        (readQuoted quote fuel after).map fun (text, after) => (escaped :: text, after)
    else (readQuoted quote fuel rest).map fun (text, after) => (c :: text, after)

/-- What follows a quoted text, from the text after its opening quote. -/
def afterQuoted (quote : Char) : List Char → List Char
  | [] => []
  | '\\' :: _ :: rest => afterQuoted quote rest
  | c :: rest => if c = quote then rest else afterQuoted quote rest

/-- A text without comments. Names that only a comment parts stay apart: between them stands a
character that no selector has there. -/
def withoutComments (text : List Char) : List Char :=
  let rec skip : List Char → List Char
    | [] => []
    | '*' :: '/' :: rest => rest
    | _ :: rest => skip rest
  let rec go : Nat → Bool → Option Char → List Char → List Char
    | 0, _, _, text => text
    | _, _, _, [] => []
    | fuel + 1, inName, none, '/' :: '*' :: rest =>
      let after := skip rest
      if inName ∧ after.head?.any fun c => continuesName c || c = '\\' then
        '!' :: go fuel false none after
      else go fuel inName none after
    | fuel + 1, _, none, '\\' :: c :: rest => '\\' :: c :: go fuel true none rest
    | fuel + 1, _, none, c :: rest =>
      c :: go fuel (continuesName c) (if c = '"' ∨ c = '\'' then some c else none) rest
    | fuel + 1, _, some quote, '\\' :: c :: rest =>
      '\\' :: c :: go fuel false (some quote) rest
    | fuel + 1, _, some quote, c :: rest =>
      c :: go fuel false (if c = quote then none else some quote) rest
  go (text.length + 1) false none text

/-- The closing counterpart of an opening bracket. -/
def closing? (c : Char) : Option Char :=
  if c = '(' then some ')' else if c = '[' then some ']' else if c = '\x7b' then some '\x7d'
  else none

/-- The text up to a character that stands outside of brackets and quotes, and what follows that
character; `none` when it does not occur. -/
def splitOutside (stop : Char) : Nat → List Char → List Char → List Char × Option (List Char)
  | 0, _, text => (text, none)
  | _, _, [] => ([], none)
  | fuel + 1, pending, c :: rest =>
    let onward := fun (pending : List Char) (front after : List Char) =>
      let (inside, found) := splitOutside stop fuel pending after
      (front ++ inside, found)
    if pending.isEmpty ∧ c = stop then ([], some rest)
    else if c = '\\' then onward pending (c :: rest.take 1) (rest.drop 1)
    else if c = '"' ∨ c = '\'' then
      let after := afterQuoted c rest
      onward pending (c :: rest.take (rest.length - after.length)) after
    else if pending.head? = some c then onward (pending.drop 1) [c] rest
    else
      match closing? c with
      | some closer => onward (closer :: pending) [c] rest
      | none => onward pending [c] rest

/-- The text up to the bracket that closes it or to the end, and what follows. -/
def readBlock (closer : Char) (text : List Char) : List Char × List Char :=
  let (inside, found) := splitOutside closer (text.length + 1) [] text
  (inside, found.getD [])

/-- The parts of a text between commas outside of brackets and quotes. -/
def alternatives : Nat → List Char → List (List Char)
  | 0, text => [text]
  | fuel + 1, text =>
    match splitOutside ',' (text.length + 1) [] text with
    | (front, none) => [front]
    | (front, some rest) => front :: alternatives fuel rest

/-- Attributes whose values are compared without regard to letter case in documents. -/
def looseAttributes : List String :=
  ["accept", "accept-charset", "align", "alink", "axis", "bgcolor", "charset", "checked", "clear",
   "codetype", "color", "compact", "declare", "defer", "dir", "direction", "disabled", "enctype",
   "face", "frame", "hreflang", "http-equiv", "lang", "language", "link", "media", "method",
   "multiple", "nohref", "noresize", "noshade", "nowrap", "readonly", "rel", "rev", "rules",
   "scope", "scrolling", "selected", "shape", "target", "text", "type", "valign", "valuetype",
   "vlink"]

/-- The kind of comparison at the front of a text, and what follows it. -/
def readComparison? : List Char → Option (AttributeTest × List Char)
  | '=' :: rest => some (.equals, rest)
  | '~' :: '=' :: rest => some (.word, rest)
  | '|' :: '=' :: rest => some (.dashed, rest)
  | '^' :: '=' :: rest => some (.startsWith, rest)
  | '$' :: '=' :: rest => some (.endsWith, rest)
  | '*' :: '=' :: rest => some (.contains, rest)
  | _ => none

/-- A name with what is said about its language, and what follows. -/
def readSpacedName? (text : List Char) : Option (Option SpaceTest × String × List Char) :=
  match text with
  | '*' :: '|' :: rest => (readName? rest).map fun (name, rest) => (some .any, name, rest)
  | '|' :: rest => (readName? rest).map fun (name, rest) => (some .none, name, rest)
  | _ => (readName? text).map fun (name, rest) => (none, name, rest)

/-- What is asked of an attribute, from the text between the brackets. -/
def readAttribute? (text : List Char) : Option Simple := do
  let (space, name, rest) ← readSpacedName? (skipSpace text)
  let lower := Text.asciiLower name
  let standard : CaseRule :=
    if space.isNone ∧ looseAttributes.contains lower then .ignoredInDocuments else .exact
  let rest := skipSpace rest
  if rest.isEmpty then
    return .hasAttribute (space.getD .none) name .present "" .exact
  let (test, rest) ← readComparison? rest
  let rest := skipSpace rest
  let (value, rest) ←
    match rest with
    | '"' :: rest => (readQuoted '"' (rest.length + 1) rest).map fun (v, r) => (String.ofList v, r)
    | '\'' :: rest => (readQuoted '\'' (rest.length + 1) rest).map fun (v, r) => (String.ofList v, r)
    | _ => readName? rest
  let rest := skipSpace rest
  let (case, rest) ←
    if rest.isEmpty then some (standard, [])
    else
      match readName? rest with
      | some (flag, rest) =>
        if Text.asciiLower flag == "i" then some (CaseRule.ignored, rest)
        else if Text.asciiLower flag == "s" then some (CaseRule.exact, rest)
        else none
      | none => none
  if (skipSpace rest).isEmpty then
    return .hasAttribute (space.getD .none) name test value case
  else none

/-- The number that decimal digits spell. -/
def decimal (digits : List Char) : Int :=
  digits.foldl (fun n c => n * 10 + ((c.toNat : Int) - 48)) 0

/-- A whole number with or without a sign, and nothing else. -/
def readInteger? (text : List Char) : Option Int :=
  let digits? := fun digits : List Char =>
    if digits.isEmpty ∨ ¬ digits.all Char.isDigit then none else some (decimal digits)
  match text with
  | '-' :: rest => (digits? rest).map (- ·)
  | '+' :: rest => digits? rest
  | _ => digits? text

/-- A sequence of positions: `odd`, `even`, a number, or a multiple of `n` with an offset. -/
def readPositions? (text : List Char) : Option (Int × Int) :=
  let text := (stripped text).map Char.toLower
  if text = "odd".toList then some (2, 1)
  else if text = "even".toList then some (2, 0)
  else
    match text.dropWhile (· != 'n') with
    | [] => (readInteger? text).map fun offset => (0, offset)
    | _ :: rest =>
      let front := text.takeWhile (· != 'n')
      let step? : Option Int :=
        if front = [] ∨ front = ['+'] then some 1
        else if front = ['-'] then some (-1)
        else readInteger? front
      let rest := stripped rest
      let offset? : Option Int :=
        match rest with
        | [] => some 0
        | '+' :: digits => if (stripped digits).head?.any Char.isDigit
            then readInteger? (stripped digits) else none
        | '-' :: digits => if (stripped digits).head?.any Char.isDigit
            then (readInteger? (stripped digits)).map (- ·) else none
        | _ => none
      match step?, offset? with
      | some step, some offset => some (step, offset)
      | _, _ => none

/-- The property that a word after a colon names. -/
def property? (word : String) : Option Simple :=
  match Text.asciiLower word with
  | "first-child" => some (.position ⟨0, 1, false, false⟩)
  | "last-child" => some (.position ⟨0, 1, false, true⟩)
  | "only-child" => some (.only false)
  | "first-of-type" => some (.position ⟨0, 1, true, false⟩)
  | "last-of-type" => some (.position ⟨0, 1, true, true⟩)
  | "only-of-type" => some (.only true)
  | "root" | "scope" => some .root
  | "empty" => some .empty
  | _ => none

/-- What is asked about the language and name of an element at the front of a text, and what
follows; nothing is asked when the text begins otherwise. -/
def readType? (text : List Char) : Option (List Simple × List Char) :=
  match text with
  | '*' :: '|' :: '*' :: rest => some ([.space .any], rest)
  | '*' :: '|' :: rest => (readName? rest).map fun (name, rest) => ([.space .any, .named name], rest)
  | '*' :: rest => some ([.space .any], rest)
  | '|' :: '*' :: rest => some ([.space .none], rest)
  | '|' :: rest => (readName? rest).map fun (name, rest) => ([.space .none, .named name], rest)
  | _ =>
    match readName? text with
    | some (_, '|' :: _) => none
    | some (name, rest) => some ([.named name], rest)
    | none => some ([], text)

mutual

/-- The simple parts of a compound at the front of a text, and what follows. -/
def readParts (fuel : Nat) (inHas : Bool) (text : List Char) : Option (List Simple × List Char) :=
  match fuel, text with
  | 0, _ => none
  | _, [] => some ([], [])
  | fuel + 1, '#' :: rest => do
    let (name, rest) ← readName? rest
    let (parts, rest) ← readParts fuel inHas rest
    return (.id name :: parts, rest)
  | fuel + 1, '.' :: rest => do
    let (name, rest) ← readName? rest
    let (parts, rest) ← readParts fuel inHas rest
    return (.hasClass name :: parts, rest)
  | fuel + 1, '[' :: rest => do
    let (inside, rest) := readBlock ']' rest
    let part ← readAttribute? inside
    let (parts, rest) ← readParts fuel inHas rest
    return (part :: parts, rest)
  | fuel + 1, ':' :: rest => do
    let (word, rest) ← readName? rest
    match rest with
    | '(' :: rest =>
      let (inside, rest) := readBlock ')' rest
      let part ← readFunction fuel inHas (Text.asciiLower word) inside
      let (parts, rest) ← readParts fuel inHas rest
      return (part :: parts, rest)
    | rest =>
      let part ← property? word
      let (parts, rest) ← readParts fuel inHas rest
      return (part :: parts, rest)
  | _, text => some ([], text)

/-- The condition that a function after a colon names, with the text in its parentheses. -/
def readFunction (fuel : Nat) (inHas : Bool) (word : String) (inside : List Char) :
    Option Simple :=
  match fuel with
  | 0 => none
  | fuel + 1 =>
    let nth := fun ofType fromEnd =>
      (readPositions? inside).map fun (step, offset) =>
        Simple.position ⟨step, offset, ofType, fromEnd⟩
    match word with
    | "nth-child" => nth false false
    | "nth-last-child" => nth false true
    | "nth-of-type" => nth true false
    | "nth-last-of-type" => nth true true
    | "not" => (readList fuel inHas false false (alternatives inside.length inside)).map .matchesNone
    | "is" | "where" =>
      (readList fuel inHas true false (alternatives inside.length inside)).map .matchesAny
    | "has" =>
      if inHas then none
      else (readList fuel true false true (alternatives inside.length inside)).map .has
    | _ => none

/-- Alternatives; those that cannot be read are passed over when `forgiving`. They begin at an
anchor when `relative`. -/
def readList (fuel : Nat) (inHas forgiving relative : Bool) (texts : List (List Char)) :
    Option (List Complex) :=
  match fuel, texts with
  | 0, _ => none
  | _, [] => some []
  | fuel + 1, text :: rest =>
    match readAlternative fuel inHas relative (stripped text), forgiving with
    | some selector, _ => (readList fuel inHas forgiving relative rest).map (selector :: ·)
    | none, true => readList fuel inHas forgiving relative rest
    | none, false => none

/-- One alternative. -/
def readAlternative (fuel : Nat) (inHas relative : Bool) (text : List Char) : Option Complex :=
  match fuel with
  | 0 => none
  | fuel + 1 =>
    if relative then
      match text with
      | '>' :: rest => readChain fuel inHas (some (.child, .last [.anchor])) (skipSpace rest)
      | '+' :: rest => readChain fuel inHas (some (.nextSibling, .last [.anchor])) (skipSpace rest)
      | '~' :: rest => readChain fuel inHas (some (.laterSibling, .last [.anchor])) (skipSpace rest)
      | _ => readChain fuel inHas (some (.descendant, .last [.anchor])) text
    else readChain fuel inHas none text

/-- The compounds of an alternative after those before them. -/
def readChain (fuel : Nat) (inHas : Bool) (before : Option (Combinator × Complex))
    (text : List Char) : Option Complex :=
  match fuel with
  | 0 => none
  | fuel + 1 => do
    let (type, rest) ← readType? text
    let (parts, rest) ← readParts fuel inHas rest
    let compound := type ++ parts
    if compound.isEmpty then none
    else
      let selector : Complex :=
        match before with
        | none => .last compound
        | some (combinator, earlier) => .after compound combinator earlier
      match skipSpace rest with
      | [] => some selector
      | '>' :: after => readChain fuel inHas (some (.child, selector)) (skipSpace after)
      | '+' :: after => readChain fuel inHas (some (.nextSibling, selector)) (skipSpace after)
      | '~' :: after => readChain fuel inHas (some (.laterSibling, selector)) (skipSpace after)
      | after =>
        if rest.head?.any isSpace then
          readChain fuel inHas (some (.descendant, selector)) after
        else none

end

/-- The alternatives of a selector; `none` when the text is no selector. -/
def read? (text : String) : Option (List Complex) :=
  let chars := withoutComments (text.toList.map fun c =>
    if c.toNat = 0 then Char.ofNat 0xFFFD else c)
  readList (4 * chars.length + 16) false false false (alternatives (chars.length + 1) chars)

end SiteWatch.Css
