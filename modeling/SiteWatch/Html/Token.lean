/-
# Tokens

A document cut into tags and text. How text is cut depends on the element that it stands in: most
elements hold markup; titles and text areas hold text with references; scripts, styles and frames
hold text as it is, up to their end tag. Comments are passed over. Line breaks are made uniform and
a mark of byte order at the front is left out.
-/

import SiteWatch.Html.Reference

namespace SiteWatch.Html

/-- Names of attributes with their values, the first of equal names. -/
abbrev Attributes := List (String × String)

/-- A piece of a document. -/
inductive Token where
  /-- Whether the type of the document asks for the treatment of old documents. -/
  | doctype (old : Bool)
  | startTag (name : String) (attributes : Attributes) (selfClosing : Bool)
  | endTag (name : String)
  /-- Text that holds only blanks. -/
  | blanks (text : List Char)
  /-- Text that holds neither blanks nor null characters. -/
  | text (text : List Char)
  | null
  | finish
deriving Repr

/-- How text is cut. -/
inductive TextMode where
  | markup
  /-- Text with references, up to an end tag. -/
  | replaceable (name : String)
  /-- Text as it is, up to an end tag. -/
  | raw (name : String)
  /-- The text of a script, up to its end tag outside of what the script comments out. -/
  | script
  /-- Text as it is, up to the end of the document. -/
  | plain
deriving DecidableEq, Repr

/-- The blanks of documents. -/
def isSpace (c : Char) : Bool :=
  c = ' ' || c = '\n' || c = '\t' || c.toNat = 12 || c = '\r'

/-- A document with uniform line breaks and without a mark of byte order. -/
def normalized (document : List Char) : List Char :=
  let rec go : List Char → List Char
    | [] => []
    | '\r' :: '\n' :: rest => '\n' :: go rest
    | '\r' :: rest => '\n' :: go rest
    | c :: rest => c :: go rest
  match document with
  | c :: rest => if c.toNat = 0xFEFF then go rest else go (c :: rest)
  | [] => []

/-- A character of a name: small, and never null. -/
def nameChar (c : Char) : Char := if c.toNat = 0 then Char.ofNat 0xFFFD else c.toLower

/-- A character of a value: never null. -/
def valueChar (c : Char) : Char := if c.toNat = 0 then Char.ofNat 0xFFFD else c

/-- The value of an attribute, from the text after the equals sign, and what follows; `none` when
the document ends first. -/
def readAttributeValue (text : List Char) : Option (String × List Char) :=
  let quotedValue := fun (quote : Char) (rest : List Char) =>
    match rest.dropWhile (· != quote) with
    | [] => none
    | _ :: after => some (rest.takeWhile (· != quote), after)
  let found :=
    match text.dropWhile isSpace with
    | '"' :: rest => quotedValue '"' rest
    | '\'' :: rest => quotedValue '\'' rest
    | '>' :: rest => some ([], '>' :: rest)
    | rest =>
      let ends := fun c : Char => isSpace c || c = '>'
      some (rest.takeWhile (! ends ·), rest.dropWhile (! ends ·))
  found.map fun (value, rest) =>
    (String.ofList (replaceReferences true (value.map valueChar)), rest)

/-- The attributes of a tag, whether it closes itself, and what follows it; `none` when the
document ends first. -/
def readAttributes : Nat → Attributes → List Char → Option (Attributes × Bool × List Char)
  | 0, _, _ => none
  | fuel + 1, found, text =>
    match text.dropWhile isSpace with
    | [] => none
    | '>' :: rest => some (found, false, rest)
    | '/' :: '>' :: rest => some (found, true, rest)
    | '/' :: rest => readAttributes fuel found rest
    | c :: rest =>
      let ends := fun c : Char => isSpace c || c = '/' || c = '>' || c = '='
      let name := String.ofList ((c :: rest.takeWhile (! ends ·)).map nameChar)
      let add := fun value => if found.any (·.1 == name) then found else found ++ [(name, value)]
      match (rest.dropWhile (! ends ·)).dropWhile isSpace with
      | '=' :: after =>
        match readAttributeValue after with
        | none => none
        | some (value, after) => readAttributes fuel (add value) after
      | after => readAttributes fuel (add "") after

/-- The tag whose name begins a text, and what follows it; `none` when the document ends first. -/
def readTag (text : List Char) : Option (String × Attributes × Bool × List Char) :=
  let ends := fun c : Char => isSpace c || c = '/' || c = '>'
  let name := String.ofList ((text.takeWhile (! ends ·)).map nameChar)
  (readAttributes (text.length + 1) [] (text.dropWhile (! ends ·))).map fun found => (name, found)

/-- What follows a comment, from the text after its opening. -/
def afterComment : List Char → List Char
  | '>' :: rest => rest
  | '-' :: '>' :: rest => rest
  | text => go text
where
  /-- What follows the end of a comment. -/
  go : List Char → List Char
    | [] => []
    | '-' :: '-' :: '>' :: rest => rest
    | '-' :: '-' :: '!' :: '>' :: rest => rest
    | _ :: rest => go rest

/-- What follows the next closing angle bracket. -/
def afterBracket (text : List Char) : List Char := (text.dropWhile (· != '>')).drop 1

/-- Beginnings of public identifiers of old document types. -/
def oldPublicFronts : List String :=
  ["+//silmaril//dtd html pro v0r11 19970101//", "-//as//dtd html 3.0 aswedit + extensions//",
   "-//advasoft ltd//dtd html 3.0 aswedit + extensions//", "-//ietf//dtd html",
   "-//metrius//dtd metrius presentational//", "-//microsoft//dtd internet explorer",
   "-//netscape comm. corp.//dtd", "-//o'reilly and associates//dtd html",
   "-//softquad//dtd hotmetal pro", "-//softquad software//dtd hotmetal pro",
   "-//spyglass//dtd html 2.0 extended//", "-//sun microsystems corp.//dtd hotjava",
   "-//w3c//dtd html 3", "-//w3c//dtd html 4.0 frameset//",
   "-//w3c//dtd html 4.0 transitional//", "-//w3c//dtd html experimental",
   "-//w3c//dtd w3 html//", "-//w3o//dtd w3 html", "-//webtechs//dtd mozilla html"]

/-- A quoted identifier of a document type and what follows it. -/
def readIdentifier (text : List Char) : Option (List Char × List Char) :=
  match text.dropWhile isSpace with
  | '"' :: rest => some (rest.takeWhile (· != '"'), (rest.dropWhile (· != '"')).drop 1)
  | '\'' :: rest => some (rest.takeWhile (· != '\''), (rest.dropWhile (· != '\'')).drop 1)
  | _ => none

/-- Whether a document type, given by the text between `<!doctype` and the bracket, is old. -/
def isOldDoctype (body : List Char) : Bool :=
  let body := body.map Char.toLower
  let body := body.dropWhile isSpace
  let name := body.takeWhile (! isSpace ·)
  let rest := (body.dropWhile (! isSpace ·)).dropWhile isSpace
  let isOldPublic := fun (id : List Char) (hasSystem : Bool) =>
    oldPublicFronts.any (·.toList.isPrefixOf id)
      || [ "-//w3o//dtd w3 html strict 3.0//en//", "-/w3c/dtd html 4.0 transitional/en",
           "html" ].any (·.toList == id)
      || (! hasSystem &&
        ["-//w3c//dtd html 4.01 frameset//", "-//w3c//dtd html 4.01 transitional//"].any
          (·.toList.isPrefixOf id))
  if String.ofList name != "html" then true
  else if "public".toList.isPrefixOf rest then
    match readIdentifier (rest.drop 6) with
    | none => true
    | some (publicId, after) =>
      match readIdentifier after with
      | some (systemId, _) =>
        isOldPublic publicId true
          || String.ofList systemId == "http://www.ibm.com/data/dtd/v11/ibmxhtml1-transitional.dtd"
      | none => isOldPublic publicId false || ! (after.dropWhile isSpace).isEmpty
  else if "system".toList.isPrefixOf rest then
    match readIdentifier (rest.drop 6) with
    | none => true
    | some (systemId, _) =>
      String.ofList systemId == "http://www.ibm.com/data/dtd/v11/ibmxhtml1-transitional.dtd"
  else ! rest.isEmpty

/-- Text as tokens: blanks, other text and null characters apart. -/
def textTokens (text : List Char) : List Token :=
  let rec go : Nat → List Char → List Token
    | 0, _ => []
    | _, [] => []
    | fuel + 1, c :: rest =>
      if isSpace c then
        .blanks ((c :: rest).takeWhile isSpace) :: go fuel ((c :: rest).dropWhile isSpace)
      else if c.toNat = 0 then .null :: go fuel rest
      else
        let inside := fun c : Char => ! (isSpace c || c.toNat = 0)
        .text ((c :: rest).takeWhile inside) :: go fuel ((c :: rest).dropWhile inside)
  go text.length text

/-- Whether a text begins with the end tag of an element, the angle bracket and slash aside. -/
def beginsEndTag (name : String) (text : List Char) : Bool :=
  let count := name.length
  ((text.take count).map Char.toLower == name.toList)
    && (text.drop count).head?.any (fun c => isSpace c || c = '/' || c = '>')

/-- The text up to the end tag of an element, and what follows the tag; all the text when the
element never ends. -/
def splitRaw (name : String) : List Char → List Char × Option (List Char)
  | [] => ([], none)
  | '<' :: '/' :: rest =>
    if beginsEndTag name rest then ([], some rest)
    else
      let (text, after) := splitRaw name ('/' :: rest)
      ('<' :: text, after)
  | c :: rest =>
    let (text, after) := splitRaw name rest
    (c :: text, after)

/-- How far the text of a script is commented out. -/
inductive ScriptState where
  | visible
  /-- After `<!--`. -/
  | commented
  /-- After `<script` in a comment. -/
  | nested
deriving DecidableEq

/-- The text of a script up to its end tag, and what follows `</`. -/
def splitScript : ScriptState → List Char → List Char × Option (List Char)
  | _, [] => ([], none)
  | state, '<' :: rest =>
    if state ≠ .nested ∧ rest.head? = some '/' ∧ beginsEndTag "script" (rest.drop 1) then
      ([], some (rest.drop 1))
    else
      let next : ScriptState :=
        if state = .visible then
          if ['!', '-', '-'].isPrefixOf rest then
            if ['!', '-', '-', '>'].isPrefixOf rest ∨ ['!', '-', '-', '-', '>'].isPrefixOf rest then
              .visible
            else .commented
          else .visible
        else if state = .commented then
          if beginsEndTag "script" rest then .nested else .commented
        else if rest.head? = some '/' ∧ beginsEndTag "script" (rest.drop 1) then .commented
        else .nested
      let (text, after) := splitScript next rest
      ('<' :: text, after)
  | state, c :: rest =>
    let next : ScriptState :=
      if state ≠ .visible ∧ c = '-' ∧ ['-', '>'].isPrefixOf rest then .visible else state
    let (text, after) := splitScript next rest
    (c :: text, after)

/-- An end tag, from the text after `</`, and what follows; the document may end first. -/
def endTagTokens (text : List Char) : List Token × List Char :=
  match readTag text with
  | some (name, _, _, rest) => ([.endTag name], rest)
  | none => ([], [])

/-- The text up to the next markup. -/
def splitMarkup : List Char → List Char × List Char
  | [] => ([], [])
  | '<' :: c :: rest =>
    if c.isAlpha ∨ c = '/' ∧ ¬ rest.isEmpty ∨ c = '!' ∨ c = '?' then ([], '<' :: c :: rest)
    else
      let (text, after) := splitMarkup (c :: rest)
      ('<' :: text, after)
  | c :: rest =>
    let (text, after) := splitMarkup rest
    (c :: text, after)

/-- The text of a section of character data, and what follows it. -/
def splitCharacterData : List Char → List Char × List Char
  | [] => ([], [])
  | ']' :: ']' :: '>' :: rest => ([], rest)
  | c :: rest =>
    let (text, after) := splitCharacterData rest
    (c :: text, after)

/-- The tokens of one piece of markup, and what follows it. `foreign` says whether sections of
character data may stand here. -/
def readMarkup (foreign : Bool) (text : List Char) : List Token × List Char :=
  match text with
  | '<' :: '/' :: c :: rest =>
    if c.isAlpha then endTagTokens (c :: rest)
    else if c = '>' then ([], rest)
    else ([], afterBracket (c :: rest))
  | '<' :: '!' :: rest =>
    if ['-', '-'].isPrefixOf rest then ([], afterComment (rest.drop 2))
    else if (rest.take 7).map Char.toLower == "doctype".toList then
      ([.doctype (isOldDoctype ((rest.drop 7).takeWhile (· != '>')))], afterBracket rest)
    else if foreign ∧ "[CDATA[".toList.isPrefixOf rest then
      let (data, after) := splitCharacterData (rest.drop 7)
      (textTokens data, after)
    else ([], afterBracket rest)
  | '<' :: '?' :: rest => ([], afterBracket rest)
  | '<' :: rest =>
    match readTag rest with
    | some (name, attributes, selfClosing, after) =>
      ([.startTag name attributes selfClosing], after)
    | none => ([], [])
  | _ => ([], [])

/-- The next tokens of a document, and what follows them. -/
def nextTokens (mode : TextMode) (foreign : Bool) (text : List Char) : List Token × List Char :=
  match mode with
  | .markup =>
    match splitMarkup text with
    | ([], markup) => readMarkup foreign markup
    | (front, markup) => (textTokens (replaceReferences false front), markup)
  | .plain => (textTokens (text.map valueChar), [])
  | .replaceable name =>
    let (inside, after) := splitRaw name text
    let (tag, rest) := (after.map endTagTokens).getD ([], [])
    (textTokens (replaceReferences false (inside.map valueChar)) ++ tag, rest)
  | .raw name =>
    let (inside, after) := splitRaw name text
    let (tag, rest) := (after.map endTagTokens).getD ([], [])
    (textTokens (inside.map valueChar) ++ tag, rest)
  | .script =>
    let (inside, after) := splitScript .visible text
    let (tag, rest) := (after.map endTagTokens).getD ([], [])
    (textTokens (inside.map valueChar) ++ tag, rest)

end SiteWatch.Html
