/-
# Extractors

A named rule for pulling one field out of a document: which elements to look at, whether to take
their text or an attribute, the first or all of them, and what to do to each piece of text found.
-/

import SiteWatch.Json.Record

namespace SiteWatch

open Json (Reader Record)

/-- What is done to each piece of text after its blanks are trimmed. -/
inductive Transform where
  | trim
  | lowercase
  | uppercase
  | collapseWhitespace
  /-- The first number in the text, as a JSON number. -/
  | number
  /-- A link, made absolute against the address of the document. -/
  | absoluteUrl
deriving DecidableEq, Repr, Inhabited

/-- A named rule for pulling one field out of a document. -/
structure Extractor where
  name : String
  selector : String
  /-- The attribute to take; the text of the element when absent. -/
  attributeName : Option String := none
  multiple : Bool := false
  required : Bool := false
  transform : Option Transform := none
deriving DecidableEq, Repr, Inhabited

namespace Transform

/-- The words for the transforms in JSON. -/
def words : List (String × Transform) :=
  [("trim", trim), ("lowercase", lowercase), ("uppercase", uppercase),
   ("collapseWhitespace", collapseWhitespace), ("number", number), ("absoluteUrl", absoluteUrl)]

def word : Transform → String
  | trim => "trim"
  | lowercase => "lowercase"
  | uppercase => "uppercase"
  | collapseWhitespace => "collapseWhitespace"
  | number => "number"
  | absoluteUrl => "absoluteUrl"

end Transform

namespace Extractor

/-- An extractor as JSON. -/
def toJson (e : Extractor) : Json :=
  .object ([("name", .string e.name), ("selector", .string e.selector)]
    ++ Json.member? "attribute" .string e.attributeName
    ++ [("multiple", .bool e.multiple), ("required", .bool e.required)]
    ++ Json.member? "transform" (fun transform => .string transform.word) e.transform)

/-- The fields of an extractor. -/
def record : Record Extractor :=
  (fun name selector attributeName multiple required transform =>
      { name, selector, attributeName, multiple, required, transform : Extractor })
    <$> Record.required "name" Json.readText
    <*> Record.required "selector" Json.readText
    <*> Record.optional "attribute" Json.readText
    <*> Record.defaulted "multiple" false Json.readBool
    <*> Record.defaulted "required" false Json.readBool
    <*> Record.optional "transform" (Json.readChoice Transform.words)

def read : Reader Extractor := record.read

end Extractor

end SiteWatch
