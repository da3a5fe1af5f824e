/-
# Texts of requests

What stands after the question mark of a request, and the names of document types.
-/

import SiteWatch.Text.Blank
import SiteWatch.Text.Lenient
import SiteWatch.Url.Percent

namespace SiteWatch.Server

/-- A name or value in a query: a plus sign stands for a blank. -/
def queryText (text : String) : String :=
  Text.lenient (Url.percentDecode (text.replace "+" " ").toUTF8.toList)

/-- The names and values of a query. -/
def queryPairs (query : String) : List (String × String) :=
  ((query.splitOn "&").filter (! ·.isEmpty)).map fun piece =>
    match piece.splitOn "=" with
    | name :: rest => (queryText name, queryText ("=".intercalate rest))
    | [] => ("", "")

/-- The one value of a name, if there is any; an error if there are several. -/
def queryValue (name : String) (query : String) : Except String (Option String) :=
  match (queryPairs query).filter (·.1 == name) with
  | [] => .ok none
  | [pair] => .ok (some pair.2)
  | _ => .error s!"Failed to deserialize query string: duplicate field \x60{name}\x60"

/-- Whether a character may stand in the name of a document type. -/
def isTokenChar (c : Char) : Bool :=
  c.isAlphanum || "!#$%&'*+-.^_\x60|~".toList.contains c

/-- What follows a token, if there is one; it may be empty. -/
def token (text : List Char) : List Char × List Char :=
  (text.takeWhile isTokenChar, text.dropWhile isTokenChar)

/-- What follows a quoted value: blanks and the end, or the next parameter. -/
def afterQuoted : List Char → Option (List Char)
  | [] => none
  | '"' :: rest =>
    match rest.dropWhile (· = ' ') with
    | [] => some []
    | ';' :: more => some more
    | _ => none
  | c :: rest => if c.toNat < 32 ∨ c.toNat = 127 then none else afterQuoted rest

/-- Whether parameters are well formed. Each is a name and a value, which may be quoted. -/
def areParameters : Nat → List Char → Bool
  | 0, _ => false
  | fuel + 1, text =>
    let text := text.dropWhile (· = ' ')
    if text.isEmpty then true
    else
      match token text with
      | ([], _) => false
      | (_, '=' :: '"' :: '"' :: _) => false
      | (_, '=' :: '"' :: quoted) => (afterQuoted quoted).any (areParameters fuel)
      | (_, '=' :: value) =>
        match token value with
        | (_, []) => true
        | (_ :: _, ';' :: more) => areParameters fuel more
        | _ => false
      | _ => false

/-- A subtype with what follows its last plus sign, where that does not stand first. -/
def splitSuffix (subtype : List Char) : List Char × Option (List Char) :=
  let suffix := (subtype.reverse.takeWhile (· ≠ '+')).reverse
  let stem := subtype.take (subtype.length - suffix.length - 1)
  if stem.isEmpty then (subtype, none) else (stem, some suffix)

/-- Whether the name of a document type stands for JSON. -/
def namesJson (contentType : String) : Bool :=
  match token (Text.asciiLower contentType).toList with
  | (main, '/' :: rest) =>
    let (subtype, parameters) := token rest
    let (stem, suffix) := splitSuffix subtype
    let json := "json".toList
    main == "application".toList && (stem == json || suffix == some json)
      && (match parameters with
        | [] => true
        | ';' :: more => areParameters (more.length + 1) more
        | _ => false)
  | _ => false

end SiteWatch.Server
