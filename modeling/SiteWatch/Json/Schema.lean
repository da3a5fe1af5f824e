/-
# Schemas

A small language for the shape of JSON documents: the types of a value, a least length, a least
number, a closed list of words, the members of objects and the items of arrays. Checking a document
gives all violations: at an object first the missing members in the order of the schema, then the
violations inside its members in the order of their names; at an array those of its items in order.
A value of a wrong type is not looked into.
-/

import SiteWatch.Json.Mismatch

namespace SiteWatch.Json

/-- The types of JSON values; an integer may be written with a fraction of zeros. -/
inductive Kind where
  | array
  | boolean
  | integer
  | null
  | object
  | string
deriving DecidableEq, Repr

/-- The name of a type. -/
def Kind.name : Kind → String
  | array => "array"
  | boolean => "boolean"
  | integer => "integer"
  | null => "null"
  | object => "object"
  | string => "string"

/-- The shape of a value. -/
inductive Schema where
  /-- One of several types. -/
  | typed (kinds : List Kind)
  /-- A text of at least so many characters. -/
  | textOf (minLength : Nat)
  /-- An integer not below a bound. -/
  | integerFrom (minimum : Nat)
  /-- One of a list of words. -/
  | oneOf (words : List String)
  /-- An array of values of one shape. -/
  | listOf (items : Schema)
  /-- An object: the members it must have, and the shapes of members it may have. -/
  | objectOf (required : List String) (properties : List (String × Schema))

namespace Schema

/-- Whether a value is of a type. -/
def hasKind : Kind → Json → Bool
  | .array, .array _ => true
  | .boolean, .bool _ => true
  | .integer, .int _ => true
  | .integer, .float x => x.isIntegral
  | .null, .null => true
  | .object, .object _ => true
  | .string, .string _ => true
  | _, _ => false

/-- Whether a value is a number below a bound. -/
def isBelow (bound : Nat) : Json → Bool
  | .int n => n < bound
  | .float x => x.lessThan bound
  | _ => false

/-- The complaint about a value that has none of the types asked for. -/
def typeProblems (kinds : List Kind) (value : Json) : List String :=
  if kinds.any (hasKind · value) then []
  else match kinds with
    | [kind] => [value.compact ++ " is not of type " ++ quoted kind.name]
    | _ =>
      let names := (kinds.map Kind.name).mergeSort (· ≤ ·)
      [value.compact ++ " is not of types " ++ ", ".intercalate (names.map quoted)]

/-- The complaint about a word that is not in the list: two of the choices and the number of the
others. -/
def choiceProblems (words : List String) (value : Json) : List String :=
  match value with
  | .string word => if words.contains word then [] else complaint
  | _ => complaint
where
  /-- The complaint itself. -/
  complaint : List String :=
    match words with
    | first :: second :: rest =>
      [value.compact ++ " is not one of " ++ quoted first ++ ", " ++ quoted second ++ " or "
        ++ toString rest.length ++ " other candidates"]
    | _ => [value.compact ++ " is not one of " ++ ", ".intercalate (words.map quoted)]

/-- The complaint about a text that is too short. -/
def lengthProblems (least : Nat) (text : String) : List String :=
  if text.length < least then
    [(Json.string text).compact ++ " is shorter than " ++ toString least ++ " character"
      ++ (if least = 1 then "" else "s")]
  else []

mutual

/-- Everything in which a value departs from a shape. -/
def problems : Schema → Json → List String
  | .typed kinds, value => typeProblems kinds value
  | .textOf least, value =>
    match value with
    | .string text => lengthProblems least text
    | other => typeProblems [.string] other
  | .integerFrom least, value =>
    typeProblems [.integer] value
      ++ (if isBelow least value then
        [value.compact ++ " is less than the minimum of " ++ toString least] else [])
  | .oneOf words, value => choiceProblems words value
  | .listOf items, value =>
    match value with
    | .array values => values.flatMap (problems items)
    | other => typeProblems [.array] other
  | .objectOf required properties, value =>
    match value with
    | .object members =>
      (required.filter fun key => (Members.get? members key).isNone).map
          (fun key => quoted key ++ " is a required property")
        ++ memberProblems properties members
    | other => typeProblems [.object] other

/-- Everything in which the members of an object depart from their shapes, the shapes being in the
order of their names. -/
def memberProblems : List (String × Schema) → Members → List String
  | [], _ => []
  | (key, shape) :: rest, members =>
    (match Members.get? members key with
      | some value => problems shape value
      | none => [])
      ++ memberProblems rest members

end

mutual

/-- The shape as a document of its own. -/
def toJson : Schema → Json
  | .typed [kind] => .object [("type", .string kind.name)]
  | .typed kinds => .object [("type", .array (kinds.map fun kind => .string kind.name))]
  | .textOf least => .object [("minLength", .ofNat least), ("type", .string "string")]
  | .integerFrom least => .object [("minimum", .ofNat least), ("type", .string "integer")]
  | .oneOf words => .object [("enum", .array (words.map .string))]
  | .listOf items => .object [("items", items.toJson), ("type", .string "array")]
  | .objectOf required properties =>
    .object ([("properties", .object (propertiesJson properties))]
      ++ (if required.isEmpty then [] else [("required", .array (required.map .string))])
      ++ [("type", .string "object")])

/-- The shapes of members as a document. -/
def propertiesJson : List (String × Schema) → List (String × Json)
  | [] => []
  | (key, shape) :: rest => (key, shape.toJson) :: propertiesJson rest

end

end Schema

end SiteWatch.Json
