/-
# Records

How the fields of a record are read from a JSON object or, in their order, from a JSON array. A
record is described field by field, and the descriptions are put together with the applicative
operations; what each field accepts when it is absent is part of its description.

Members of an object that no field names are passed over. A field given twice is an error. When
several fields are wrong the member that stands first is the one reported, and a missing field only
when no member is wrong.
-/

import SiteWatch.Json.Mismatch

namespace SiteWatch.Json

/-- A mismatch and the place among the members of the object where it was found. -/
structure Located where
  place : Nat
  mismatch : Mismatch

/-- How to read a record. -/
structure Record (α : Type) where
  /-- The names of every field, in order; the first name of a field is its own, others are
  accepted in its stead. -/
  names : List (List String)
  /-- The record held by the members of an object. -/
  ofMembers : Members → Except Located α
  /-- The record held by the items of an array, and the items that are left. -/
  ofItems : List Json → Except Mismatch (α × List Json)

namespace Record

variable {α β : Type}

/-- A record without fields. -/
def constant (value : α) : Record α :=
  ⟨[], fun _ => .ok value, fun items => .ok (value, items)⟩

/-- A record with its value changed. -/
def mapped (f : α → β) (record : Record α) : Record β where
  names := record.names
  ofMembers members := (record.ofMembers members).map f
  ofItems items := (record.ofItems items).map fun found => (f found.1, found.2)

/-- Two records as one: of two mismatches the one that stands first counts. -/
def combined (first : Record (α → β)) (second : Record α) : Record β where
  names := first.names ++ second.names
  ofMembers members :=
    match first.ofMembers members, second.ofMembers members with
    | .ok f, .ok value => .ok (f value)
    | .error located, .ok _ => .error located
    | .ok _, .error located => .error located
    | .error one, .error other => .error (if other.place < one.place then other else one)
  ofItems items := do
    let (f, items) ← first.ofItems items
    let (value, items) ← second.ofItems items
    return (f value, items)

instance : Functor Record where
  map := mapped

instance : Pure Record where
  pure := constant

instance : Seq Record where
  seq first second := combined first (second ())

/-- A member and its place among the members of an object. -/
def locate? (names : List String) : Nat → Members → Option (Nat × Json)
  | _, [] => none
  | place, (key, value) :: rest =>
    if names.contains key then some (place, value) else locate? names (place + 1) rest

/-- A field with a reader, a value for an object that lacks it and one for an array too short to
hold it. -/
def field (names : List String) (read : Reader α) (missing : Except Mismatch α)
    (short : Option α) : Record α where
  names := [names]
  ofMembers members :=
    match locate? names 0 members with
    | some (place, value) => (read value).mapError fun mismatch => ⟨place, mismatch⟩
    | none => missing.mapError fun mismatch => ⟨members.length, mismatch⟩
  ofItems
    | item :: rest => (read item).map fun value => (value, rest)
    | [] =>
      match short with
      | some value => .ok (value, [])
      | none => .error (.length 0)

/-- A field that must be there. -/
def required (name : String) (read : Reader α) : Record α :=
  field [name] read (.error (.missing name)) none

/-- A field that an object may lack or set to `null`; an array may not end before it. -/
def nullable (name : String) (read : Reader α) : Record (Option α) :=
  field [name] (readOptional read) (.ok none) none

/-- A field that may be lacking or `null`. -/
def optional (name : String) (read : Reader α) : Record (Option α) :=
  field [name] (readOptional read) (.ok none) (some none)

/-- A field that may be lacking or `null`, under any of several names. -/
def optionalAs (names : List String) (read : Reader α) : Record (Option α) :=
  field names (readOptional read) (.ok none) (some none)

/-- A field with a value that stands in when it is lacking. -/
def defaulted (name : String) (value : α) (read : Reader α) : Record α :=
  field [name] read (.ok value) (some value)

/-- The first name of a field that is given twice, with the place of the second. -/
def repeated? (names : List (List String)) (members : Members) : Option Located :=
  let rec go : Nat → List String → Members → Option Located
    | _, _, [] => none
    | place, seen, (key, _) :: rest =>
      match names.find? (·.contains key) with
      | none => go (place + 1) seen rest
      | some field =>
        let own := field.headD key
        if seen.contains own then some ⟨place, .repeated own⟩
        else go (place + 1) (own :: seen) rest
  go 0 [] members

/-- The record held by the members of an object, repeated fields refused. -/
def readMembers (record : Record α) (members : Members) : Except Mismatch α :=
  match repeated? record.names members with
  | some located => .error located.mismatch
  | none => (record.ofMembers members).mapError (·.mismatch)

/-- The record held by an object or by an array of its fields. -/
def read (record : Record α) : Reader α
  | .object members => record.readMembers members
  | .array items => do
    let (value, rest) ← record.ofItems items
    if rest.isEmpty then return value else throw (.length items.length)
  | other => wrongType "a record" other

/-- The record held by an object, arrays refused. -/
def readObject (record : Record α) : Reader α
  | .object members => record.readMembers members
  | other => wrongType "a map" other

/-- The members of an object that no field of a record names. -/
def others (record : Record α) (members : Members) : Members :=
  members.filter fun member => ! record.names.any (·.contains member.1)

end Record

end SiteWatch.Json
