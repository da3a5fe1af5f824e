/-
# JSON values

A JSON value with its object members in the order in which they stand. Integers between the least
signed and the largest unsigned 64-bit number are kept exactly; every other number is a binary64
value. A member list may name a key twice; `settle` gives the reading in which the last one counts
and members are sorted, which is how free data is held.
-/

import SiteWatch.Decimal.Double

namespace SiteWatch

/-- A JSON value. -/
inductive Json where
  | null
  | bool (value : Bool)
  | int (value : Int)
  | float (value : Double)
  | string (value : String)
  | array (items : List Json)
  | object (members : List (String × Json))
deriving Inhabited, BEq, Repr

/-- The members of an object. -/
abbrev Members := List (String × Json)

namespace Members

/-- The value of a key: that of its first member. -/
def get? (members : Members) (key : String) : Option Json :=
  (members.find? (·.1 == key)).map (·.2)

/-- Set a key in a list sorted by key: an old value is replaced, a new key is put in its place. -/
def insert (key : String) (value : Json) : Members → Members
  | [] => [(key, value)]
  | (other, old) :: rest =>
    if key = other then (key, value) :: rest
    else if key < other then (key, value) :: (other, old) :: rest
    else (other, old) :: insert key value rest

/-- Members sorted by key, the last of several members with one key winning. -/
def ofList (members : List (String × Json)) : Members :=
  members.foldl (fun sorted member => insert member.1 member.2 sorted) []

end Members

namespace Json

/-- The largest integer kept exactly. -/
def maxInt : Int := 18446744073709551615

/-- The least integer kept exactly. -/
def minInt : Int := -9223372036854775808

/-- An optional value, `null` when absent. -/
def ofOption {α : Type} (write : α → Json) : Option α → Json
  | none => .null
  | some value => write value

/-- A natural number. -/
def ofNat (n : Nat) : Json := .int n

/-- An optional member of an object, left out when absent. -/
def member? {α : Type} (key : String) (write : α → Json) : Option α → Members
  | none => []
  | some value => [(key, write value)]

mutual

/-- The reading of free data: members sorted by key at every level, the last member of a key
winning. -/
def settle : Json → Json
  | .array items => .array (settleItems items)
  | .object members => .object (Members.ofList (settleMembers members))
  | other => other

/-- The settled items of an array. -/
def settleItems : List Json → List Json
  | [] => []
  | item :: rest => settle item :: settleItems rest

/-- The members of an object with their values settled. -/
def settleMembers : List (String × Json) → List (String × Json)
  | [] => []
  | (key, value) :: rest => (key, settle value) :: settleMembers rest

end

/-- The number of pieces of content in a value: scalars other than `null`, counted through arrays
and objects. -/
def itemCount : Json → Nat
  | .null => 0
  | .array items => itemsCount items
  | .object members => membersCount members
  | _ => 1
where
  /-- The content of the items of an array. -/
  itemsCount : List Json → Nat
    | [] => 0
    | item :: rest => itemCount item + itemsCount rest
  /-- The content of the members of an object. -/
  membersCount : List (String × Json) → Nat
    | [] => 0
    | (_, value) :: rest => itemCount value + membersCount rest

end Json

end SiteWatch
