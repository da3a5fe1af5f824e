/-
# The register

All registrations, in the order in which they were made. Operators add and change registrations, and
rounds write their bookkeeping back; both act on the first registration of an id.
-/

import SiteWatch.Schedule.Registration

namespace SiteWatch

/-- All registrations. -/
abbrev Register := List Registration

namespace Register

/-- The registration of an id. -/
def get? (register : Register) (id : String) : Option Registration := register.find? (·.id == id)

/-- Change the registration of an id, if there is one. -/
def amend (change : Registration → Registration) (id : String) : Register → Register
  | [] => []
  | r :: rest => if r.id == id then change r :: rest else r :: amend change id rest

/-- Whether an id is registered. -/
def has (register : Register) (id : String) : Bool := register.any (·.id == id)

/-- Replace the registration of the same id, or add one at the end. -/
def upsert (register : Register) (r : Registration) : Register :=
  if register.has r.id then register.amend (fun _ => r) r.id else register ++ [r]

/-- Switch a site on or off. -/
def setEnabled (register : Register) (id : String) (enabled : Bool) : Register :=
  register.amend (fun r => { r with site := { r.site with enabled } }) id

/-- Write the bookkeeping of a round back, and nothing else. -/
def record (register : Register) (id : String) (history : Bookkeeping) : Register :=
  register.amend (·.withHistory history) id

end Register

end SiteWatch
