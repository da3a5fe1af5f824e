/-
# Politeness

The pause before every visit: the delay of the site and a little more that is left to chance.
-/

import SiteWatch.Activity

namespace SiteWatch

/-- How long visits are put off. -/
structure Politeness where
  delayMs : Nat := 1000
  /-- The bound of what chance adds; zero adds nothing. -/
  jitterMs : Nat := 0
deriving DecidableEq, Repr, Inhabited

namespace Politeness

/-- The length of one pause, for a number drawn at random. -/
def pauseMs (p : Politeness) (drawn : Nat) : Nat :=
  if p.jitterMs = 0 then p.delayMs else p.delayMs + drawn % p.jitterMs

/-- Let the pause pass, or fail when the work is called off meanwhile. Without a pause there is
nothing to call off. -/
def pass {σ : Type} (p : Politeness) (drawn : Nat) : Attempt σ Unit :=
  ExceptT.mk (
    if p.pauseMs drawn = 0 then .done (.ok ())
    else .wait { after := some (p.pauseMs drawn), heeds := true } fun wake _ =>
      match wake with
      | .cancelled => .done (.error (.cancelled "during politeness delay"))
      | _ => .done (.ok ()))

end Politeness

end SiteWatch
