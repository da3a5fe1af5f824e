/-
# Sources of sites

Where the configurations of sites come from: what asks for them does not know whether they are fixed
or read from files.
-/

import SiteWatch.Activity
import SiteWatch.Site.Matching

namespace SiteWatch

/-- A source of sites, over a state `σ`. -/
structure SiteSource (σ : Type) where
  /-- The site for a page: an enabled one if any covers the page, and otherwise a disabled one. -/
  resolve : Url → Attempt σ (Option Site)
  list : Attempt σ (List Site)
  /-- Read the sites anew. Answers how many there are. -/
  reload : Attempt σ Nat

/-- Sites that never change. -/
def SiteSource.fixed {σ : Type} (sites : List Site) : SiteSource σ where
  resolve url := pure (Site.bestFor? sites url)
  list := pure sites
  reload := pure sites.length

end SiteWatch
