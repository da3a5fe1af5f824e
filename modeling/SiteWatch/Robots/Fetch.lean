/-
# Robots policy

What came of fetching the robots document of an origin, and what it says about a page.
-/

import SiteWatch.Robots.Rules
import SiteWatch.Scrape.Verdict
import SiteWatch.Url.Parse

namespace SiteWatch.Robots

/-- What came of fetching a robots document. -/
inductive Fetched where
  | document (text : String)
  /-- The origin has none. -/
  | missing
  /-- It could not be fetched. -/
  | unavailable
deriving DecidableEq, Repr

/-- The name under which the program looks for rules. -/
def agentName : String := "ArgosBot"

/-- What a fetched document says about a page. -/
def evaluate (fetched : Fetched) (agent url : String) : RobotsStatus :=
  match fetched with
  | .document text => if permits text agent url then .allowed else .disallowed
  | .missing => .notFound
  | .unavailable => .unavailable

/-- The address of the robots document of a page's origin; none for pages without a host. -/
def documentUrl? (page : Url) : Option Url :=
  match page.hostText? with
  | none => none
  | some _ => (page.join "/robots.txt").toOption

end SiteWatch.Robots
