/-
# Robots verdicts

What the robots rules of an origin say about a page. Only rules that were read and forbid the page
keep it from being visited; rules that are missing or could not be fetched allow everything.
-/

import SiteWatch.Json.Mismatch

namespace SiteWatch

/-- How the question about the robots rules came out. -/
inductive RobotsStatus where
  | allowed
  | disallowed
  /-- The origin has no rules. -/
  | notFound
  /-- The rules could not be fetched or read. -/
  | unavailable
deriving DecidableEq, Repr, Inhabited

namespace RobotsStatus

/-- The words for the outcomes. -/
def words : List (String × RobotsStatus) :=
  [("allowed", allowed), ("disallowed", disallowed), ("not_found", notFound),
   ("unavailable", unavailable)]

def word : RobotsStatus → String
  | allowed => "allowed"
  | disallowed => "disallowed"
  | notFound => "not_found"
  | unavailable => "unavailable"

/-- Whether the page may be visited. -/
def permits (status : RobotsStatus) : Bool := status != disallowed

def read : Json.Reader RobotsStatus := Json.readChoice words

end RobotsStatus

end SiteWatch
