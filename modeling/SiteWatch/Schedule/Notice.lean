/-
# Notices

What is reported to the outside about a page of a site: that its content is new, or that scraping
it failed.
-/

import SiteWatch.Json.Basic

namespace SiteWatch

/-- A report to the outside. -/
inductive Notice where
  | newContent (siteId url contentHash : String)
  | error (siteId url error : String)
deriving DecidableEq, Repr, Inhabited

namespace Notice

def toJson : Notice → Json
  | newContent siteId url contentHash =>
    .object [("event", .string "new_content"), ("siteId", .string siteId), ("url", .string url),
      ("contentHash", .string contentHash)]
  | error siteId url reason =>
    .object [("event", .string "error"), ("siteId", .string siteId), ("url", .string url),
      ("error", .string reason)]

end Notice

end SiteWatch
