/-
# Content digests

The digest by which content is recognised as new: that of the canonical form, so that the order of
members makes no difference.
-/

import SiteWatch.Digest.Sha256
import SiteWatch.Json.Writer

namespace SiteWatch.Json

/-- The digest of the canonical form of a value. -/
def digest (value : Json) : String := Sha256.ofText value.canonical

end SiteWatch.Json
