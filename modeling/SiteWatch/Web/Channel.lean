/-
# Channels for notices

Notices are posted to an address, if one is set, and otherwise only noted down.
-/

import SiteWatch.Failure
import SiteWatch.Url.Parse

namespace SiteWatch

/-- Where notices go. -/
inductive Channel where
  | log
  | webhook (endpoint : Url)
deriving DecidableEq, Repr

namespace Channel

/-- The channel to an address. -/
def toAddress (address : String) : Outcome Channel :=
  match Url.parse address with
  | .error fault =>
    .error (.misconfigured s!"invalid webhook URL '{address}': {fault.message}")
  | .ok url =>
    if url.isWeb then .ok (.webhook url)
    else .error (.misconfigured
      s!"webhook URL scheme '{url.scheme}' is not allowed (only http/https)")

/-- The channel to an address that may be absent or blank. -/
def ofEndpoint (endpoint : Option String) : Outcome Channel :=
  match endpoint.map Text.trim with
  | none => .ok .log
  | some address => if address.isEmpty then .ok .log else toAddress address

end Channel

end SiteWatch
