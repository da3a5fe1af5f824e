/-
# Known robots rules

Robots rules are fetched once for each origin and kept for an hour. Only what is certain is kept: the
rules themselves, or that there are none. A page whose rules cannot be had may be visited.
-/

import SiteWatch.Web.Online

namespace SiteWatch.Robots

variable {ν : Type}

/-- The name under which the program asks for rules and delivers notices. -/
def fetchAgent : String := agentName ++ "/0.1 (+robots.txt compliant)"

/-- How long a fetch of rules may take, in milliseconds. -/
def limitMs : Nat := 10000

/-- How long rules are kept, in milliseconds: an hour. -/
def keptMs : Nat := 3600000

/-- What a reply says about the rules of an origin. A server that asks for patience has said
nothing. -/
def Fetched.ofReply (reply : WebReply) : Fetched :=
  if reply.isSuccess then
    match reply.body with
    | some text => .document text
    | none => .unavailable
  else if reply.blamesRequest ∧ reply.status ≠ 429 then .missing
  else .unavailable

/-- Whether an outcome is certain. -/
def Fetched.isCertain (fetched : Fetched) : Bool := fetched != .unavailable

/-- Fetch rules. -/
def fetch (network : Network ν) (document : Url) : Activity (Online ν) Fetched :=
  (Online.onNetwork (network.askUrl limitMs fetchAgent document).run).bind fun outcome =>
    .done (match outcome with
      | .ok (_, reply) => .ofReply reply
      | .error _ => .unavailable)

/-- The rules of an origin that are still kept. -/
def known? (origin : String) (online : Online ν) : Option Fetched :=
  match online.rules.lookup origin with
  | some rules => if online.uptimeMs < rules.fetchedAtMs + keptMs then some rules.fetched else none
  | none => none

/-- Keep the rules of an origin, if they are certain. -/
def keep (origin : String) (fetched : Fetched) (online : Online ν) : Online ν :=
  if fetched.isCertain then
    { online with rules := (origin, ⟨fetched, online.uptimeMs⟩) ::
        online.rules.filter (·.1 != origin) }
  else online

/-- The rules of an origin: those that are kept, or else the document fetched. -/
def rulesOf (network : Network ν) (origin : String) (document : Url) :
    Activity (Online ν) Fetched :=
  (Activity.step fun online => (known? origin online, online)).bind fun
    | some fetched => .done fetched
    | none => (fetch network document).bind fun fetched =>
      (Activity.modify (keep origin fetched)).bind fun _ => .done fetched

/-- What the rules say about an address. An address without an origin has no rules to be had. -/
def check (network : Network ν) (url : String) : Activity (Online ν) RobotsStatus :=
  match (Url.parse url).toOption with
  | none => .done .unavailable
  | some page =>
    match documentUrl? page with
    | none => .done .unavailable
    | some document => (rulesOf network page.originText document).bind fun fetched =>
      .done (evaluate fetched agentName url)

end SiteWatch.Robots
