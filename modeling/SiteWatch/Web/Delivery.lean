/-
# Delivery of notices

A notice goes out as a JSON document posted to the address of its channel. Noted-down notices always
arrive.
-/

import SiteWatch.Robots.Policy
import SiteWatch.Schedule.Notice
import SiteWatch.Web.Channel

namespace SiteWatch.Channel

variable {ν : Type}

/-- How long a delivery may take, in milliseconds. -/
def limitMs : Nat := 10000

/-- Deliver a notice. -/
def deliver (network : Network ν) (channel : Channel) (notice : Notice) : Attempt (Online ν) Unit :=
  match channel with
  | .log => pure ()
  | .webhook endpoint => do
    let sent := network.post limitMs Robots.fetchAgent endpoint.text notice.toJson
    match ← Attempt.ofActivity (Online.onNetwork sent.run) with
    | .error fault => throw (.networkFailed s!"webhook delivery failed: {fault.message}")
    | .ok (_, reply) =>
      unless reply.isSuccess do throw (.networkFailed s!"webhook returned HTTP {reply.status}")

end SiteWatch.Channel
