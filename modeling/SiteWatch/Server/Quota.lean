/-
# Quotas

How many requests a client may make. A client has a bucket of tokens, full at first; a request takes a
token, and every period one token comes back until the bucket is full. A bucket is kept as the moment at
which it will be full again if nothing more is taken from it.
-/

import SiteWatch.Failure

namespace SiteWatch

/-- A quota. Times are in milliseconds. -/
structure Quota where
  /-- How long it takes for a token to come back. -/
  periodMs : Nat
  /-- How many tokens a bucket holds. -/
  burst : Nat
deriving DecidableEq, Repr, Inhabited

/-- The bucket of a client. -/
structure Bucket where
  /-- The moment at which it will be full. -/
  fullAtMs : Nat := 0
deriving DecidableEq, Repr, Inhabited

namespace Quota

/-- The quota of so many requests a minute. -/
def perMinute (rate : Nat) : Outcome Quota :=
  if rate = 0 then .error (.misconfigured "scrape rate limit must be at least 1 per minute")
  else
    let quota : Quota := ⟨60000 / rate, rate⟩
    if quota.periodMs = 0 then .error (.misconfigured "invalid scrape rate limit") else .ok quota

/-- The moment at which a bucket is full if a token is taken from it. -/
def fullAfter (quota : Quota) (now : Nat) (bucket : Bucket) : Nat :=
  max now bucket.fullAtMs + quota.periodMs

/-- Take a token, if there is one. -/
def take? (quota : Quota) (now : Nat) (bucket : Bucket) : Option Bucket :=
  let fullAtMs := quota.fullAfter now bucket
  if fullAtMs ≤ now + quota.burst * quota.periodMs then some { fullAtMs } else none

end Quota

end SiteWatch
