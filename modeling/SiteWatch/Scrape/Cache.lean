/-
# Kept results

Successful results by the address they were asked for, each with a life of its own. Times are in
milliseconds of a clock that never goes back. A result is found only while it lives; what has died is
swept out in rounds of about a second, and until then is counted, though not found.
-/

import SiteWatch.Scrape.Result
import SiteWatch.Scrape.Request

namespace SiteWatch

/-- A kept result. -/
structure CacheEntry where
  result : ScrapeResult
  /-- The first moment at which it is no longer found. -/
  diesAt : Nat
deriving BEq, Repr, Inhabited

/-- Results by address. -/
structure Cache where
  /-- How long a result lives for which nothing else is said. -/
  ttlMs : Nat := defaultTtlMs
  entries : List (String × CacheEntry) := []
  /-- How often a look-up found a result. -/
  hits : Nat := 0
  /-- How often a look-up found none. -/
  misses : Nat := 0
  /-- The round of the last sweep. -/
  round : Nat := 0
deriving BEq, Repr, Inhabited

namespace Cache

/-- The most results that are kept. -/
def capacity : Nat := 1000

/-- The longest life of a result: seven days. -/
def maxTtlMs : Nat := 604800000

/-- The life of a result for which a time is asked. -/
def lifeMs (cache : Cache) (asked : Option Nat) : Nat := min (asked.getD cache.ttlMs) maxTtlMs

/-- The round that a moment falls into: rounds last 2^30 nanoseconds. -/
def roundOf (now : Nat) : Nat := now * 1000000 / 1073741824

/-- Throw out what has died, if a new round has begun. -/
def sweep (cache : Cache) (now : Nat) : Cache :=
  if roundOf now ≤ cache.round then cache
  else { cache with round := roundOf now, entries := cache.entries.filter (now < ·.2.diesAt) }

/-- The living result for an address. -/
def living? (cache : Cache) (now : Nat) (url : String) : Option ScrapeResult :=
  match cache.entries.lookup url with
  | some entry => if now < entry.diesAt then some entry.result else none
  | none => none

/-- Look an address up. -/
def get (cache : Cache) (now : Nat) (url : String) : Option ScrapeResult × Cache :=
  match cache.living? now url with
  | some result => (some result, { cache with hits := cache.hits + 1 })
  | none => (none, { cache with misses := cache.misses + 1 })

/-- The entries without that of an address. -/
def without (url : String) (entries : List (String × CacheEntry)) : List (String × CacheEntry) :=
  entries.filter (·.1 != url)

/-- Keep a result, in place of an older one for its address. A result without a life is not kept, and
neither is a newcomer to a full cache. -/
def insert (cache : Cache) (now : Nat) (url : String) (result : ScrapeResult) (asked : Option Nat) :
    Cache :=
  if cache.lifeMs asked = 0 then cache
  else
    let swept := cache.sweep now
    let others := without url swept.entries
    if others.length ≥ capacity then swept
    else { swept with entries := (url, ⟨result, now + cache.lifeMs asked⟩) :: others }

/-- Forget the result for an address. -/
def invalidate (cache : Cache) (url : String) : Cache :=
  { cache with entries := without url cache.entries }

/-- Forget all results. -/
def clear (cache : Cache) : Cache := { cache with entries := [] }

/-- The counts of a cache. -/
def stats (cache : Cache) : Json :=
  .object [("entries", .ofNat cache.entries.length), ("hits", .ofNat cache.hits),
    ("misses", .ofNat cache.misses), ("defaultTtlSecs", .ofNat (cache.ttlMs / 1000))]

end Cache

end SiteWatch
