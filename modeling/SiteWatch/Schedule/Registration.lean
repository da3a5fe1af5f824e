/-
# Registrations

A site that is scraped again and again: its pages, the number of days between two rounds, its
priority, whom to tell, and the bookkeeping of the rounds so far. The bookkeeping is what a round
writes back; everything else belongs to the operator.
-/

import SiteWatch.Site.Basic

namespace SiteWatch

open Json (Reader Record)

/-- What is reported to the outside. -/
structure Preferences where
  onNewContent : Bool := true
  onError : Bool := false
deriving DecidableEq, Repr, Inhabited

/-- The bookkeeping of the rounds of a site. -/
structure Bookkeeping where
  lastCheckedAt : Option Instant := none
  nextCheckAt : Option Instant := none
  lastSuccessAt : Option Instant := none
  /-- The rounds that failed since the last one that did not. -/
  consecutiveFailures : Nat := 0
  totalRuns : Nat := 0
  lastContentHash : Option String := none
deriving DecidableEq, Repr, Inhabited

/-- A site that is scraped again and again. -/
structure Registration where
  site : Site
  /-- The pages of a round; the front page of the domain when empty. -/
  targetUrls : List String := []
  checkIntervalDays : Nat := 1
  priority : Int := 0
  notifications : Preferences := {}
  history : Bookkeeping := {}
deriving DecidableEq, Repr, Inhabited

namespace Preferences

def toJson (p : Preferences) : Json :=
  .object [("onNewContent", .bool p.onNewContent), ("onError", .bool p.onError)]

def record : Record Preferences :=
  (fun onNewContent onError => { onNewContent, onError : Preferences })
    <$> Record.defaulted "onNewContent" true Json.readBool
    <*> Record.defaulted "onError" false Json.readBool

def read : Reader Preferences := record.read

end Preferences

namespace Bookkeeping

def members (b : Bookkeeping) : Members :=
  [("lastCheckedAt", .ofOption (fun t => .string t.text) b.lastCheckedAt),
    ("nextCheckAt", .ofOption (fun t => .string t.text) b.nextCheckAt),
    ("lastSuccessAt", .ofOption (fun t => .string t.text) b.lastSuccessAt),
    ("consecutiveFailures", .ofNat b.consecutiveFailures), ("totalRuns", .ofNat b.totalRuns),
    ("lastContentHash", .ofOption .string b.lastContentHash)]

def record : Record Bookkeeping :=
  (fun lastCheckedAt nextCheckAt lastSuccessAt consecutiveFailures totalRuns lastContentHash =>
      { lastCheckedAt, nextCheckAt, lastSuccessAt, consecutiveFailures, totalRuns,
        lastContentHash : Bookkeeping })
    <$> Record.optional "lastCheckedAt" Json.readInstant
    <*> Record.optional "nextCheckAt" Json.readInstant
    <*> Record.optional "lastSuccessAt" Json.readInstant
    <*> Record.defaulted "consecutiveFailures" 0 Json.readNat32
    <*> Record.defaulted "totalRuns" 0 Json.readNat64
    <*> Record.optional "lastContentHash" Json.readText

/-- A round has begun. -/
def started (now : Instant) (b : Bookkeeping) : Bookkeeping :=
  { b with totalRuns := b.totalRuns + 1, lastCheckedAt := some now }

/-- A round has ended; the next one is due after a number of days whether or not it went well.
There is no such moment when the number of days is far too large. -/
def finished? (now : Instant) (success : Bool) (days : Nat) (b : Bookkeeping) :
    Option Bookkeeping :=
  (now.plusDays? days).map fun next =>
    if success then
      { b with consecutiveFailures := 0, lastSuccessAt := some now, nextCheckAt := some next }
    else
      { b with consecutiveFailures := b.consecutiveFailures + 1, nextCheckAt := some next }

end Bookkeeping

namespace Registration

/-- The identifier of the registered site. -/
def id (r : Registration) : String := r.site.id

/-- Whether a round is due: the site is enabled, and the time of the next round is unset or not
later than `now`. -/
def isDue (now : Instant) (r : Registration) : Bool :=
  r.site.enabled && r.history.nextCheckAt.all fun due => decide (due ≤ now)

/-- The pages of a round. -/
def urls (r : Registration) : List String :=
  if r.targetUrls.isEmpty then [s!"https://{r.site.domain}/"] else r.targetUrls

/-- A round has begun. -/
def markStarted (now : Instant) (r : Registration) : Registration :=
  { r with history := r.history.started now }

/-- A round has ended. -/
def markFinished? (now : Instant) (success : Bool) (r : Registration) : Option Registration :=
  (r.history.finished? now success r.checkIntervalDays).map fun history => { r with history }

/-- The registration with the bookkeeping of another. -/
def withHistory (history : Bookkeeping) (r : Registration) : Registration := { r with history }

def toJson (r : Registration) : Json :=
  .object ([("site", r.site.toJson), ("targetUrls", .array (r.targetUrls.map .string)),
      ("checkIntervalDays", .ofNat r.checkIntervalDays), ("priority", .int r.priority),
      ("notifications", r.notifications.toJson)]
    ++ r.history.members)

def record : Record Registration :=
  (fun site targetUrls checkIntervalDays priority notifications history =>
      { site, targetUrls, checkIntervalDays, priority, notifications, history : Registration })
    <$> Record.required "site" Site.read
    <*> Record.defaulted "targetUrls" [] (Json.readList Json.readText)
    <*> Record.defaulted "checkIntervalDays" 1 Json.readNat32
    <*> Record.defaulted "priority" 0 Json.readInt32
    <*> Record.defaulted "notifications" {} Preferences.read
    <*> Bookkeeping.record

def read : Reader Registration := record.read

end Registration

end SiteWatch
