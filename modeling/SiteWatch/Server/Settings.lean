/-
# Server settings

Everything that the server takes from its environment.
-/

import SiteWatch.Schedule.Services
import SiteWatch.Store.Layout
import SiteWatch.Web.EngineKind

namespace SiteWatch

/-- Everything that the server takes from its environment. -/
structure ServerSettings where
  port : Nat := 3000
  /-- Scrapes a minute and client. -/
  rateLimitPerMinute : Nat := 10
  cacheTtlSecs : Nat := 300
  politenessJitterMs : Nat := 0
  scheduler : ScheduleSettings := {}
  schedulerAutostart : Bool := false
  engine : EngineKind := .http
  notifyWebhook : Option String := none
  store : StoreLayout := {}
deriving DecidableEq, Repr, Inhabited

namespace ServerSettings

/-- The settings that the environment makes. The first variable found unreadable is the failure,
in the order in which they stand here. -/
def ofEnvironment (env : Environment) : Outcome ServerSettings := do
  let rateLimitPerMinute ← env.positiveOr "ARGOS_RATE_LIMIT_PER_MINUTE" Environment.max32 10
  let maxConcurrentJobs ← env.positiveOr "ARGOS_MAX_CONCURRENT_JOBS" Environment.max64 3
  let jobTimeout ← env.numberOr "ARGOS_JOB_TIMEOUT_SECS" Environment.max64 600
  let interval ← env.positiveOr "ARGOS_SCHEDULER_INTERVAL_SECS" Environment.max64 86400
  let grace ← env.numberOr "ARGOS_SHUTDOWN_GRACE_SECS" Environment.max64 30
  let engine ←
    match env.lookup "ARGOS_ENGINE" with
    | some word => EngineKind.parse word
    | none => pure .http
  let port ← env.numberOr "ARGOS_SERVER_PORT" Environment.max16 3000
  let cacheTtlSecs ← env.numberOr "ARGOS_CACHE_TTL_SECS" Environment.max64 300
  let politenessJitterMs ← env.numberOr "ARGOS_POLITENESS_JITTER_MS" Environment.max64 0
  let schedulerAutostart ← env.flagOr "ARGOS_SCHEDULER_AUTOSTART" false
  let store ← StoreLayout.ofEnvironment env
  let scheduler : ScheduleSettings := {
    intervalMs := interval * 1000, maxConcurrentJobs,
    jobTimeoutMs := if jobTimeout = 0 then none else some (jobTimeout * 1000),
    graceMs := grace * 1000 }
  let notifyWebhook := (env.lookup "ARGOS_NOTIFY_WEBHOOK").filter (! Text.isVoid ·)
  return { port, rateLimitPerMinute, cacheTtlSecs, politenessJitterMs, scheduler,
           schedulerAutostart, engine, notifyWebhook, store }

/-- The settings of the server's scrapes; pictures go under the data directory. -/
def scrapes (settings : ServerSettings) : ScrapeSettings where
  ttlMs := settings.cacheTtlSecs * 1000
  screenshotDir := settings.store.screenshotsDir
  jitterMs := settings.politenessJitterMs

end ServerSettings

end SiteWatch
