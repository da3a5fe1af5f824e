/-
# What the scheduler works with

The settings of the scheduler: how often due sites are looked for, how many jobs run at once, and how
long a job, and a stop, may take. And its collaborators, over the state `σ` of the world around it. Every
call but a scrape is one step; a scrape takes its time and may be called off.
-/

import SiteWatch.Activity
import SiteWatch.Schedule.Notice
import SiteWatch.Schedule.Registration
import SiteWatch.Scrape.Request
import SiteWatch.Scrape.Result

namespace SiteWatch

/-- The settings of the scheduler, with all times in milliseconds. -/
structure ScheduleSettings where
  intervalMs : Nat := 86400000
  maxConcurrentJobs : Nat := 3
  /-- The watch over a job stops it after this time; none lets it take as long as it needs. -/
  jobTimeoutMs : Option Nat := some 600000
  /-- How long a stop waits for running jobs. -/
  graceMs : Nat := 30000
  /-- How many ended jobs are remembered. -/
  historyLimit : Nat := 50
deriving DecidableEq, Repr, Inhabited

/-- The collaborators of the scheduler. -/
structure ScheduleServices (σ : Type) where
  settings : ScheduleSettings
  now : σ → Instant
  /-- All registrations. -/
  register : σ → Outcome (List Registration)
  /-- Write the bookkeeping of a site back. Answers whether the site is still registered. -/
  record : (siteId : String) → Bookkeeping → σ → Outcome Bool × σ
  scrape : ScrapeRequest → Activity σ ScrapeResult
  /-- Store a result. Answers the name of its file. -/
  save : (siteId : String) → ScrapeResult → σ → Outcome String × σ
  notify : Notice → σ → Outcome Unit × σ

end SiteWatch
