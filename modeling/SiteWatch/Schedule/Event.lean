/-
# Events of the scheduler

What the scheduler tells those who watch it.
-/

import SiteWatch.Schedule.Job

namespace SiteWatch

/-- Something that happened to the scheduler. -/
inductive ScheduleEvent where
  | started (intervalMs maxConcurrentJobs : Nat)
  | tick (due running : Nat)
  | launched (job : JobId) (siteId : String)
  | deferred (siteId : String)
  | urlFailed (job : JobId) (url error : String)
  | newContent (siteId contentHash : String)
  | finished (job : JobId) (siteId : String) (status : JobStatus) (summary : JobSummary)
  | stopping (inFlight : Nat)
  | abandoned (job : JobId) (siteId : String)
  | stopped
deriving DecidableEq, Repr, Inhabited

namespace ScheduleEvent

/-- An event in a few words. -/
def label : ScheduleEvent → String
  | started .. => "started"
  | tick .. => "tick"
  | launched _ siteId => s!"launched:{siteId}"
  | deferred siteId => s!"deferred:{siteId}"
  | urlFailed _ url _ => s!"url_failed:{url}"
  | newContent siteId _ => s!"new_content:{siteId}"
  | finished _ siteId status _ => s!"finished:{siteId}:{status.word}"
  | stopping _ => "stopping"
  | abandoned _ siteId => s!"abandoned:{siteId}"
  | stopped => "stopped"

/-- What an event says beyond its label. -/
def detail? : ScheduleEvent → Option String
  | tick due running => some s!"tick due={due} running={running}"
  | urlFailed _ url error => some s!"url_failed {url} {error}"
  | stopping inFlight => some s!"stopping in_flight={inFlight}"
  | _ => none

end ScheduleEvent

end SiteWatch
