/-
# Rehearsed schedules as JSON

The settings of a rehearsed scheduler, and what goes wrong around it, read from JSON.
-/

import SiteWatch.Rehearsal.Schedule
import SiteWatch.Rehearsal.Script

namespace SiteWatch.Rehearsal

open Script

/-- The settings of a scheduler; what is left out has its default, and a job timeout of `null` is
none. -/
def settingsOf (value : Json) : ScheduleSettings :=
  let standard : ScheduleSettings := {}
  { intervalMs := countOr value "interval_ms" standard.intervalMs
    maxConcurrentJobs := countOr value "max_concurrent_jobs" standard.maxConcurrentJobs
    jobTimeoutMs :=
      if has value "job_timeout_ms" then count? value "job_timeout_ms" else standard.jobTimeoutMs
    graceMs := countOr value "grace_ms" standard.graceMs
    historyLimit := countOr value "history_limit" standard.historyLimit }

/-- How the register goes wrong. -/
def RegisterFaults.ofJson (value : Json) : RegisterFaults where
  list := failureOf? (field value "list")
  record := failureOf? (field value "record_schedule")
  removed := optional value "removed"

/-- What surrounds a rehearsed scheduler with a register. -/
def Backstage.ofJson (register : Register) (value : Json) : Backstage where
  register
  faults := .ofJson (field value "store_faults")
  failing := textsOf value "failing_urls"
  gate := if flag value "gated" then some {} else none
  scraping := { world := {} }
  saveFailure := optional value "sink_error"
  noticeFailure := optional value "notifier_error"

end SiteWatch.Rehearsal
