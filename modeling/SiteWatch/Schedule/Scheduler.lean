/-
# The scheduler

Which jobs run, which have ended, and what a tick, the steps of the rounds and a stop do to them. A
tick launches a job for every due site that has none, as long as fewer jobs run than may. A stop lets
running jobs come to their end for a while and then abandons those that are left: their rounds are
called off and they are remembered as cancelled.
-/

import SiteWatch.Schedule.Round

namespace SiteWatch

/-- The state of the scheduler. -/
structure Scheduler (σ : Type) where
  /-- The world around, and all events so far. -/
  around : Surroundings σ
  /-- Whether the periodic loop is wanted. -/
  looping : Bool := false
  /-- The jobs that run, as they were when launched, in that order. -/
  running : List Job := []
  /-- The jobs that have ended, the last one first. -/
  history : List Job := []
  lastTickAt : Option Instant := none
  nextTickAt : Option Instant := none
  /-- The rounds at work, those of abandoned jobs among them. -/
  rounds : List (Round σ) := []
  /-- How many jobs were ever launched. -/
  launched : Nat := 0

/-- What a tick did. -/
structure TickReport where
  due : Nat := 0
  launched : List Job := []
  /-- Sites left for a later tick, because enough jobs run. -/
  deferred : List String := []
  /-- Sites of which a job still runs. -/
  alreadyRunning : List String := []
deriving DecidableEq, Repr, Inhabited

/-- What a stop did. -/
structure StopReport where
  wasRunning : Bool := false
  /-- Jobs in flight that came to their end. -/
  drained : Nat := 0
  abandoned : Nat := 0
deriving DecidableEq, Repr, Inhabited

/-- What the scheduler shows of itself. -/
structure ScheduleStatus where
  running : Bool
  runningJobs : List Job
  recentJobs : List Job
  lastTickAt : Option Instant
  nextTickAt : Option Instant
  intervalSecs : Nat
  maxConcurrentJobs : Nat
deriving DecidableEq, Repr, Inhabited

namespace StopReport

def toJson (r : StopReport) : Json :=
  .object [("wasRunning", .bool r.wasRunning), ("drained", .ofNat r.drained),
    ("abandoned", .ofNat r.abandoned)]

end StopReport

namespace TickReport

def toJson (r : TickReport) : Json :=
  .object [("due", .ofNat r.due),
    ("launched", .array (r.launched.map fun job => .string job.id.text)),
    ("deferred", .array (r.deferred.map .string)),
    ("alreadyRunning", .array (r.alreadyRunning.map .string))]

end TickReport

namespace ScheduleStatus

def toJson (s : ScheduleStatus) : Json :=
  .object [("running", .bool s.running), ("runningJobs", .array (s.runningJobs.map Job.toJson)),
    ("recentJobs", .array (s.recentJobs.map Job.toJson)),
    ("lastTickAt", .ofOption (fun t => .string t.text) s.lastTickAt),
    ("nextTickAt", .ofOption (fun t => .string t.text) s.nextTickAt),
    ("intervalSecs", .ofNat s.intervalSecs), ("maxConcurrentJobs", .ofNat s.maxConcurrentJobs)]

end ScheduleStatus

/-- Whether a time for the next round comes no later than another; one that is unset comes first. -/
def comesNoLater : Option Instant → Option Instant → Bool
  | none, _ => true
  | some _, none => false
  | some a, some b => a.le b

namespace Registration

/-- Whether a registration is looked at before another: one of higher priority, and of two with the
same priority the one that is due for longer. -/
def precedes (a b : Registration) : Bool :=
  b.priority < a.priority
    || (a.priority == b.priority && comesNoLater a.history.nextCheckAt b.history.nextCheckAt)

end Registration

namespace Scheduler

variable {σ : Type}

/-- The time of day. -/
def now (services : ScheduleServices σ) (s : Scheduler σ) : Instant := services.now s.around.world

/-- Change the world. -/
def onWorld (change : σ → σ) (s : Scheduler σ) : Scheduler σ :=
  { s with around := { s.around with world := change s.around.world } }

/-- Tell an event. -/
def tell (event : ScheduleEvent) (s : Scheduler σ) : Scheduler σ :=
  { s with around := s.around.tell event }

/-- Remember a job that has ended, and forget the oldest ones over the limit. -/
def remember (services : ScheduleServices σ) (job : Job) (s : Scheduler σ) : Scheduler σ :=
  { s with history := (job :: s.history).take services.settings.historyLimit }

/-- The due ones among registrations, in the order in which they are looked at. -/
def inOrder (now : Instant) (registrations : List Registration) : List Registration :=
  (registrations.filter (·.isDue now)).mergeSort Registration.precedes

/-- The registrations that are due. -/
def due (services : ScheduleServices σ) (s : Scheduler σ) : Outcome (List Registration) :=
  (services.register s.around.world).map (inOrder (s.now services))

/-- Whether a job of a site runs. -/
def isRunning (s : Scheduler σ) (siteId : String) : Bool := s.running.any (·.siteId == siteId)

/-- The scheduler with a job launched. -/
def launch (job : Job) (registration : Registration) (s : Scheduler σ) : Scheduler σ :=
  { (s.tell (.launched job.id job.siteId)) with
    running := s.running ++ [job]
    rounds := s.rounds ++ [Round.launch job registration]
    launched := s.launched + 1 }

/-- Launch a job for a due registration, unless one runs already or enough jobs run. -/
def consider (services : ScheduleServices σ) (progress : TickReport × Scheduler σ)
    (registration : Registration) : TickReport × Scheduler σ :=
  let (report, s) := progress
  let siteId := registration.id
  if s.isRunning siteId then
    ({ report with alreadyRunning := report.alreadyRunning ++ [siteId] }, s)
  else if s.running.length ≥ services.settings.maxConcurrentJobs then
    ({ report with deferred := report.deferred ++ [siteId] }, s.tell (.deferred siteId))
  else
    let moment := s.now services
    let job := (Job.create ⟨s.launched⟩ siteId moment).start moment
    ({ report with launched := report.launched ++ [job] }, s.launch job registration)

/-- Look at due registrations, one after another. -/
def launchDue (services : ScheduleServices σ) (due : List Registration) (s : Scheduler σ) :
    TickReport × Scheduler σ :=
  let begun := { s.tell (.tick due.length s.running.length) with
    lastTickAt := some (s.now services) }
  due.foldl (consider services) ({ due := due.length }, begun)

/-- One tick. It does nothing when the registrations cannot be read. -/
def tick (services : ScheduleServices σ) (s : Scheduler σ) : Outcome TickReport × Scheduler σ :=
  match s.due services with
  | .error cause => (.error cause, s)
  | .ok due =>
    let (report, s) := s.launchDue services due
    (.ok report, s)

/-- The round of a job. -/
def round? (s : Scheduler σ) (id : JobId) : Option (Round σ) := s.rounds.find? (·.job.id == id)

/-- Put the round of a job in its place. -/
def setRound (round : Round σ) (s : Scheduler σ) : Scheduler σ :=
  { s with rounds := s.rounds.map fun other => if other.job.id == round.job.id then round else other }

/-- A round is over: its job leaves those that run and is remembered, unless it was abandoned. -/
def leave (services : ScheduleServices σ) (round : Round σ) (s : Scheduler σ) : Scheduler σ :=
  let left := { s with
    rounds := s.rounds.filter (·.job.id != round.job.id)
    running := s.running.filter (·.id != round.job.id) }
  if s.running.any (·.id == round.job.id) then left.remember services round.job else left

/-- One step of the round of a job, which has waited `elapsed` milliseconds. -/
def stepRound (services : ScheduleServices σ) (id : JobId) (elapsed : Nat) (s : Scheduler σ) :
    Scheduler σ :=
  match s.round? id with
  | none => s
  | some round =>
    match round.phase with
    | .leaving => s.leave services round
    | _ =>
      let (round, around) := round.step services elapsed s.around
      { s with around }.setRound round

/-- Go on with the round of a job as far as it goes now, in at most a number of steps. -/
def runRound (services : ScheduleServices σ) (id : JobId) : Nat → Nat → Scheduler σ → Scheduler σ
  | 0, _, s => s
  | steps + 1, elapsed, s =>
    let s := s.stepRound services id elapsed
    match s.round? id with
    | none => s
    | some round => if round.rests then s else runRound services id steps 0 s

/-- Call off the round of a job. -/
def callOff (id : JobId) (s : Scheduler σ) : Scheduler σ :=
  { s with rounds := s.rounds.map fun round =>
      if round.job.id == id then { round with cancelled := true } else round }

/-- A job as it is remembered when it is abandoned. -/
def abandonedJob (now : Instant) (job : Job) : Job :=
  { job with errors := job.errors ++ ["abandoned after shutdown grace period"] }.finish now .cancelled

/-- Abandon one running job. -/
def abandon (services : ScheduleServices σ) (s : Scheduler σ) (job : Job) : Scheduler σ :=
  ((s.callOff job.id).tell (.abandoned job.id job.siteId)).remember services
    (abandonedJob (s.now services) job)

/-- Abandon all running jobs. Answers how many. -/
def abandonAll (services : ScheduleServices σ) (s : Scheduler σ) : Nat × Scheduler σ :=
  (s.running.length, { s.running.foldl (abandon services) s with running := [] })

/-- Want the periodic loop. Answers whether it was not wanted before. -/
def start (services : ScheduleServices σ) (s : Scheduler σ) : Bool × Scheduler σ :=
  if s.looping then (false, s)
  else (true, { s with looping := true }.tell
    (.started services.settings.intervalMs services.settings.maxConcurrentJobs))

/-- Announce a stop, with the loop at rest. Answers how many jobs are in flight. -/
def announceStop (s : Scheduler σ) : Nat × Scheduler σ :=
  (s.running.length, { s with nextTickAt := none }.tell (.stopping s.running.length))

/-- End a stop that was announced with a number of jobs in flight: abandon what still runs. -/
def endStop (services : ScheduleServices σ) (inFlight : Nat) (s : Scheduler σ) :
    StopReport × Scheduler σ :=
  let (abandoned, s) := s.abandonAll services
  ({ wasRunning := true, drained := inFlight - abandoned, abandoned }, s.tell .stopped)

/-- What the scheduler shows of itself. -/
def status (services : ScheduleServices σ) (s : Scheduler σ) : ScheduleStatus where
  running := s.looping
  runningJobs := s.running
  recentJobs := s.history
  lastTickAt := s.lastTickAt
  nextTickAt := s.nextTickAt
  intervalSecs := services.settings.intervalMs / 1000
  maxConcurrentJobs := services.settings.maxConcurrentJobs

end Scheduler

end SiteWatch
