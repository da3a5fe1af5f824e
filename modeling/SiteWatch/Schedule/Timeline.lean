/-
# The scheduler in time

The periodic loop, the rounds and the watches over them as workers that take turns on one clock.
Workers that can go on do so in the order in which they were woken, and the clock moves only when none
can: it jumps to the next alarm. Whoever asks something of the scheduler goes before the workers, so a
moment at which its own wait ends is not yet used by them.
-/

import SiteWatch.Schedule.Scheduler

namespace SiteWatch

/-- Who takes turns. -/
inductive Worker where
  | loop
  | round (job : JobId)
  /-- Sets the alarm of the watch over a round. -/
  | watch (job : JobId)
  /-- Calls a round off, when its time is up. -/
  | alarm (job : JobId)
deriving DecidableEq, Repr, Inhabited

/-- A worker to be woken at a time. -/
structure Alarm where
  dueAt : Nat
  worker : Worker
deriving DecidableEq, Repr, Inhabited

/-- Where the periodic loop stands. -/
inductive LoopState where
  /-- It does not run. -/
  | off
  /-- It is about to tick. -/
  | fresh
  /-- It waits for the next tick. -/
  | resting
deriving DecidableEq, Repr, Inhabited

/-- The scheduler and its workers on a clock, in milliseconds. -/
structure Timeline (σ : Type) where
  scheduler : Scheduler σ
  clock : Nat := 0
  /-- The workers that can go on, the first one first. -/
  queue : List Worker := []
  /-- The alarms, in the order in which they were set. -/
  alarms : List Alarm := []
  /-- The rounds that wait, in the order in which they began to, with the time of that. -/
  waits : List (JobId × Nat) := []
  loop : LoopState := .off

namespace Timeline

variable {σ : Type}

/-- Wake a worker. -/
def wake (worker : Worker) (t : Timeline σ) : Timeline σ := { t with queue := t.queue ++ [worker] }

/-- Set an alarm, some time from now. -/
def setAlarm (worker : Worker) (after : Nat) (t : Timeline σ) : Timeline σ :=
  { t with alarms := t.alarms ++ [⟨t.clock + after, worker⟩] }

/-- Take back the alarms of a worker. -/
def dropAlarms (worker : Worker) (t : Timeline σ) : Timeline σ :=
  { t with alarms := t.alarms.filter (·.worker != worker) }

/-- The wait of a round and the time at which it began. -/
def pauseOf? (t : Timeline σ) (id : JobId) : Option (Pause σ × Nat) := do
  let began ← t.waits.lookup id
  let round ← t.scheduler.round? id
  match round.phase with
  | .scraping _ _ (.wait pause _) => some (pause, began)
  | _ => none

/-- Whether a round waits and its wait is not over. -/
def isHeld (t : Timeline σ) (id : JobId) : Bool :=
  match t.pauseOf? id, t.scheduler.round? id with
  | some (pause, began), some round =>
    (Activity.wakeNow? pause round.cancelled (t.clock - began) t.scheduler.around.world).isNone
  | _, _ => false

/-- Wake the rounds whose wait has come to its end, in the order in which they began to wait. -/
def wakeReady (t : Timeline σ) : Timeline σ :=
  (t.waits.map Prod.fst).foldl
    (fun t id => if t.isHeld id || t.queue.contains (.round id) then t else t.wake (.round id)) t

/-- Let a round that waits set its alarm. -/
def beginWait (id : JobId) (t : Timeline σ) : Timeline σ :=
  match t.scheduler.round? id with
  | none => t
  | some round =>
    match round.phase with
    | .scraping _ _ (.wait pause _) =>
      let t := { t with waits := t.waits ++ [(id, t.clock)] }
      match pause.after with
      | some after => t.setAlarm (.round id) after
      | none => t
    | _ => t

/-- Send out the watch over a round that begins. -/
def sendWatch (services : ScheduleServices σ) (id : JobId) (begins : Bool) (t : Timeline σ) :
    Timeline σ :=
  if begins && services.settings.jobTimeoutMs.isSome then t.wake (.watch id) else t

/-- Call the watch over a round back when the round is over. -/
def recallWatch (id : JobId) (t : Timeline σ) : Timeline σ :=
  match t.scheduler.round? id with
  | none => t.dropAlarms (.alarm id)
  | some _ => t

/-- The turn of a round. -/
def turnOfRound (services : ScheduleServices σ) (id : JobId) (t : Timeline σ) : Timeline σ :=
  match t.scheduler.round? id with
  | none => t
  | some round =>
    if t.isHeld id then t
    else
      let elapsed := t.clock - (t.waits.lookup id).getD t.clock
      let begins := match round.phase with | .starting => true | _ => false
      let t := { t with waits := t.waits.filter (·.1 != id) }.dropAlarms (.round id)
      let scheduler := t.scheduler.runRound services id round.stepsLeft elapsed
      (({ t with scheduler }.sendWatch services id begins).beginWait id).recallWatch id |>.wakeReady

/-- A round is called off: it wakes if it heeds that. -/
def turnOfAlarm (id : JobId) (t : Timeline σ) : Timeline σ :=
  { t with scheduler := t.scheduler.callOff id }.wakeReady

/-- The turn of the watch over a round. -/
def turnOfWatch (services : ScheduleServices σ) (id : JobId) (t : Timeline σ) : Timeline σ :=
  match t.scheduler.round? id, services.settings.jobTimeoutMs with
  | some round, some limit =>
    if round.cancelled then t
    else if limit = 0 then t.turnOfAlarm id
    else t.setAlarm (.alarm id) limit
  | _, _ => t

/-- Wake the rounds of launched jobs. -/
def wakeLaunched (jobs : List Job) (t : Timeline σ) : Timeline σ :=
  jobs.foldl (fun t job => t.wake (.round job.id)) t

/-- One tick, after which the rounds of the jobs it launched can go on. -/
def tick (services : ScheduleServices σ) (t : Timeline σ) : Outcome TickReport × Timeline σ :=
  let (outcome, scheduler) := t.scheduler.tick services
  let t := { t with scheduler }
  match outcome with
  | .ok report => (.ok report, t.wakeLaunched report.launched)
  | .error cause => (.error cause, t)

/-- The turn of the loop: it ends if it is no longer wanted and at rest, and else ticks. -/
def turnOfLoop (services : ScheduleServices σ) (t : Timeline σ) : Timeline σ :=
  let wanted := t.scheduler.looping
  let t := t.dropAlarms .loop
  if t.loop = .off then t
  else if t.loop = .resting ∧ !wanted then { t with loop := .off }
  else
    let (_, t) := t.tick services
    let next := (t.scheduler.now services).plusMilliseconds? services.settings.intervalMs
    let t := { t with scheduler := { t.scheduler with nextTickAt := next } }
    if wanted then { t with loop := .resting }.setAlarm .loop services.settings.intervalMs
    else { t with loop := .off }

/-- The turn of a worker. -/
def turn (services : ScheduleServices σ) (t : Timeline σ) : Worker → Timeline σ
  | .loop => t.turnOfLoop services
  | .round id => t.turnOfRound services id
  | .watch id => t.turnOfWatch services id
  | .alarm id => t.turnOfAlarm id

/-- Let workers take their turns until none can go on, in at most a number of turns. -/
def settle (services : ScheduleServices σ) : Nat → Timeline σ → Timeline σ
  | 0, t => t
  | turns + 1, t =>
    match t.queue with
    | [] => t
    | worker :: rest => settle services turns ({ t with queue := rest }.turn services worker)

/-- The time of the next alarm. -/
def nextAlarm? (t : Timeline σ) : Option Nat := (t.alarms.map (·.dueAt)).min?

/-- Move the clock to a time and wake those whose alarms are due then. -/
def moveTo (time : Nat) (t : Timeline σ) : Timeline σ :=
  { t with
    clock := time
    queue := t.queue ++ (t.alarms.filter (·.dueAt ≤ time)).map (·.worker)
    alarms := t.alarms.filter (time < ·.dueAt) }

/-- How many turns, and how many moves of the clock, a wait goes through at most. -/
def patience : Nat := 1000000

/-- Wait until something holds or a time is reached, with at most a number of moves of the clock. -/
def waitUntil (services : ScheduleServices σ) (holds : Timeline σ → Bool) (deadline : Nat) :
    Nat → Timeline σ → Timeline σ
  | 0, t => t
  | moves + 1, t =>
    let t := t.settle services patience
    if holds t then t
    else
      match t.nextAlarm? with
      | none => t.moveTo deadline
      | some time =>
        if time < deadline then waitUntil services holds deadline moves (t.moveTo time)
        else t.moveTo deadline

/-- Let time pass. -/
def sleep (services : ScheduleServices σ) (milliseconds : Nat) (t : Timeline σ) : Timeline σ :=
  if milliseconds = 0 then t
  else t.waitUntil services (fun _ => false) (t.clock + milliseconds) patience

/-- Whether no job runs. -/
def isIdle (t : Timeline σ) : Bool := t.scheduler.running.isEmpty

/-- Wait until no job runs, but not longer than a time. Answers whether none runs. -/
def waitIdle (services : ScheduleServices σ) (limit : Nat) (t : Timeline σ) : Bool × Timeline σ :=
  if t.isIdle || limit = 0 then (t.isIdle, t)
  else
    let t := t.waitUntil services isIdle (t.clock + limit) patience
    (t.isIdle, t)

/-- Start the periodic loop. Answers whether it was not running. -/
def start (services : ScheduleServices σ) (t : Timeline σ) : Bool × Timeline σ :=
  let (begun, scheduler) := t.scheduler.start services
  let t := { t with scheduler }
  if begun then (true, { t with loop := .fresh }.wake .loop) else (false, t)

/-- Stop the periodic loop, wait for running jobs and abandon those that are left. -/
def stop (services : ScheduleServices σ) (t : Timeline σ) : StopReport × Timeline σ :=
  if !t.scheduler.looping then ({}, t)
  else
    let t := { t with scheduler := { t.scheduler with looping := false } }
    let t := if t.loop = .resting then t.wake .loop else t
    let t := t.settle services patience
    let (inFlight, scheduler) := t.scheduler.announceStop
    let (_, t) := { t with scheduler }.waitIdle services services.settings.graceMs
    let (report, scheduler) := t.scheduler.endStop services inFlight
    (report, { t with scheduler }.wakeReady)

/-- Change the world from outside, which may let rounds go on. -/
def onWorld (change : σ → σ) (t : Timeline σ) : Timeline σ :=
  { t with scheduler := t.scheduler.onWorld change }.wakeReady

/-- Do work of one's own beside the workers, which take their turns while it waits. The answer of the
work; none if a wait of it can never end. -/
def perform {α : Type} (services : ScheduleServices σ) :
    Activity σ α → Timeline σ → Option (α × Timeline σ)
  | .done value, t => some (value, t)
  | .act update next, t =>
    perform services (next t.scheduler.around.world) (t.onWorld update)
  | .wait pause next, t =>
    let ready (t : Timeline σ) : Bool := pause.ready t.scheduler.around.world
    match pause.after with
    | none => if ready t then perform services (next .ready 0) t else none
    | some after =>
      if ready t || after = 0 then perform services (next (if ready t then .ready else .due) 0) t
      else
        let later := t.waitUntil services ready (t.clock + after) patience
        perform services (next (if ready later then .ready else .due) (later.clock - t.clock)) later

end Timeline

end SiteWatch
