/-
# Courses of events around a scheduler

A scheduler shares its state with ticks, with the tasks of its jobs, with the watches over them and
with whoever starts and stops it. This module cuts all of them into happenings, each of which is
done at once, and lets them follow one another in any order. A tick is two happenings: it reads the
register, and later launches jobs for what it has read, which may be out of date by then.

No order of happenings is ruled out, so what holds along every course holds for every interleaving
that a machine can bring about, and for some that it cannot.
-/

import SiteWatch.Schedule.Timeline

namespace SiteWatch

variable {σ : Type}

/-! ## What a round writes back -/

namespace Round

/-- Whether the start of a round is still to be recorded. -/
def isStarting (round : Round σ) : Bool :=
  match round.phase with
  | .starting => true
  | _ => false

/-- The bookkeeping that the next step of a round writes back, if that step writes any. -/
def writing? (services : ScheduleServices σ) (round : Round σ) (world : σ) : Option Bookkeeping :=
  match round.phase with
  | .starting => some (round.registration.markStarted (services.now world)).history
  | .finishing =>
    (round.registration.markFinished? (services.now world) round.succeeded).map (·.history)
  | _ => none

/-- Whether the next step of a round writes bookkeeping back and the register takes it. -/
def records (services : ScheduleServices σ) (round : Round σ) (world : σ) : Bool :=
  match round.writing? services world with
  | none => false
  | some history =>
    match (services.record round.registration.id history world).1 with
    | .ok found => found
    | .error _ => false

end Round

/-! ## Happenings -/

/-- What a tick has read. -/
structure Reading where
  /-- The registrations that were due, in the order in which they are looked at. -/
  due : List Registration
  /-- How many jobs had their start on record then. -/
  begunBefore : Nat

/-- A scheduler, the ticks under way, and an account of the starts on record. The account is kept
for its readers alone: no happening depends on it. -/
structure Course (σ : Type) where
  scheduler : Scheduler σ
  readings : List Reading := []
  /-- The site and the job of every start on record, in the order in which they were recorded. -/
  begun : List (String × JobId) := []
  /-- How many starts were on record when the tick that launched a job read the register. -/
  begunBefore : JobId → Nat := fun _ => 0

/-- Something that is done to a scheduler at once. -/
inductive Happening (σ : Type) where
  | start
  /-- A stop takes back the wish for the loop. -/
  | unwant
  | announceStop
  /-- A stop that found a number of jobs in flight abandons what still runs. -/
  | endStop (inFlight : Nat)
  /-- A tick reads the register. -/
  | read
  /-- The tick whose reading stands at a place launches jobs. -/
  | launch (place : Nat)
  /-- The task of a job takes a step, after a wait of some milliseconds. -/
  | advance (job : JobId) (elapsed : Nat)
  /-- The watch over a job fires. -/
  | callOff (job : JobId)
  /-- The loop says when it will tick next. -/
  | planTick (next : Option Instant)
  /-- Something else happens to the world. -/
  | elsewhere (change : σ → σ)

namespace Course

/-- A scheduler that was just built. -/
def fresh (world : σ) : Course σ := { scheduler := { around := { world } } }

/-- The world around the scheduler. -/
def world (c : Course σ) : σ := c.scheduler.around.world

/-- A tick reads the register; a tick that cannot is over. -/
def read (services : ScheduleServices σ) (c : Course σ) : Course σ :=
  match c.scheduler.due services with
  | .ok due => { c with readings := c.readings ++ [⟨due, c.begun.length⟩] }
  | .error _ => c

/-- A tick launches jobs for what it has read. -/
def launch (services : ScheduleServices σ) (place : Nat) (c : Course σ) : Course σ :=
  match c.readings[place]? with
  | none => c
  | some reading =>
    { c with
      scheduler := (c.scheduler.launchDue services reading.due).2
      readings := c.readings.eraseIdx place
      begunBefore := fun job =>
        if job.number < c.scheduler.launched then c.begunBefore job else reading.begunBefore }

/-- The starts on record once the round of a job has taken its next step. -/
def begunAfter (services : ScheduleServices σ) (job : JobId) (c : Course σ) :
    List (String × JobId) :=
  match c.scheduler.round? job with
  | none => c.begun
  | some round =>
    if round.isStarting && round.records services c.world
    then c.begun ++ [(round.registration.id, round.job.id)] else c.begun

/-- What a happening makes of a course. -/
def after (services : ScheduleServices σ) (c : Course σ) : Happening σ → Course σ
  | .start => { c with scheduler := (c.scheduler.start services).2 }
  | .unwant => { c with scheduler := { c.scheduler with looping := false } }
  | .announceStop => { c with scheduler := c.scheduler.announceStop.2 }
  | .endStop inFlight => { c with scheduler := (c.scheduler.endStop services inFlight).2 }
  | .read => c.read services
  | .launch place => c.launch services place
  | .advance job elapsed =>
    { c with
      scheduler := c.scheduler.stepRound services job elapsed
      begun := c.begunAfter services job }
  | .callOff job => { c with scheduler := c.scheduler.callOff job }
  | .planTick next => { c with scheduler := { c.scheduler with nextTickAt := next } }
  | .elsewhere change => { c with scheduler := c.scheduler.onWorld change }

/-- What happenings make of a course, one after another. -/
def run (services : ScheduleServices σ) (c : Course σ) (happenings : List (Happening σ)) :
    Course σ :=
  happenings.foldl (after services) c

@[simp]
theorem run_nil (services : ScheduleServices σ) (c : Course σ) : c.run services [] = c := rfl

@[simp]
theorem run_cons (services : ScheduleServices σ) (c : Course σ) (happening : Happening σ)
    (rest : List (Happening σ)) :
    c.run services (happening :: rest) = (c.after services happening).run services rest := rfl

theorem run_append (services : ScheduleServices σ) (c : Course σ)
    (first second : List (Happening σ)) :
    c.run services (first ++ second) = (c.run services first).run services second :=
  List.foldl_append

/-- What holds at the beginning and survives every happening holds along every course. -/
theorem run_induction {motive : Course σ → Prop} {services : ScheduleServices σ} {c : Course σ}
    (hstart : motive c)
    (hstep : ∀ (c : Course σ) (happening : Happening σ), motive c →
      motive (c.after services happening))
    (happenings : List (Happening σ)) : motive (c.run services happenings) := by
  induction happenings generalizing c with
  | nil => exact hstart
  | cons happening rest ih => exact ih (hstep c happening hstart)

end Course

end SiteWatch
