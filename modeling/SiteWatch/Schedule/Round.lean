/-
# Rounds

One round of a registered site, as a job goes through it: its start is recorded, its pages are scraped
one after another, what they bring is stored, the content is compared with that of the round before,
the end is recorded, and the job leaves. A round is cut into phases. Each phase does one thing to the
world, so that rounds of different sites may be interleaved phase by phase.
-/

import SiteWatch.Digest.Content
import SiteWatch.Schedule.Event
import SiteWatch.Schedule.Services

namespace SiteWatch

/-- What a round has brought so far. -/
structure Harvest where
  summary : JobSummary := {}
  /-- The fields of every page that was scraped, by its address. -/
  payload : Members := []
  /-- The first page that was scraped. -/
  firstSuccess : Option String := none
deriving BEq, Repr, Inhabited

/-- Where a round stands. -/
inductive Phase (σ : Type) where
  /-- The start is not yet recorded. -/
  | starting
  /-- These pages are left. -/
  | choosing (urls : List String)
  /-- A page is being scraped. -/
  | scraping (url : String) (rest : List String) (work : Activity σ ScrapeResult)
  /-- A page has been scraped, and its result is not yet dealt with. -/
  | received (url : String) (rest : List String) (result : ScrapeResult)
  /-- The content is not yet compared. -/
  | concluding
  /-- The end is not yet recorded. -/
  | finishing
  /-- The end is not yet told. -/
  | reporting
  /-- The job is still among those that run. -/
  | leaving
  /-- The round broke off, and its job never leaves. -/
  | lost

/-- A job at work on a round. -/
structure Round (σ : Type) where
  job : Job
  /-- The registration as it was when the job was launched, with the bookkeeping of this round. -/
  registration : Registration
  /-- Whether the job is called off. -/
  cancelled : Bool := false
  harvest : Harvest := {}
  phase : Phase σ := .starting

/-- What a step of a round does to what it shares with others: the world, and the events told. -/
structure Surroundings (σ : Type) where
  world : σ
  events : List ScheduleEvent := []

namespace Activity

variable {σ α : Type}

/-- What ends a wait now, `elapsed` milliseconds after its beginning. -/
def wakeNow? (pause : Pause σ) (cancelled : Bool) (elapsed : Nat) (s : σ) : Option Wake :=
  if pause.heeds && cancelled then some .cancelled
  else if pause.ready s then some .ready
  else if pause.after.any (· ≤ elapsed) then some .due
  else none

/-- Go on with work whose wait began `elapsed` milliseconds ago, as far as it goes. -/
def resume (cancelled : Bool) (elapsed : Nat) : Activity σ α → σ → Activity σ α × σ
  | done value, s => (done value, s)
  | act update next, s => (next s).resume cancelled elapsed (update s)
  | wait pause next, s =>
    match wakeNow? pause cancelled elapsed s with
    | some wake => (next wake elapsed).resume cancelled 0 s
    | none => (wait pause next, s)

end Activity

namespace Surroundings

variable {σ : Type}

/-- Tell an event. -/
def tell (s : Surroundings σ) (event : ScheduleEvent) : Surroundings σ :=
  { s with events := s.events ++ [event] }

/-- Send a notice if it is wanted; that this fails changes nothing. -/
def send (services : ScheduleServices σ) (wanted : Bool) (notice : Notice) (s : Surroundings σ) :
    Surroundings σ :=
  if wanted then { s with world := (services.notify notice s.world).2 } else s

end Surroundings

namespace Harvest

/-- Take in a page that was scraped. -/
def gain (h : Harvest) (url : String) (result : ScrapeResult) : Harvest :=
  { summary := { h.summary with
      urlsScraped := h.summary.urlsScraped + 1
      itemsExtracted := h.summary.itemsExtracted + result.itemCount }
    payload := Members.insert url (.object result.data) h.payload
    firstSuccess := h.firstSuccess.or (some url) }

/-- Take in a page that was not scraped. -/
def miss (h : Harvest) : Harvest :=
  { h with summary := { h.summary with
      urlsScraped := h.summary.urlsScraped + 1
      errorsEncountered := h.summary.errorsEncountered + 1 } }

/-- Count an error. -/
def fault (h : Harvest) : Harvest :=
  { h with summary := { h.summary with errorsEncountered := h.summary.errorsEncountered + 1 } }

/-- The digest of what a round brought. -/
def digest (h : Harvest) : String := (Json.object h.payload).digest

end Harvest

namespace Round

variable {σ : Type}

/-- A job that was just launched for a registration. -/
def launch (job : Job) (registration : Registration) : Round σ := { job, registration }

/-- Add an error to a job. -/
def addError (round : Round σ) (text : String) : Round σ :=
  { round with job := { round.job with errors := round.job.errors ++ [text] } }

/-- Note a line in a job. -/
def note (round : Round σ) (now : Instant) (line : String) : Round σ :=
  { round with job := round.job.note now line }

/-- Write the bookkeeping of a round back. A failure is an error of the job. -/
def recordIn (services : ScheduleServices σ) (round : Round σ) (s : Surroundings σ) :
    Round σ × Surroundings σ :=
  let (outcome, world) := services.record round.registration.id round.registration.history s.world
  let s := { s with world }
  match outcome with
  | .ok _ => (round, s)
  | .error cause => (round.addError s!"registration update failed: {cause.message}", s)

/-- Record the start. -/
def start (services : ScheduleServices σ) (round : Round σ) (s : Surroundings σ) :
    Round σ × Surroundings σ :=
  let registration := round.registration.markStarted (services.now s.world)
  let (round, s) := { round with registration : Round σ }.recordIn services s
  ({ round with phase := .choosing registration.urls }, s)

/-- Go on to the next page, or to the end. -/
def choose (services : ScheduleServices σ) (round : Round σ) (s : Surroundings σ) :
    List String → Round σ × Surroundings σ
  | [] => ({ round with phase := .concluding }, s)
  | url :: rest =>
    let work := services.scrape { url : ScrapeRequest }.withoutCache
    let round := round.note (services.now s.world) s!"scraping {url}"
    ({ round with phase := .scraping url rest work }, s)

/-- Go on with the scrape of a page. -/
def proceed (round : Round σ) (url : String) (rest : List String) (work : Activity σ ScrapeResult)
    (elapsed : Nat) (s : Surroundings σ) : Round σ × Surroundings σ :=
  let (work, world) := work.resume round.cancelled elapsed s.world
  let phase : Phase σ :=
    match work with
    | .done result => .received url rest result
    | work => .scraping url rest work
  ({ round with phase }, { s with world })

/-- Store the result of a page that was scraped. -/
def store (services : ScheduleServices σ) (round : Round σ) (url : String) (result : ScrapeResult)
    (s : Surroundings σ) : Round σ × Surroundings σ :=
  let round := { round with harvest := round.harvest.gain url result }
  let (outcome, world) := services.save round.registration.id result s.world
  let s := { s with world }
  match outcome with
  | .ok file => (round.note (services.now world) s!"saved {file}", s)
  | .error cause =>
    ({ round with harvest := round.harvest.fault }.addError s!"{url}: {cause.message}", s)

/-- Tell that a page was not scraped. -/
def complain (services : ScheduleServices σ) (round : Round σ) (url : String) (result : ScrapeResult)
    (s : Surroundings σ) : Round σ × Surroundings σ :=
  let error := "; ".intercalate result.errors
  let notice := Notice.error round.registration.id url error
  let s := (s.tell (.urlFailed round.job.id url error)).send services
    round.registration.notifications.onError notice
  ({ round with harvest := round.harvest.miss }.addError s!"{url}: {error}", s)

/-- Deal with the result of a page. -/
def receive (services : ScheduleServices σ) (round : Round σ) (url : String) (rest : List String)
    (result : ScrapeResult) (s : Surroundings σ) : Round σ × Surroundings σ :=
  let (round, s) :=
    if result.success then round.store services url result s
    else round.complain services url result s
  ({ round with phase := .choosing rest }, s)

/-- Whether the content is not that of the last round that brought any. -/
def isNew (round : Round σ) : Bool :=
  round.registration.history.lastContentHash != some round.harvest.digest

/-- The round with its content compared. -/
def compared (round : Round σ) : Round σ :=
  { round with
    harvest := { round.harvest with summary := { round.harvest.summary with
      newContentFound := round.isNew, contentHash := some round.harvest.digest } }
    registration := { round.registration with history := { round.registration.history with
      lastContentHash := some round.harvest.digest } } }

/-- Compare the content with that of the round before, if there is any, and tell that it is new. -/
def conclude (services : ScheduleServices σ) (round : Round σ) (s : Surroundings σ) :
    Round σ × Surroundings σ :=
  match round.harvest.firstSuccess with
  | none => ({ round with phase := .finishing }, s)
  | some url =>
    let siteId := round.registration.id
    let hash := round.harvest.digest
    let s :=
      if round.isNew then
        (s.tell (.newContent siteId hash)).send services
          round.registration.notifications.onNewContent (.newContent siteId url hash)
      else s
    ({ round.compared with phase := .finishing }, s)

/-- Whether a round brought anything. -/
def succeeded (round : Round σ) : Bool := round.harvest.firstSuccess.isSome

/-- Record the end. There is no moment for the next round when its distance is far too large; then
the round breaks off. -/
def finish (services : ScheduleServices σ) (round : Round σ) (s : Surroundings σ) :
    Round σ × Surroundings σ :=
  match round.registration.markFinished? (services.now s.world) round.succeeded with
  | none => ({ round with phase := .lost }, s)
  | some registration =>
    let (round, s) := { round with registration : Round σ }.recordIn services s
    ({ round with phase := .reporting }, s)

/-- The state in which a round ends. -/
def finalStatus (round : Round σ) : JobStatus := if round.succeeded then .completed else .failed

/-- Tell the end. -/
def report (services : ScheduleServices σ) (round : Round σ) (s : Surroundings σ) :
    Round σ × Surroundings σ :=
  let summary := round.harvest.summary
  let job := { round.job with results := some summary }.finish (services.now s.world)
    round.finalStatus
  ({ round with job, phase := .leaving },
    s.tell (.finished job.id round.registration.id job.status summary))

/-- One step of a round other than its leaving; `elapsed` is how long it has waited. -/
def step (services : ScheduleServices σ) (elapsed : Nat) (round : Round σ) (s : Surroundings σ) :
    Round σ × Surroundings σ :=
  match round.phase with
  | .starting => round.start services s
  | .choosing urls => round.choose services s urls
  | .scraping url rest work => round.proceed url rest work elapsed s
  | .received url rest result => round.receive services url rest result s
  | .concluding => round.conclude services s
  | .finishing => round.finish services s
  | .reporting => round.report services s
  | .leaving | .lost => (round, s)

/-- Whether a round cannot go on by itself now. -/
def rests (round : Round σ) : Bool :=
  match round.phase with
  | .scraping _ _ (.wait ..) | .lost => true
  | _ => false

/-- A bound of the steps that are left: each one makes it smaller, unless the round rests. -/
def stepsLeft (round : Round σ) : Nat :=
  match round.phase with
  | .starting => 3 * round.registration.urls.length + 6
  | .choosing urls => 3 * urls.length + 5
  | .scraping _ rest _ => 3 * rest.length + 7
  | .received _ rest _ => 3 * rest.length + 6
  | .concluding => 4
  | .finishing => 3
  | .reporting => 2
  | .leaving => 1
  | .lost => 0

end Round

end SiteWatch
