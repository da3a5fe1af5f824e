/-
# The proceedings of a round

What a round asks of those it works with, in the order in which it asks, and what it is answered.
The services of a scheduler are wrapped so that every call is written down beside the world; nothing
else changes. A round then takes turns with everything else that goes on in the world: between two
of its steps the world may change, its job may be called off, and time passes.
-/

import Mathlib.Algebra.GroupWithZero.Nat
import SiteWatch.Schedule.Round

namespace SiteWatch

variable {σ : Type}

/-! ## Calls -/

/-- Something that a round asks for, with the answer. -/
inductive Call where
  /-- Bookkeeping is to be written back, at some time of day. -/
  | record (moment : Instant) (siteId : String) (history : Bookkeeping) (outcome : Outcome Bool)
  | scrape (request : ScrapeRequest)
  /-- A scrape is over. -/
  | answer (result : ScrapeResult)
  | save (siteId : String) (result : ScrapeResult) (outcome : Outcome String)
  | notify (notice : Notice) (outcome : Outcome Unit)

/-- A world with the calls so far written down beside it. -/
abbrev Logged (σ : Type) := List Call × σ

namespace Logged

/-- Write a call down. -/
def write (call : Call) (w : Logged σ) : Logged σ := (w.1 ++ [call], w.2)

end Logged

namespace Activity

/-- A scrape whose answer is written down. -/
def answering (work : Activity σ ScrapeResult) : Activity (Logged σ) ScrapeResult :=
  (within Prod.snd (fun s w => (w.1, s)) work).bind fun result =>
    .act (Logged.write (.answer result)) fun _ => .done result

end Activity

/-- Services whose calls are written down. -/
def ScheduleServices.logged (services : ScheduleServices σ) : ScheduleServices (Logged σ) where
  settings := services.settings
  now w := services.now w.2
  register w := services.register w.2
  record siteId history w :=
    let (outcome, s) := services.record siteId history w.2
    (outcome, (w.1 ++ [.record (services.now w.2) siteId history outcome], s))
  scrape request :=
    .act (Logged.write (.scrape request)) fun _ => (services.scrape request).answering
  save siteId result w :=
    let (outcome, s) := services.save siteId result w.2
    (outcome, (w.1 ++ [.save siteId result outcome], s))
  notify notice w :=
    let (outcome, s) := services.notify notice w.2
    (outcome, (w.1 ++ [.notify notice outcome], s))

@[simp]
theorem ScheduleServices.now_logged (services : ScheduleServices σ) (w : Logged σ) :
    services.logged.now w = services.now w.2 := rfl

/-! ## Turns -/

/-- What goes on before a step of a round. -/
structure Turn (σ : Type) where
  /-- What others do to the world. -/
  change : σ → σ := id
  /-- Whether the job is called off. -/
  callOff : Bool := false
  /-- How long the round has waited, in milliseconds. -/
  elapsed : Nat := 0

/-- A round and its surroundings, with its calls written down. -/
structure Hearing (σ : Type) where
  round : Round (Logged σ)
  around : Surroundings (Logged σ)

namespace Hearing

/-- The calls so far. -/
def log (h : Hearing σ) : List Call := h.around.world.1

/-- What goes on before the step of a turn. -/
def await (turn : Turn σ) (h : Hearing σ) : Hearing σ where
  round := { h.round with cancelled := h.round.cancelled || turn.callOff }
  around := { h.around with world := (h.log, turn.change h.around.world.2) }

/-- The step of a round. -/
def proceed (services : ScheduleServices σ) (elapsed : Nat) (h : Hearing σ) : Hearing σ :=
  let (round, around) := h.round.step services.logged elapsed h.around
  { round, around }

/-- One turn. -/
def turn (services : ScheduleServices σ) (turn : Turn σ) (h : Hearing σ) : Hearing σ :=
  (h.await turn).proceed services turn.elapsed

/-- A job that was just launched, with nothing written down. -/
def opening (job : Job) (registration : Registration) (world : σ) : Hearing σ where
  round := Round.launch job registration
  around := { world := ([], world) }

/-- The state after some turns. -/
def after (services : ScheduleServices σ) (turns : Nat → Turn σ) (h : Hearing σ) :
    Nat → Hearing σ
  | 0 => h
  | n + 1 => (h.after services turns n).turn services (turns n)

/-- What the step of a turn finds, after some turns. -/
def awaited (services : ScheduleServices σ) (turns : Nat → Turn σ) (h : Hearing σ) (n : Nat) :
    Hearing σ :=
  (h.after services turns n).await (turns n)

/-- No scrape waits forever: each of its waits is ended in some turn. -/
def NeverStuck (services : ScheduleServices σ) (turns : Nat → Turn σ) (h : Hearing σ) : Prop :=
  ∀ n url rest pause next,
    (h.after services turns n).round.phase = .scraping url rest (.wait pause next) →
      ∃ m, n ≤ m ∧ (Activity.wakeNow? pause (h.awaited services turns m).round.cancelled
        (turns m).elapsed (h.awaited services turns m).around.world).isSome

/-- When the end of a round is to be recorded, there is a moment so many days later. -/
def HasDates (services : ScheduleServices σ) (turns : Nat → Turn σ) (days : Nat) (h : Hearing σ) :
    Prop :=
  ∀ n, (h.awaited services turns n).round.phase = .finishing →
    ((services.now (h.awaited services turns n).around.world.2).plusDays? days).isSome

end Hearing

/-! ## The course of a round -/

/-- What became of one page. -/
structure PageVisit where
  url : String
  result : ScrapeResult
  /-- The answer to storing the result, if it was to be stored. -/
  saved : Option (Outcome String) := none
  /-- The answer to telling that the page was not scraped, if that was told. -/
  told : Option (Outcome Unit) := none

namespace PageVisit

/-- Every result of a page that was scraped is stored, and no other; of every other page it is told
that it was not scraped, if that is wanted. -/
structure IsProper (wanted : Preferences) (visit : PageVisit) : Prop where
  saved : visit.saved.isSome = visit.result.success
  told : visit.told.isSome = (!visit.result.success && wanted.onError)

/-- Whether the result was to be stored and was not. -/
def isLost (visit : PageVisit) : Bool :=
  match visit.saved with
  | some (.error _) => true
  | _ => false

/-- The calls for one page. -/
def calls (siteId : String) (visit : PageVisit) : List Call :=
  [.scrape { url := visit.url : ScrapeRequest }.withoutCache, .answer visit.result]
    ++ visit.saved.toList.map (.save siteId visit.result)
    ++ visit.told.toList.map
      (.notify (.error siteId visit.url ("; ".intercalate visit.result.errors)))

/-! What became of several pages, one after another. -/

/-- The pages that were scraped. -/
def successes (visits : List PageVisit) : List PageVisit := visits.filter (·.result.success)

/-- How many errors there were in scraping and storing. -/
def faults (visits : List PageVisit) : Nat :=
  visits.countP (fun visit => !visit.result.success) + visits.countP isLost

/-- What the pages have brought. -/
def payload (visits : List PageVisit) : Members :=
  (successes visits).foldl
    (fun payload visit => Members.insert visit.url (.object visit.result.data) payload) []

/-- The digest of what the pages have brought, if any was scraped. -/
def hash? (visits : List PageVisit) : Option String :=
  (successes visits).head?.map fun _ => (Json.object (payload visits)).digest

end PageVisit

/-- What became of one round. -/
structure Proceedings where
  startedAt : Instant
  /-- The answer to writing back that the round has begun. -/
  startWritten : Outcome Bool
  visits : List PageVisit
  /-- The answer to telling that there is new content, if that is told. -/
  announced : Outcome Unit
  endedAt : Instant
  nextCheckAt : Instant
  /-- The answer to writing back that the round has ended. -/
  endWritten : Outcome Bool

namespace Proceedings

/-- Whether the pages have brought anything new. -/
def isNews (registration : Registration) (p : Proceedings) : Bool :=
  (PageVisit.hash? p.visits).any fun hash => registration.history.lastContentHash != some hash

/-- What is told of new content. -/
def announcement? (registration : Registration) (p : Proceedings) : Option Notice :=
  if p.isNews registration && registration.notifications.onNewContent then
    (PageVisit.successes p.visits).head?.map fun visit =>
      .newContent registration.id visit.url (Json.object (PageVisit.payload p.visits)).digest
  else none

/-- The bookkeeping that is written back at the end. -/
def bookkeeping (history : Bookkeeping) (p : Proceedings) : Bookkeeping where
  totalRuns := history.totalRuns + 1
  lastCheckedAt := some p.startedAt
  nextCheckAt := some p.nextCheckAt
  lastSuccessAt :=
    if (PageVisit.successes p.visits).isEmpty then history.lastSuccessAt else some p.endedAt
  consecutiveFailures :=
    if (PageVisit.successes p.visits).isEmpty then history.consecutiveFailures + 1 else 0
  lastContentHash := (PageVisit.hash? p.visits).or history.lastContentHash

/-- The calls of a round but the last one: its start, its pages, the news. -/
def callsBeforeEnd (registration : Registration) (p : Proceedings) : List Call :=
  [.record p.startedAt registration.id (registration.history.started p.startedAt) p.startWritten]
    ++ p.visits.flatMap (PageVisit.calls registration.id)
    ++ (p.announcement? registration).toList.map (.notify · p.announced)

/-- All calls of a round: those before its end, and its end. -/
def calls (registration : Registration) (p : Proceedings) : List Call :=
  p.callsBeforeEnd registration
    ++ [.record p.endedAt registration.id (p.bookkeeping registration.history) p.endWritten]

/-- The round in numbers. -/
def summary (registration : Registration) (p : Proceedings) : JobSummary where
  urlsScraped := p.visits.length
  itemsExtracted := ((PageVisit.successes p.visits).map (·.result.itemCount)).sum
  errorsEncountered := PageVisit.faults p.visits
  newContentFound := p.isNews registration
  contentHash := PageVisit.hash? p.visits

/-- How often writing bookkeeping back has failed. -/
def unwritten (p : Proceedings) : Nat :=
  [p.startWritten, p.endWritten].countP fun outcome => !outcome.isOk

end Proceedings

end SiteWatch
