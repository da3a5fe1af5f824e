/-
# Rehearsed schedules

Collaborators of the scheduler that keep everything in memory and go wrong as told: a register, a
store of results, a channel for notices, and a scraper whose calls may have to wait at a gate.
-/

import SiteWatch.Rehearsal.Service
import SiteWatch.Schedule.Register
import SiteWatch.Schedule.Timeline

namespace SiteWatch.Rehearsal

/-- A gate at which scrapes wait until they are let through, first come, first served. -/
structure Gate where
  /-- How many may still pass without waiting. -/
  permits : Nat := 0
  /-- The tickets of those who wait. -/
  waiting : List Nat := []
  /-- The tickets of those who are let through. -/
  called : List Nat := []
  /-- The number of the next ticket. -/
  next : Nat := 0
deriving DecidableEq, Repr, Inhabited

namespace Gate

/-- Let some through: those who wait first, the rest whenever they come. -/
def release (gate : Gate) (calls : Nat) : Gate :=
  { gate with
    called := gate.called ++ gate.waiting.take calls
    waiting := gate.waiting.drop calls
    permits := gate.permits + (calls - gate.waiting.length) }

/-- Come to the gate: pass at once, or take a ticket. -/
def arrive (gate : Gate) : Option Nat × Gate :=
  if gate.permits > 0 then (none, { gate with permits := gate.permits - 1 })
  else (some gate.next,
    { gate with waiting := gate.waiting ++ [gate.next], next := gate.next + 1 })

/-- Pass with a ticket that was called. -/
def pass (gate : Gate) (ticket : Nat) : Gate := { gate with called := gate.called.erase ticket }

/-- Go away with a ticket; if it was called already, the next one is called instead. -/
def giveUp (gate : Gate) (ticket : Nat) : Gate :=
  if gate.called.contains ticket then (gate.pass ticket).release 1
  else { gate with waiting := gate.waiting.erase ticket }

end Gate

/-- How the register goes wrong. -/
structure RegisterFaults where
  /-- The failure of every reading of the register. -/
  list : Option Failure := none
  /-- The failure of every bookkeeping. -/
  record : Option Failure := none
  /-- An id that bookkeeping finds no longer registered. -/
  removed : Option String := none
deriving DecidableEq, Repr, Inhabited

/-- What surrounds a rehearsed scheduler. -/
structure Backstage where
  register : Register := []
  faults : RegisterFaults := {}
  /-- The requests of the scheduler, in order. -/
  requests : List ScrapeRequest := []
  /-- The addresses whose scrapes fail. -/
  failing : List String := []
  /-- The gate that scrapes wait at, if there is one. -/
  gate : Option Gate := none
  /-- The pages that are scraped, where they are rehearsed too. -/
  scraping : Scraping Stage
  /-- The results stored, with the ids of their sites. -/
  saved : List (String × ScrapeResult) := []
  /-- The failure of every storing. -/
  saveFailure : Option String := none
  notices : List Notice := []
  /-- The failure of every notice. -/
  noticeFailure : Option String := none

namespace Backstage

/-- Write bookkeeping into the register. -/
def record (siteId : String) (history : Bookkeeping) (b : Backstage) : Outcome Bool × Backstage :=
  match b.faults.record with
  | some cause => (.error cause, b)
  | none =>
    if b.faults.removed = some siteId ∨ !b.register.has siteId then (.ok false, b)
    else (.ok true, { b with register := b.register.record siteId history })

/-- Store a result. -/
def save (siteId : String) (result : ScrapeResult) (b : Backstage) : Outcome String × Backstage :=
  match b.saveFailure with
  | some reason => (.error (.storage reason), b)
  | none =>
    let saved := b.saved ++ [(siteId, result)]
    (.ok s!"{siteId}_{saved.length}.json", { b with saved })

/-- Send a notice. -/
def notify (notice : Notice) (b : Backstage) : Outcome Unit × Backstage :=
  (match b.noticeFailure with
    | some reason => .error (.networkFailed reason)
    | none => .ok (),
   { b with notices := b.notices ++ [notice] })

/-- The result of a scrape that is not rehearsed in detail: the address as the title. -/
def answer (now : Instant) (url : String) (b : Backstage) : ScrapeResult :=
  if b.failing.contains url then .failed url (.networkFailed "connection refused") {} now
  else .succeeded url [("title", .string url)] {} now

/-- Change the gate. -/
def onGate (change : Gate → Gate) (b : Backstage) : Backstage := { b with gate := b.gate.map change }

/-- Come to the gate, if there is one. -/
def arrive (b : Backstage) : Option Nat × Backstage :=
  match b.gate with
  | none => (none, b)
  | some gate =>
    let (ticket, gate) := gate.arrive
    (ticket, { b with gate := some gate })

/-- Whether a ticket is called. -/
def isCalled (ticket : Nat) (b : Backstage) : Bool := b.gate.any (·.called.contains ticket)

/-- Note a request, wait at the gate, and answer. -/
def scrape (now : Instant) (request : ScrapeRequest) : Activity Backstage ScrapeResult :=
  let finish : Activity Backstage ScrapeResult :=
    Activity.step fun b => (b.answer now request.url, b)
  (Activity.step fun b => { b with requests := b.requests ++ [request] }.arrive).bind fun
    | none => finish
    | some ticket =>
      .wait { ready := isCalled ticket, heeds := true } fun
        | .cancelled, _ => .act (onGate (·.giveUp ticket)) fun _ =>
          .done (.failed request.url (.cancelled request.url) {} now)
        | _, _ => .act (onGate (·.pass ticket)) fun _ => finish

/-- Scrape by a rehearsed service. -/
def scrapeBy (service : ScrapeService Stage FrameScript) (request : ScrapeRequest) :
    Activity Backstage ScrapeResult :=
  Activity.within Backstage.scraping (fun scraping b => { b with scraping }) (service.scrape request)

/-- The collaborators of a rehearsed scheduler, at a time of day that stands still. -/
def services (settings : ScheduleSettings) (now : Instant)
    (scrape : ScrapeRequest → Activity Backstage ScrapeResult) : ScheduleServices Backstage where
  settings
  now _ := now
  register b := match b.faults.list with
    | some cause => .error cause
    | none => .ok b.register
  record
  scrape
  save
  notify

end Backstage

end SiteWatch.Rehearsal
