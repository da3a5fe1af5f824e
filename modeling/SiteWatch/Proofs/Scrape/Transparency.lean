/-
# What kept results stand for

The cache of a service knows results by their address alone, and two requests for one address may
ask for different steps, fields and frames. So a reuse need not be what its request would get with
kept results ruled out. What it is: what the request on record for the address could get at the time
when it was carried out, and with it every request that asks for the same, whatever it says about
kept results. Where only one task is ever asked for at an address, and the page brings the same at
all times, nobody can tell a reuse from a scrape.
-/

import SiteWatch.Proofs.Scrape.Reuse

namespace SiteWatch

variable {σ F : Type}

/-! ## The task of a request -/

namespace ScrapeRequest

/-- What a request asks for, whatever it says about kept results. -/
def task (request : ScrapeRequest) : ScrapeRequest :=
  { request with options := { request.options with useCache := false, cacheTtlSecs := none } }

/-- The request with kept results ruled out as its answer. -/
def afresh (request : ScrapeRequest) : ScrapeRequest :=
  { request with options := { request.options with useCache := false } }

end ScrapeRequest

namespace Attempt

variable {α β γ : Type}

theorem bind_assoc (first : Attempt σ α) (andThen : α → Attempt σ β) (last : β → Attempt σ γ) :
    (first >>= andThen) >>= last = first >>= fun a => andThen a >>= last := by
  refine (Activity.bind_assoc first.run _ _).trans ?_
  refine congrArg (first.run.bind ·) (funext fun outcome => ?_)
  cases outcome with
  | error cause => rfl
  | ok a => rfl

end Attempt

namespace ScrapeService

variable (service : ScrapeService σ F)

end ScrapeService

/-! ## What a request brings -/

/-- What most callers look at: whether a scrape went well, and its fields. -/
def ScrapeResult.verdict (result : ScrapeResult) : Bool × Members := (result.success, result.data)

namespace ScrapeService

variable (service : ScrapeService σ F)

/-- What a request can bring in some state of a service, with kept results ruled out. -/
def Brings (s : Scraping σ) (request : ScrapeRequest) (verdict : Bool × Members) : Prop :=
  ∃ result t, (service.scrape request.afresh).CanEnd Scraping.Undisturbed result t s ∧
    result.verdict = verdict

/-- A request brings the same in every state of a service. -/
def IsSettled (request : ScrapeRequest) (verdict : Bool × Members) : Prop :=
  ∀ s other, service.Brings s request other → other = verdict

variable {service}

-- Only `canEnd_scrapeAnew` is used of them; unfolded, they would swamp the unifier.
attribute [local irreducible] scrapeAnew fetch

end ScrapeService

namespace OnRecord

variable {ttlMs : Nat} {log : List Dealing} {answer : Answer}

theorem mem (honRecord : OnRecord ttlMs log answer) : .answered answer ∈ log := by
  obtain ⟨before, after, rfl, -⟩ := honRecord.lasts
  simp

end OnRecord

/-! ## Services in use -/

namespace HasDealt

-- Of scrapes, only what they can end with.
attribute [local irreducible] ScrapeService.scrape ScrapeService.scrapeAnew

variable {service : ScrapeService σ F} {ttlMs : Nat} {log : List Dealing} {s : Scraping σ}

/-- A service for a page with a title and a subtitle. -/
def titledPage : ScrapeService Rehearsal.Stage Rehearsal.FrameScript :=
  Rehearsal.service { texts := [("h1", ["Concerts"]), ("h2", ["Tonight"])] } .allowed
    [{ id := "events", domain := "example.com" }] "/shots" ⟨0, 0⟩

/-- The request for one field of that page. -/
def titledPage.request (name selector : String) : ScrapeRequest where
  url := "https://example.com/events"
  extractors := some [{ name, selector }]

end HasDealt

end SiteWatch
