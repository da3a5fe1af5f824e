/-
# Scraping

One request from its address to its result: a kept result if there is one and it will do, else the
robots rules, the site, the pause for politeness, the steps on the page, its fields and those of its
frames. Whatever goes wrong becomes a result that says so, and a browser that was started is always
closed.
-/

import SiteWatch.Extraction.Frames
import SiteWatch.Scrape.Cache
import SiteWatch.Scrape.Politeness
import SiteWatch.Scrape.Request
import SiteWatch.Scrape.Step
import SiteWatch.Site.Plan
import SiteWatch.Site.Source
import SiteWatch.Site.Validation

namespace SiteWatch

/-- What scraping needs around it. -/
structure ScrapeService (σ F : Type) where
  engine : PageEngine σ F
  /-- What the robots rules say about an address. -/
  robots : (url : String) → Activity σ RobotsStatus
  sites : SiteSource σ
  album : Album σ
  settings : ScrapeSettings := {}
  /-- The time of day. -/
  now : σ → Instant
  /-- The time since the service began, in milliseconds. -/
  uptimeMs : σ → Nat := fun _ => 0
  /-- A number drawn at random. -/
  draw : σ → Nat := fun _ => 0

/-- The state of a service: its kept results, and the state of what is around it. -/
structure Scraping (σ : Type) where
  cache : Cache := {}
  world : σ

/-- A state with the notes on one scrape beside it. -/
abbrev Noted (σ : Type) := ScrapeMetadata × σ

namespace Noted

variable {σ α : Type}

/-- Work that leaves the notes alone. -/
def quietly (work : Activity σ α) : Activity (Noted σ) α :=
  Activity.within Prod.snd (fun s noted => (noted.1, s)) work

/-- An attempt that leaves the notes alone. -/
def attempt (work : Attempt σ α) : Attempt (Noted σ) α := ExceptT.mk (quietly work.run)

/-- Change the notes. -/
def note (change : ScrapeMetadata → ScrapeMetadata) : Attempt (Noted σ) Unit :=
  Attempt.ofActivity (Activity.modify fun noted => (change noted.1, noted.2))

end Noted

namespace ScrapeRequest

/-- The page that a request asks for, if it may be asked for at all. -/
def page (request : ScrapeRequest) : Outcome Url := do
  let url ←
    match Url.parse request.url with
    | .error fault => throw (.invalid s!"invalid URL '{request.url}': {fault.message}")
    | .ok url => pure url
  unless url.isWeb do throw (.invalid s!"unsupported scheme '{url.scheme}'")
  validateOverrides request.instructions request.extractors
  return url

end ScrapeRequest

/-- One visit to a page of a site. -/
structure Visit where
  site : Site
  request : ScrapeRequest

namespace Visit

/-- The steps of a visit. -/
def plan (visit : Visit) : List Instruction :=
  planFor visit.request.url (visit.request.instructions.getD visit.site.instructions)

/-- The fields that a visit looks for. -/
def extractors (visit : Visit) : List Extractor :=
  visit.request.extractors.getD visit.site.extractors

/-- Whether a visit looks into frames. -/
def readsFrames (visit : Visit) : Bool :=
  visit.request.options.includeFrames && visit.site.options.waitForIframes

end Visit

namespace ScrapeService

variable {σ F : Type}

/-- The longest that closing a browser may take, in milliseconds. -/
def closeLimitMs : Nat := 10000

/-- Take a picture of the page and note where it is. That it fails is no failure of the scrape. -/
def picture (service : ScrapeService σ F) (visit : Visit) (page : Page σ F)
    (name : Instant → String) : Attempt (Noted σ) Unit := do
  let moment ← Noted.attempt (Attempt.step fun s => (.ok (service.now s), s))
  let saved ← Attempt.ofActivity (Noted.quietly
    (page.capture service.album (name moment) visit.site.options.timeoutMs).ok?)
  match saved with
  | some path => Noted.note fun notes => { notes with screenshot := some path }
  | none => pure ()

/-- Carry out steps, one after another, and count those that succeeded. -/
def follow (service : ScrapeService σ F) (visit : Visit) (page : Page σ F) :
    List Instruction → Attempt (Noted σ) Unit
  | [] => pure ()
  | i :: rest => do
    let succeeded ← Noted.attempt (i.execute page service.album visit.site.options)
    if succeeded then
      Noted.note fun notes => { notes with instructionsExecuted := notes.instructionsExecuted + 1 }
    service.follow visit page rest

/-- The fields of the page, and under the names of its frames those of the frames. -/
def gather (service : ScrapeService σ F) (visit : Visit) (page : Page σ F) :
    Attempt (Noted σ) Members := do
  let fields ← Noted.attempt (page.extract visit.extractors)
  Noted.note fun notes => { notes with extractorsRun := visit.extractors.length }
  if visit.readsFrames then
    let frames ← Attempt.ofActivity (Noted.quietly
      (service.engine.extractFrames page visit.extractors visit.site.options.iframeTimeoutMs))
    Noted.note fun notes => { notes with framesProcessed := frames.processed }
    return frames.sections.foldl (fun all member => Members.insert member.1 member.2 all) fields
  else return fields

/-- Do on the page all that a visit is for. -/
def attend (service : ScrapeService σ F) (visit : Visit) (page : Page σ F) :
    Attempt (Noted σ) Members := do
  service.follow visit page visit.plan
  let fields ← service.gather visit page
  let address ← Attempt.ofActivity (Noted.quietly page.address.ok?)
  Noted.note fun notes => { notes with finalUrl := address.join }
  let memory ← Attempt.ofActivity (Noted.quietly page.memoryUsage.ok?)
  Noted.note fun notes => { notes with memoryUsageBytes := memory.join }
  if visit.request.options.screenshot then
    service.picture visit page fun moment => s!"{visit.site.id}-{moment.milliseconds}"
  return fields

/-- Open a page for a visit and attend to it. The site may want a picture of a failure. -/
def drive (service : ScrapeService σ F) (visit : Visit) (browser : Browser σ F) :
    Attempt (Noted σ) Members := do
  let page ← Noted.attempt (browser.openPage visit.site.options)
  let outcome ← Attempt.ofActivity (service.attend visit page).run
  match outcome with
  | .ok fields => return fields
  | .error cause =>
    if visit.site.options.screenshotOnError then
      service.picture visit page fun moment => s!"error-{visit.site.id}-{moment.milliseconds}"
    throw cause

/-- Start a browser, drive it under the deadline of the request until it is called off, and close it
whatever happened. -/
def browse (service : ScrapeService σ F) (visit : Visit) : Attempt (Noted σ) Members := do
  let browser ← Noted.attempt (service.engine.start visit.site.options)
  let driven := (service.drive visit browser).timeout? visit.request.options.timeoutMs
  let outcome ← Attempt.ofActivity (driven.cancellable visit.request.url).run
  let _ ← Attempt.ofActivity (Noted.quietly (browser.close.timeout closeLimitMs).ok?)
  Attempt.ofOutcome outcome

/-- The visit that a request asks for, once the robots rules and the site allow it. -/
def approve (service : ScrapeService σ F) (request : ScrapeRequest) : Attempt (Noted σ) Visit := do
  let url ← Attempt.ofOutcome request.page
  let status ← Attempt.ofActivity (Noted.quietly (service.robots url.text))
  Noted.note fun notes => { notes with robotsTxtChecked := true, robotsTxtStatus := some status }
  unless status.permits do throw (.policyBlocked request.url)
  match ← Noted.attempt (service.sites.resolve url) with
  | none => throw (.configurationMissing request.url)
  | some site =>
    unless site.enabled do throw (.configurationMissing request.url)
    Noted.note fun notes => { notes with siteId := some site.id }
    return { site, request }

/-- Carry a request out, without a look at kept results. -/
def fetch (service : ScrapeService σ F) (request : ScrapeRequest) : Attempt (Noted σ) Members := do
  let visit ← service.approve request
  let drawn ← Noted.attempt (Attempt.step fun s => (.ok (service.draw s), s))
  let politeness : Politeness := ⟨visit.site.options.politenessDelayMs, service.settings.jitterMs⟩
  Noted.attempt (politeness.pass drawn)
  service.browse visit

/-- A kept result as the answer to a request. -/
def reused (result : ScrapeResult) : ScrapeResult :=
  { result with metadata := { result.metadata with cacheUsed := true, processingTimeMs := 0 } }

/-- The result of a request that was carried out. -/
def resultOf (request : ScrapeRequest) (outcome : Outcome Members) (notes : ScrapeMetadata)
    (moment : Instant) : ScrapeResult :=
  match outcome with
  | .ok fields => .succeeded request.url fields notes moment
  | .error cause => .failed request.url cause notes moment

/-- Keep a result that went well. -/
def keep (service : ScrapeService σ F) (request : ScrapeRequest) (result : ScrapeResult)
    (s : Scraping σ) : Scraping σ :=
  if result.success then
    let ttlMs := request.options.cacheTtlMs
    { s with cache := s.cache.insert (service.uptimeMs s.world) request.url result ttlMs }
  else s

/-- Work on what is around the service. -/
def onWorld {α : Type} (work : Activity σ α) : Activity (Scraping σ) α :=
  Activity.within Scraping.world (fun world s => { s with world }) work

/-- Carry a request out and keep what it brings. -/
def scrapeAnew (service : ScrapeService σ F) (request : ScrapeRequest) :
    Activity (Scraping σ) ScrapeResult := do
  let began ← onWorld (Activity.step fun s => (service.uptimeMs s, s))
  let (outcome, notes) ← onWorld (Activity.withNotes {} (service.fetch request).run)
  Activity.step fun s =>
    let took := service.uptimeMs s.world - began
    let result := resultOf request outcome { notes with processingTimeMs := took }
      (service.now s.world)
    (result, service.keep request result s)

/-- Answer a request: from the kept results, if the request allows that, or by carrying it out. -/
def scrape (service : ScrapeService σ F) (request : ScrapeRequest) :
    Activity (Scraping σ) ScrapeResult :=
  if request.options.useCache then
    (Activity.step fun s =>
      let (found, cache) := s.cache.get (service.uptimeMs s.world) request.url
      (found, { s with cache })).bind fun found =>
    match found with
    | some result => .done (reused result)
    | none => service.scrapeAnew request
  else service.scrapeAnew request

end ScrapeService

end SiteWatch
