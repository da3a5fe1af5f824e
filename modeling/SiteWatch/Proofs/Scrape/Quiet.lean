/-
# What a visit leaves alone

A visit reaches the world through the calls of a page, of the frames of an engine and of an album,
and in no other way. So a part of the state that each of these calls leaves alone is left alone by
the whole visit, up to the closing of the browser.
-/

import SiteWatch.Proofs.Activity
import SiteWatch.Scrape.Service

namespace SiteWatch

variable {σ τ F : Type} {view : σ → τ}

/-! ## Calls that leave a part of the state alone -/

/-- A document whose every call leaves a part of the state alone. -/
structure Document.Keeps (view : σ → τ) (document : Document σ F) : Prop where
  select : ∀ selector attributeName multiple,
    Attempt.Keeps view (document.select selector attributeName multiple)
  contentFrame : ∀ selector, Attempt.Keeps view (document.contentFrame selector)
  address : Attempt.Keeps view document.address

/-- A page whose every call leaves a part of the state alone. -/
structure Page.Keeps (view : σ → τ) (page : Page σ F) : Prop where
  document : page.toDocument.Keeps view
  goto : ∀ url, Attempt.Keeps view (page.goto url)
  click : ∀ selector, Attempt.Keeps view (page.click selector)
  enter : ∀ selector text, Attempt.Keeps view (page.enter selector text)
  scroll : ∀ selector, Attempt.Keeps view (page.scroll selector)
  awaitSelector : ∀ selector, Attempt.Keeps view (page.awaitSelector selector)
  awaitNavigation : Attempt.Keeps view page.awaitNavigation
  awaitNetworkIdle : Attempt.Keeps view page.awaitNetworkIdle
  screenshot : Attempt.Keeps view page.screenshot
  frames : Attempt.Keeps view page.frames
  memoryUsage : Attempt.Keeps view page.memoryUsage

/-- A browser whose opening of pages leaves a part of the state alone, as do its pages. -/
structure Browser.Keeps (view : σ → τ) (browser : Browser σ F) : Prop where
  openPage : ∀ options, Attempt.Keeps view (browser.openPage options)
  pages : ∀ options, (browser.openPage options).run.Yields fun outcome =>
    ∀ page, outcome = .ok page → page.Keeps view

/-- A service whose collaborators, apart from its browsers, leave a part of the state alone. -/
structure ScrapeService.Keeps (view : σ → τ) (service : ScrapeService σ F) : Prop where
  document : ∀ frame, (service.engine.document frame).Keeps view
  awaitLoad : ∀ frame, Attempt.Keeps view (service.engine.awaitLoad frame)
  album : ∀ name picture s, view (service.album.save (pictureFile name) picture s).2 = view s
  robots : ∀ url, (service.robots url).Keeps view
  sites : ∀ url, Attempt.Keeps view (service.sites.resolve url)

/-! ## Steps and fields -/

theorem Page.Keeps.capture {page : Page σ F} (hpage : page.Keeps view) {album : Album σ}
    (halbum : ∀ name picture s, view (album.save (pictureFile name) picture s).2 = view s)
    (name : String) (limit : Nat) : Attempt.Keeps view (page.capture album name limit) :=
  Attempt.keeps_bind (Attempt.keeps_timeout limit hpage.screenshot) fun picture =>
    Attempt.keeps_bind (Attempt.keeps_step fun s => halbum _ picture s) fun _ =>
      Attempt.keeps_pure view _

namespace Instruction

variable {page : Page σ F} {album : Album σ}

theorem keeps_await (hpage : page.Keeps view) (condition : Option WaitCondition)
    (selector value : Option String) (limit : Nat) :
    Attempt.Keeps view (await page condition selector value limit) := by
  unfold await
  split
  · exact Attempt.keeps_timeout limit hpage.awaitNavigation
  · exact Attempt.keeps_timeout limit hpage.awaitNetworkIdle
  · exact Attempt.keeps_timeout limit (hpage.awaitSelector _)
  · exact Attempt.keeps_timeout limit (hpage.awaitSelector _)
  · exact Attempt.keeps_ofActivity fun _ _ => trivial

theorem keeps_perform (hpage : page.Keeps view)
    (halbum : ∀ name picture s, view (album.save (pictureFile name) picture s).2 = view s)
    (i : Instruction) (limit : Nat) : Attempt.Keeps view (i.perform page album limit) := by
  unfold perform
  cases i.action with
  | navigate url =>
      cases url with
      | none => exact Attempt.keeps_throw view _
      | some url => exact Attempt.keeps_timeout limit (hpage.goto url)
  | click selector =>
      refine Attempt.keeps_bind (Attempt.keeps_timeout limit (hpage.click selector)) fun _ => ?_
      split
      · exact Attempt.keeps_timeout limit hpage.awaitNavigation
      · exact Attempt.keeps_pure view _
  | wait selector value => exact keeps_await hpage _ _ _ limit
  | enter selector text => exact Attempt.keeps_timeout limit (hpage.enter selector text)
  | scroll selector => exact Attempt.keeps_timeout limit (hpage.scroll selector)
  | extract => exact Attempt.keeps_pure view _
  | screenshot name =>
      exact Attempt.keeps_bind (hpage.capture halbum _ limit) fun _ => Attempt.keeps_pure view _

theorem keeps_execute (hpage : page.Keeps view)
    (halbum : ∀ name picture s, view (album.save (pictureFile name) picture s).2 = view s)
    (i : Instruction) (options : PageOptions) : Attempt.Keeps view (i.execute page album options) :=
  Activity.keeps_bind (keeps_perform hpage halbum i _) fun _ => trivial

end Instruction

namespace Document

variable {document : Document σ F}

theorem Keeps.extractInto (hdocument : document.Keeps view) (base : Option String)
    (fields : Members) (extractors : List Extractor) :
    Attempt.Keeps view (document.extractInto base fields extractors) := by
  induction extractors generalizing fields with
  | nil => exact Attempt.keeps_pure view fields
  | cons e rest ih =>
      have hquery : Attempt.Keeps view (e.query document base) :=
        Activity.keeps_bind (hdocument.select _ _ _) fun _ => trivial
      refine Attempt.keeps_bind hquery fun found => ?_
      cases found with
      | none => exact ih fields
      | some value => exact ih _

theorem Keeps.extract (hdocument : document.Keeps view) (extractors : List Extractor) :
    Attempt.Keeps view (document.extract extractors) :=
  Attempt.keeps_bind (Attempt.keeps_ofActivity (Attempt.keeps_ok? hdocument.address)) fun _ =>
    hdocument.extractInto _ _ extractors

end Document

/-! ## Visits -/

theorem Politeness.keeps_pass (view : σ → τ) (p : Politeness) (drawn : Nat) :
    Attempt.Keeps view (p.pass drawn : Attempt σ Unit) := by
  unfold Politeness.pass
  split
  · trivial
  · intro wake elapsed
    cases wake <;> trivial

namespace Noted

theorem keeps_quietly {α : Type} {work : Activity σ α} (hwork : work.Keeps view) :
    (quietly work).Keeps fun noted => view noted.2 := by
  refine Activity.keeps_within ?_ hwork
  exact fun _ _ hpart => hpart

theorem keeps_attempt {α : Type} {attempt : Attempt σ α} (hattempt : Attempt.Keeps view attempt) :
    Attempt.Keeps (fun noted => view noted.2) (Noted.attempt attempt) :=
  keeps_quietly hattempt

theorem keeps_note (view : σ → τ) (change : ScrapeMetadata → ScrapeMetadata) :
    Attempt.Keeps (fun noted => view noted.2) (note change) :=
  Attempt.keeps_ofActivity ⟨fun _ => rfl, fun _ => trivial⟩

end Noted

namespace ScrapeService

variable {service : ScrapeService σ F} {page : Page σ F}

theorem Keeps.extractFramesFrom (hservice : service.Keeps view) (extractors : List Extractor)
    (limit : Nat) (fields : FrameFields) (position : Nat) (frames : List F) :
    (service.engine.extractFramesFrom extractors limit fields position frames).Keeps view := by
  induction frames generalizing fields position with
  | nil => trivial
  | cons frame rest ih =>
      have hload : (service.engine.loadsWithin limit frame).Keeps view :=
        Activity.keeps_bind
          (Attempt.keeps_ok? (Attempt.keeps_timeout limit (hservice.awaitLoad frame)))
          fun _ => trivial
      refine Activity.keeps_bind hload fun loaded => ?_
      split
      · exact Activity.keeps_bind (Attempt.keeps_ok? ((hservice.document frame).extract extractors))
          fun found => ih _ _
      · exact ih _ _

theorem Keeps.extractFrames (hservice : service.Keeps view) (hpage : page.Keeps view)
    (extractors : List Extractor) (limit : Nat) :
    (service.engine.extractFrames page extractors limit).Keeps view := by
  refine Activity.keeps_bind (Attempt.keeps_ok? hpage.frames) fun frames => ?_
  cases frames with
  | none => trivial
  | some frames => exact hservice.extractFramesFrom extractors limit {} 0 frames

theorem Keeps.picture (hservice : service.Keeps view) (hpage : page.Keeps view) (visit : Visit)
    (name : Instant → String) :
    Attempt.Keeps (fun noted => view noted.2) (service.picture visit page name) := by
  refine Attempt.keeps_bind (Noted.keeps_attempt (Attempt.keeps_step fun _ => rfl)) fun moment => ?_
  refine Attempt.keeps_bind (Attempt.keeps_ofActivity (Noted.keeps_quietly
    (Attempt.keeps_ok? (hpage.capture hservice.album _ _)))) fun saved => ?_
  cases saved with
  | none => exact Attempt.keeps_pure _ _
  | some path => exact Noted.keeps_note view _

theorem Keeps.follow (hservice : service.Keeps view) (hpage : page.Keeps view) (visit : Visit)
    (plan : List Instruction) :
    Attempt.Keeps (fun noted => view noted.2) (service.follow visit page plan) := by
  induction plan with
  | nil => exact Attempt.keeps_pure _ _
  | cons i rest ih =>
      refine Attempt.keeps_bind (Noted.keeps_attempt
        (Instruction.keeps_execute hpage hservice.album i _)) fun succeeded => ?_
      split
      · exact Attempt.keeps_bind (Noted.keeps_note view _) fun _ => ih
      · exact ih

theorem Keeps.gather (hservice : service.Keeps view) (hpage : page.Keeps view) (visit : Visit) :
    Attempt.Keeps (fun noted => view noted.2) (service.gather visit page) := by
  refine Attempt.keeps_bind (Noted.keeps_attempt (hpage.document.extract _)) fun fields => ?_
  refine Attempt.keeps_bind (Noted.keeps_note view _) fun _ => ?_
  split
  · refine Attempt.keeps_bind (Attempt.keeps_ofActivity (Noted.keeps_quietly
      (hservice.extractFrames hpage _ _))) fun frames => ?_
    exact Attempt.keeps_bind (Noted.keeps_note view _) fun _ => Attempt.keeps_pure _ _
  · exact Attempt.keeps_pure _ _

theorem Keeps.attend (hservice : service.Keeps view) (hpage : page.Keeps view) (visit : Visit) :
    Attempt.Keeps (fun noted => view noted.2) (service.attend visit page) := by
  refine Attempt.keeps_bind (hservice.follow hpage visit _) fun _ => ?_
  refine Attempt.keeps_bind (hservice.gather hpage visit) fun fields => ?_
  refine Attempt.keeps_bind (Attempt.keeps_ofActivity (Noted.keeps_quietly
    (Attempt.keeps_ok? hpage.document.address))) fun address => ?_
  refine Attempt.keeps_bind (Noted.keeps_note view _) fun _ => ?_
  refine Attempt.keeps_bind (Attempt.keeps_ofActivity (Noted.keeps_quietly
    (Attempt.keeps_ok? hpage.memoryUsage))) fun memory => ?_
  refine Attempt.keeps_bind (Noted.keeps_note view _) fun _ => ?_
  split
  · exact Attempt.keeps_bind (hservice.picture hpage visit _) fun _ => Attempt.keeps_pure _ _
  · exact Attempt.keeps_pure _ _

/-- Whatever is done with an open browser short of closing it. -/
theorem Keeps.drive (hservice : service.Keeps view) {browser : Browser σ F}
    (hbrowser : browser.Keeps view) (visit : Visit) :
    Attempt.Keeps (fun noted => view noted.2) (service.drive visit browser) := by
  refine Activity.keeps_bind_of_yields (Noted.keeps_attempt (hbrowser.openPage _))
    (Activity.yields_within (hbrowser.pages _)) fun opened hpages => ?_
  cases opened with
  | error cause => trivial
  | ok page =>
      have hpage := hpages page rfl
      refine Attempt.keeps_bind (Attempt.keeps_ofActivity (hservice.attend hpage visit))
        fun outcome => ?_
      cases outcome with
      | ok fields => exact Attempt.keeps_pure _ _
      | error cause =>
          dsimp only
          split
          · exact Attempt.keeps_bind (hservice.picture hpage visit _)
              fun _ => Attempt.keeps_throw _ _
          · exact Attempt.keeps_throw _ _

/-- Whatever is done before a browser is started. -/
theorem Keeps.approve (hservice : service.Keeps view) (request : ScrapeRequest) :
    Attempt.Keeps (fun noted => view noted.2) (service.approve request) := by
  refine Attempt.keeps_bind (Attempt.keeps_ofOutcome _ _) fun url => ?_
  refine Attempt.keeps_bind (Attempt.keeps_ofActivity (Noted.keeps_quietly
    (hservice.robots _))) fun status => ?_
  refine Attempt.keeps_bind (Noted.keeps_note view _) fun _ => ?_
  split
  · refine Attempt.keeps_bind (Noted.keeps_attempt (hservice.sites url)) fun found => ?_
    cases found with
    | none => exact Attempt.keeps_throw _ _
    | some site =>
        dsimp only
        split
        · exact Attempt.keeps_bind (Noted.keeps_note view _) fun _ => Attempt.keeps_pure _ _
        · exact Attempt.keeps_throw _ _
  · exact Attempt.keeps_throw _ _

/-- Keeping a result changes nothing but the kept results. -/
theorem world_keep (service : ScrapeService σ F) (request : ScrapeRequest) (result : ScrapeResult)
    (s : Scraping σ) : (service.keep request result s).world = s.world := by
  unfold keep
  split <;> rfl

end ScrapeService

end SiteWatch
