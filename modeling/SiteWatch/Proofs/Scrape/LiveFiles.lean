/-
# What live scraping leaves alone

A scrape reaches the files of the machine through its album alone, and pictures have names of their
own. So whatever pages do, and whatever ends the waits of a scrape, a file of another name holds what
it held before. The delivery of a notice does not reach them at all.
-/

import SiteWatch.Proofs.Scrape.Quiet
import SiteWatch.Proofs.Store.Contents
import SiteWatch.Scrape.Live
import SiteWatch.Web.Delivery

namespace SiteWatch

variable {σ τ F : Type} {view : σ → τ}

/-! ## Whole scrapes -/

/-- An engine whose browsers leave a part of the state alone from their launch to their closing. -/
structure PageEngine.Keeps (view : σ → τ) (engine : PageEngine σ F) : Prop where
  launch : ∀ options, Attempt.Keeps view (engine.launch options)
  browsers : ∀ options, (engine.launch options).run.Yields fun outcome =>
    ∀ browser, outcome = .ok browser → browser.Keeps view ∧ Attempt.Keeps view browser.close

theorem PageEngine.Keeps.yields_start {engine : PageEngine σ F} (hengine : engine.Keeps view)
    (options : PageOptions) : (engine.start options).run.Yields fun outcome =>
      ∀ browser, outcome = .ok browser → browser.Keeps view ∧ Attempt.Keeps view browser.close := by
  refine Activity.yields_bind (hengine.browsers options) fun outcome hbrowsers browser hstarted => ?_
  split at hstarted
  · cases hstarted
  · cases hstarted
  · cases hstarted
    exact hbrowsers _ rfl

theorem Activity.keeps_withNotes {ρ α : Type} {work : Activity (τ × σ) α} {view : σ → ρ}
    (hwork : work.Keeps fun noted => view noted.2) (notes : τ) :
    (work.withNotes notes).Keeps view := by
  induction work generalizing notes with
  | done value => trivial
  | act update next ih => exact ⟨fun s => hwork.1 (notes, s), fun s => ih _ (hwork.2 _) _⟩
  | wait pause next ih => exact fun wake elapsed => ih wake elapsed (hwork wake elapsed) notes

/-- Work that runs by itself leaves alone what it keeps. -/
theorem Activity.Keeps.of_run {α : Type} {work : Activity σ α} (hwork : work.Keeps view)
    {cancelAt : Option Nat} {clock later : Nat} {s t : σ} {value : α}
    (hrun : work.run cancelAt clock s = some (value, later, t)) : view t = view s := by
  have halways : work.Always Eq (fun _ t => view t = view s) s :=
    hwork.always (fun _ _ hsame => hsame ▸ rfl) s
  have hended := halways.of_run (fun _ => rfl) hrun
  exact hended

namespace ScrapeService

variable {service : ScrapeService σ F}

theorem Keeps.browse (hservice : service.Keeps view) (hengine : service.engine.Keeps view)
    (visit : Visit) : Attempt.Keeps (fun noted => view noted.2) (service.browse visit) := by
  have hstart : Attempt.Keeps view (service.engine.start visit.site.options) :=
    Activity.keeps_bind (hengine.launch _) fun _ => trivial
  refine Activity.keeps_bind_of_yields (Noted.keeps_attempt hstart)
    (Activity.yields_within (hengine.yields_start _)) fun started hbrowsers => ?_
  cases started with
  | error cause => trivial
  | ok browser =>
      obtain ⟨hbrowser, hclose⟩ := hbrowsers browser rfl
      have hdrive := Attempt.keeps_cancellable visit.request.url (Attempt.keeps_timeout?
        visit.request.options.timeoutMs (hservice.drive hbrowser visit))
      apply Attempt.keeps_bind (Attempt.keeps_ofActivity hdrive)
      intro outcome
      apply Attempt.keeps_bind (Attempt.keeps_ofActivity (Noted.keeps_quietly
        (Attempt.keeps_ok? (Attempt.keeps_timeout closeLimitMs hclose))))
      exact fun _ => Attempt.keeps_ofOutcome _ outcome

theorem Keeps.fetch (hservice : service.Keeps view) (hengine : service.engine.Keeps view)
    (request : ScrapeRequest) :
    Attempt.Keeps (fun noted => view noted.2) (service.fetch request) := by
  apply Attempt.keeps_bind (hservice.approve request)
  intro visit
  apply Attempt.keeps_bind (Noted.keeps_attempt (Attempt.keeps_step fun _ => rfl))
  intro drawn
  apply Attempt.keeps_bind (Noted.keeps_attempt (Politeness.keeps_pass view _ drawn))
  exact fun _ => hservice.browse hengine visit

/-- Work on what is around a service. -/
theorem keeps_onWorld {α : Type} {work : Activity σ α} (hwork : work.Keeps view) :
    (onWorld work).Keeps fun s : Scraping σ => view s.world := by
  refine Activity.keeps_within ?_ hwork
  exact fun _ _ hsame => hsame

theorem Keeps.scrapeAnew (hservice : service.Keeps view) (hengine : service.engine.Keeps view)
    (request : ScrapeRequest) :
    (service.scrapeAnew request).Keeps fun s => view s.world := by
  have hbegan : (onWorld (Activity.step fun s => (service.uptimeMs s, s))).Keeps
      fun s : Scraping σ => view s.world :=
    keeps_onWorld (Activity.keeps_step fun _ => rfl)
  have hfetched := keeps_onWorld (Activity.keeps_withNotes (hservice.fetch hengine request) {})
  refine Activity.keeps_bind hbegan fun began => Activity.keeps_bind hfetched fun answer => ?_
  exact Activity.keeps_step fun s => congrArg view (service.world_keep request _ s)

/-- What a service and its engine leave alone is left alone by every scrape. -/
theorem Keeps.scrape (hservice : service.Keeps view) (hengine : service.engine.Keeps view)
    (request : ScrapeRequest) : (service.scrape request).Keeps fun s => view s.world := by
  unfold ScrapeService.scrape
  split
  · apply Activity.keeps_bind (Activity.keeps_step fun _ => rfl)
    intro found
    cases found with
    | some result => trivial
    | none => exact hservice.scrapeAnew hengine request
  · exact hservice.scrapeAnew hengine request

end ScrapeService

/-! ## Pages without a browser -/

namespace Online

variable {ν α β : Type} {path : FilePath}

/-- The bytes of the plain file at a path. -/
def content? (path : FilePath) (online : Online ν) : Option ByteArray := online.files.content? path

/-- Work that leaves the content of a path alone. -/
structure Spares (path : FilePath) (work : Activity (Online ν) α) : Prop where
  keeps : work.Keeps (content? path)

namespace Spares

theorem andThen {first : Activity (Online ν) α} {next : α → Activity (Online ν) β}
    (hfirst : Spares path first) (hnext : ∀ a, Spares path (next a)) :
    Spares path (first.bind next) :=
  ⟨Activity.keeps_bind hfirst.keeps fun a => (hnext a).keeps⟩

theorem bind {first : Attempt (Online ν) α} {next : α → Attempt (Online ν) β}
    (hfirst : Spares path first.run) (hnext : ∀ a, Spares path (next a).run) :
    Spares path (first >>= next).run :=
  ⟨Attempt.keeps_bind hfirst.keeps fun a => (hnext a).keeps⟩

theorem done (a : α) : Spares path (ν := ν) (.done a) := ⟨trivial⟩

theorem pure (a : α) : Spares path (ν := ν) (Pure.pure a : Attempt (Online ν) α).run := ⟨trivial⟩

theorem ofOutcome (outcome : Outcome α) :
    Spares path (ν := ν) (Attempt.ofOutcome outcome).run := ⟨trivial⟩

theorem step {f : Online ν → Outcome α × Online ν}
    (hfiles : ∀ s, (f s).2.content? path = s.content? path) : Spares path (Attempt.step f).run :=
  ⟨Attempt.keeps_step hfiles⟩

theorem ok? {attempt : Attempt (Online ν) α} (hattempt : Spares path attempt.run) :
    Spares path attempt.ok? :=
  ⟨Attempt.keeps_ok? hattempt.keeps⟩

theorem ofActivity {work : Activity (Online ν) α} (hwork : Spares path work) :
    Spares path (Attempt.ofActivity work).run :=
  ⟨Attempt.keeps_ofActivity hwork.keeps⟩

theorem modify {f : Online ν → Online ν} (hfiles : ∀ s, (f s).content? path = s.content? path) :
    Spares path (Activity.modify f) :=
  ⟨⟨hfiles, fun _ => trivial⟩⟩

theorem onNetwork (work : Activity ν α) : Spares path (Online.onNetwork work) := by
  constructor
  apply Activity.keeps_within_of_apart
  exact fun _ _ => rfl

end Spares

end Online

namespace StaticPage

open Online (Spares)

variable {ν : Type} {path : FilePath} (network : Network ν) (limitMs : Nat) (agent : String)

theorem spares_fetch (address : String) :
    Spares path (fetch network limitMs agent address).run := by
  apply Spares.bind (.ofActivity (.onNetwork _))
  intro outcome
  cases outcome with
  | error fault => exact .done _
  | ok reply => exact .ofOutcome _

theorem spares_fetchFrame (url : Url) :
    Spares path (fetchFrame network limitMs agent url).run :=
  .bind (spares_fetch network limitMs agent url.text) fun _ => .pure _

theorem spares_fetchFrameOf (document : WebDocument) (selector : String) :
    Spares path (fetchFrameOf network limitMs agent document selector).run := by
  apply Spares.bind (.ofOutcome _)
  intro found
  cases found with
  | none => exact .pure _
  | some url => exact .bind (spares_fetchFrame network limitMs agent url) fun _ => .pure _

theorem spares_fetchFrames (urls : List Url) :
    Spares path (fetchFrames network limitMs agent urls) := by
  induction urls with
  | nil => exact .done _
  | cons url rest ih =>
      unfold fetchFrames
      exact .andThen (spares_fetchFrame network limitMs agent url).ok? fun _ =>
        .andThen ih fun _ => .done _

theorem spares_loaded (tab : Nat) : Spares path (ν := ν) (loaded tab).run :=
  .step fun _ => rfl

theorem keeps_frameDocument (frame : StaticFrame) :
    (frameDocument network limitMs frame).Keeps (Online.content? path) where
  select _ _ _ := Attempt.keeps_ofOutcome _ _
  contentFrame selector :=
    (spares_fetchFrameOf network limitMs frame.agent frame.document selector).keeps
  address := Attempt.keeps_pure _ _

theorem spares_goto (tab : Nat) (address : String) :
    Spares path ((page network limitMs agent tab).goto address).run :=
  .bind (spares_fetch network limitMs agent address) fun _ => .ofActivity (.modify fun _ => rfl)

theorem spares_awaitSelector (tab : Nat) (selector : String) :
    Spares path ((page network limitMs agent tab).awaitSelector selector).run := by
  apply Spares.bind (spares_loaded tab)
  intro document
  apply Spares.bind (.ofOutcome _)
  intro found
  split
  · exact .done _
  · exact .pure _

theorem keeps_page (tab : Nat) : (page network limitMs agent tab).Keeps (Online.content? path) where
  document := {
    select := fun _ _ _ => (Spares.bind (spares_loaded tab) fun _ => .ofOutcome _).keeps
    contentFrame := fun _ => (Spares.bind (spares_loaded tab) fun document =>
      spares_fetchFrameOf network limitMs agent document _).keeps
    address := Attempt.keeps_step fun _ => rfl }
  goto address := (spares_goto network limitMs agent tab address).keeps
  click _ := Attempt.keeps_throw _ _
  enter _ _ := Attempt.keeps_throw _ _
  scroll _ := Attempt.keeps_pure _ _
  awaitSelector selector := (spares_awaitSelector network limitMs agent tab selector).keeps
  awaitNavigation := Attempt.keeps_pure _ _
  awaitNetworkIdle := Attempt.keeps_pure _ _
  screenshot := Attempt.keeps_throw _ _
  frames := (Spares.bind (spares_loaded tab) fun _ =>
    .ofActivity (spares_fetchFrames network limitMs agent _)).keeps
  memoryUsage := Attempt.keeps_pure _ _

theorem keeps_engine : (engine network limitMs).Keeps (Online.content? path) where
  launch _ := Attempt.keeps_pure _ _
  browsers options := by
    rintro browser hbrowser
    cases hbrowser
    refine ⟨⟨fun options => ?_, fun options online page hpage => ?_⟩, Attempt.keeps_pure _ _⟩
    · exact Attempt.keeps_bind (Attempt.keeps_step fun _ => rfl) fun _ => Attempt.keeps_pure _ _
    · cases hpage
      exact keeps_page network limitMs _ _

end StaticPage

/-! ## The service -/

namespace Robots

open Online (Spares)

variable {ν : Type} {path : FilePath} (network : Network ν)

theorem content?_keep (origin : String) (fetched : Fetched) (online : Online ν) :
    (keep origin fetched online).content? path = online.content? path := by
  unfold keep
  split <;> rfl

theorem spares_rulesOf (origin : String) (document : Url) :
    Spares path (rulesOf network origin document) := by
  apply Spares.andThen ⟨Activity.keeps_step fun _ => rfl⟩
  intro found
  cases found with
  | some fetched => exact .done fetched
  | none =>
      have hfetch : Spares path (fetch network document) :=
        .andThen (.onNetwork _) fun _ => .done _
      exact .andThen hfetch fun fetched =>
        .andThen (.modify (content?_keep origin fetched)) fun _ => .done fetched

theorem spares_check (url : String) : Spares path (check network url) := by
  unfold check
  split
  · exact .done _
  · split
    · exact .done _
    · exact .andThen (spares_rulesOf network _ _) fun _ => .done _

end Robots

theorem Channel.spares_deliver {ν : Type} {path : FilePath} (network : Network ν)
    (channel : Channel) (notice : Notice) :
    Online.Spares path (channel.deliver network notice).run := by
  cases channel with
  | log => exact .pure _
  | webhook endpoint =>
      apply Online.Spares.bind (.ofActivity (.onNetwork _))
      intro outcome
      cases outcome with
      | error fault => exact .done _
      | ok reply =>
          dsimp only
          split
          · exact .pure _
          · exact .done _

namespace Online

variable {ν : Type} (network : Network ν)

/-- A scrape leaves the file of every register alone. -/
theorem keeps_service (directory : String) (parent : FilePath) :
    (service network directory).Keeps (content? (parent ++ [StoreLayout.registerName])) where
  document frame := StaticPage.keeps_frameDocument network _ frame
  awaitLoad _ := Attempt.keeps_pure _ _
  album name picture online := online.files.content?_savePicture directory name picture parent
  robots url := (Robots.spares_check network url).keeps
  sites _ := Attempt.keeps_step fun _ => rfl

theorem keeps_scrape (directory : String) (parent : FilePath) (request : ScrapeRequest) :
    ((service network directory).scrape request).Keeps fun desk =>
      desk.world.content? (parent ++ [StoreLayout.registerName]) :=
  (keeps_service network directory parent).scrape (StaticPage.keeps_engine network _) request

end Online

end SiteWatch
