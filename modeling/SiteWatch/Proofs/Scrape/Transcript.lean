/-
# The transcript of a scrape

What a scrape asks of the robots rules, of the engine, of the browser and of its pages, in the order
in which it asks. Every collaborator of a service is wrapped so that the calls that matter are
written down beside the world; what they do there, how long they take and what they answer stays as
it is.
-/

import SiteWatch.Proofs.Scrape.Quiet

namespace SiteWatch

variable {σ τ F α : Type}

/-- Something that a scrape asks of others, or is given by them. -/
inductive ScrapeCall where
  /-- The robots rules have been asked about an address, and have answered. -/
  | asked (url : String) (status : RobotsStatus)
  /-- A browser is to be started. -/
  | launching
  /-- A browser was handed out. -/
  | handedOut
  /-- The browser that was handed out is to open a page. -/
  | opening
  /-- A page is to go to an address. -/
  | going (url : String)
  /-- A page, or a frame of it, is to do or to answer something else. -/
  | acting
  /-- The browser that was handed out is to be closed. -/
  | closing
deriving DecidableEq

/-- A world with the calls so far written down beside it. -/
abbrev Watched (σ : Type) := List ScrapeCall × σ

namespace Watched

/-- Write a call down. -/
def write (call : ScrapeCall) (w : Watched σ) : Watched σ := (w.1 ++ [call], w.2)

/-- The calls of some kinds. -/
def calls (wanted : ScrapeCall → Bool) (w : Watched σ) : List ScrapeCall := w.1.filter wanted

/-- Work that writes nothing down. -/
def unseen (work : Activity σ α) : Activity (Watched σ) α :=
  Activity.within Prod.snd (fun s w => (w.1, s)) work

/-- An attempt that is written down when it begins. -/
def seen (call : ScrapeCall) (attempt : Attempt σ α) : Attempt (Watched σ) α :=
  ExceptT.mk (.act (write call) fun _ => unseen attempt.run)

theorem calls_write {wanted : ScrapeCall → Bool} {call : ScrapeCall} (hcall : wanted call = false)
    (w : Watched σ) : (w.write call).calls wanted = w.calls wanted := by
  simp [calls, write, hcall]

theorem keeps_unseen (wanted : ScrapeCall → Bool) (work : Activity σ α) :
    (unseen work).Keeps (calls wanted) := by
  refine Activity.keeps_within_of_apart ?_ work
  exact fun _ _ => rfl

theorem keeps_seen {wanted : ScrapeCall → Bool} {call : ScrapeCall} (hcall : wanted call = false)
    (attempt : Attempt σ α) : Attempt.Keeps (calls wanted) (seen call attempt) :=
  ⟨calls_write hcall, fun _ => keeps_unseen wanted attempt.run⟩

end Watched

open Watched

/-- A document whose calls are written down. -/
def Document.watched (document : Document σ F) : Document (Watched σ) F where
  select selector attributeName multiple :=
    seen .acting (document.select selector attributeName multiple)
  contentFrame selector := seen .acting (document.contentFrame selector)
  address := seen .acting document.address

/-- A page whose calls are written down. -/
def Page.watched (page : Page σ F) : Page (Watched σ) F where
  toDocument := page.toDocument.watched
  goto url := seen (.going url) (page.goto url)
  click selector := seen .acting (page.click selector)
  enter selector text := seen .acting (page.enter selector text)
  scroll selector := seen .acting (page.scroll selector)
  awaitSelector selector := seen .acting (page.awaitSelector selector)
  awaitNavigation := seen .acting page.awaitNavigation
  awaitNetworkIdle := seen .acting page.awaitNetworkIdle
  screenshot := seen .acting page.screenshot
  frames := seen .acting page.frames
  memoryUsage := seen .acting page.memoryUsage

/-- A browser whose calls, and those of its pages, are written down. -/
def Browser.watched (browser : Browser σ F) : Browser (Watched σ) F where
  openPage options := ExceptT.mk ((seen .opening (browser.openPage options)).run.bind fun opened =>
    .done (opened.map Page.watched))
  close := seen .closing browser.close

/-- An engine whose calls, and those of its browsers, are written down. -/
def PageEngine.watched (engine : PageEngine σ F) : PageEngine (Watched σ) F where
  launch options := ExceptT.mk ((seen .launching (engine.launch options)).run.bind fun
    | .error cause => .done (.error cause)
    | .ok browser => .act (write .handedOut) fun _ => .done (.ok browser.watched))
  document frame := (engine.document frame).watched
  awaitLoad frame := seen .acting (engine.awaitLoad frame)

/-- A service whose calls are written down. -/
def ScrapeService.watched (service : ScrapeService σ F) : ScrapeService (Watched σ) F where
  engine := service.engine.watched
  robots url := (unseen (service.robots url)).bind fun status =>
    .act (write (.asked url status)) fun _ => .done status
  sites := {
    resolve := fun url => ExceptT.mk (unseen (service.sites.resolve url).run)
    list := ExceptT.mk (unseen service.sites.list.run)
    reload := ExceptT.mk (unseen service.sites.reload.run) }
  album := {
    directory := service.album.directory
    save := fun file picture w =>
      let (outcome, s) := service.album.save file picture w.2
      (outcome, (w.1, s)) }
  settings := service.settings
  now w := service.now w.2
  uptimeMs w := service.uptimeMs w.2
  draw w := service.draw w.2

/-! ## What pages and collaborators do not call -/

section

variable {wanted : ScrapeCall → Bool}

theorem Document.keeps_watched (hacting : wanted .acting = false) (document : Document σ F) :
    document.watched.Keeps (calls wanted) where
  select _ _ _ := keeps_seen hacting _
  contentFrame _ := keeps_seen hacting _
  address := keeps_seen hacting _

theorem Page.keeps_watched (hacting : wanted .acting = false)
    (hgoing : ∀ url, wanted (.going url) = false) (page : Page σ F) :
    page.watched.Keeps (calls wanted) where
  document := page.toDocument.keeps_watched hacting
  goto url := keeps_seen (hgoing url) _
  click _ := keeps_seen hacting _
  enter _ _ := keeps_seen hacting _
  scroll _ := keeps_seen hacting _
  awaitSelector _ := keeps_seen hacting _
  awaitNavigation := keeps_seen hacting _
  awaitNetworkIdle := keeps_seen hacting _
  screenshot := keeps_seen hacting _
  frames := keeps_seen hacting _
  memoryUsage := keeps_seen hacting _

theorem Browser.keeps_watched (hacting : wanted .acting = false)
    (hgoing : ∀ url, wanted (.going url) = false) (hopening : wanted .opening = false)
    (browser : Browser σ F) : browser.watched.Keeps (calls wanted) where
  openPage options := Activity.keeps_bind (keeps_seen hopening _) fun _ => trivial
  pages options := by
    refine Activity.yields_bind (Activity.yields_true _) fun opened _ page hopened => ?_
    cases opened with
    | error cause => cases hopened
    | ok inner =>
        cases hopened
        exact inner.keeps_watched hacting hgoing

theorem ScrapeService.keeps_watched (hacting : wanted .acting = false)
    (hasked : ∀ url status, wanted (.asked url status) = false) (service : ScrapeService σ F) :
    service.watched.Keeps (calls wanted) where
  document frame := (service.engine.document frame).keeps_watched hacting
  awaitLoad _ := keeps_seen hacting _
  album _ _ _ := rfl
  robots url := Activity.keeps_bind (keeps_unseen wanted _) fun status =>
    ⟨calls_write (hasked url status), fun _ => trivial⟩
  sites _ := keeps_unseen wanted _

end

end SiteWatch
