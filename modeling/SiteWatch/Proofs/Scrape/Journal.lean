/-
# The journal of a scrape

What a scrape asks of the robots rules and of the sites, what they answer, when it asks for a
browser, what it does with one, and what ended each of its waits: all in one list, in the order in
which it happened. The collaborators of a service are wrapped so that their calls and answers are
entered beside the world, and the work of the scrape notes how its waits end; what it does and what
it answers stays as it is.
-/

import Mathlib.Data.List.DropRight
import SiteWatch.Proofs.Execution
import SiteWatch.Proofs.Scrape.Quiet

namespace SiteWatch

variable {σ τ F α : Type}

/-! ## Collaborators that are reached in another way -/

section

variable (carry : ∀ {α : Type}, Attempt σ α → Attempt τ α)

/-- A document each of whose calls is carried over into another state. -/
def Document.via (document : Document σ F) : Document τ F where
  select selector attributeName multiple :=
    carry (document.select selector attributeName multiple)
  contentFrame selector := carry (document.contentFrame selector)
  address := carry document.address

/-- A page each of whose calls is carried over into another state. -/
def Page.via (page : Page σ F) : Page τ F where
  toDocument := page.toDocument.via carry
  goto url := carry (page.goto url)
  click selector := carry (page.click selector)
  enter selector text := carry (page.enter selector text)
  scroll selector := carry (page.scroll selector)
  awaitSelector selector := carry (page.awaitSelector selector)
  awaitNavigation := carry page.awaitNavigation
  awaitNetworkIdle := carry page.awaitNetworkIdle
  screenshot := carry page.screenshot
  frames := carry page.frames
  memoryUsage := carry page.memoryUsage

/-- A browser each of whose calls, and those of its pages, is carried over into another state. -/
def Browser.via (browser : Browser σ F) : Browser τ F where
  openPage options := ExceptT.mk ((carry (browser.openPage options)).run.bind fun opened =>
    .done (opened.map (Page.via carry)))
  close := carry browser.close

variable {carry} {ρ : Type} {view : τ → ρ}

theorem Document.keeps_via (hcarry : ∀ {α : Type} (attempt : Attempt σ α),
    Attempt.Keeps view (carry attempt)) (document : Document σ F) :
    (document.via carry).Keeps view where
  select _ _ _ := hcarry _
  contentFrame _ := hcarry _
  address := hcarry _

theorem Page.keeps_via (hcarry : ∀ {α : Type} (attempt : Attempt σ α),
    Attempt.Keeps view (carry attempt)) (page : Page σ F) : (page.via carry).Keeps view where
  document := page.toDocument.keeps_via hcarry
  goto _ := hcarry _
  click _ := hcarry _
  enter _ _ := hcarry _
  scroll _ := hcarry _
  awaitSelector _ := hcarry _
  awaitNavigation := hcarry _
  awaitNetworkIdle := hcarry _
  screenshot := hcarry _
  frames := hcarry _
  memoryUsage := hcarry _

theorem Browser.keeps_via (hcarry : ∀ {α : Type} (attempt : Attempt σ α),
    Attempt.Keeps view (carry attempt)) (browser : Browser σ F) :
    (browser.via carry).Keeps view where
  openPage options := Activity.keeps_bind (hcarry _) fun _ => trivial
  pages options := by
    refine Activity.yields_bind (Activity.yields_true _) fun opened _ page hopened => ?_
    cases opened with
    | error cause => cases hopened
    | ok inner =>
        cases hopened
        exact inner.keeps_via hcarry

end

/-! ## Entries -/

/-- Something that is entered into the journal of a scrape. -/
inductive ScrapeEntry where
  /-- The robots rules were asked about an address, and have answered. -/
  | asked (url : String) (status : RobotsStatus)
  /-- The sites were asked for the one of a page, and have answered. -/
  | resolved (url : Url) (answer : Outcome (Option Site))
  /-- A browser is to be started. -/
  | launching
  /-- A browser, a page or a frame is to do or to answer something. -/
  | acting
  /-- A wait is over. -/
  | waited (wake : Wake) (elapsed : Nat)

namespace ScrapeEntry

def isWait : ScrapeEntry → Bool
  | .waited .. => true
  | _ => false

def isResolved : ScrapeEntry → Bool
  | .resolved .. => true
  | _ => false

def isLaunch : ScrapeEntry → Bool
  | .launching => true
  | _ => false

/-- Whether an entry belongs to the stages that lead up to a browser. -/
def isStage : ScrapeEntry → Bool
  | .asked .. | .resolved .. | .launching => true
  | .acting | .waited .. => false

/-- The time that a wait took. -/
def duration : ScrapeEntry → Nat
  | .waited _ elapsed => elapsed
  | _ => 0

end ScrapeEntry

/-- A world with the journal so far beside it. -/
abbrev Journal (σ : Type) := List ScrapeEntry × σ

namespace Journal

/-- Enter something. -/
def write (entry : ScrapeEntry) (w : Journal σ) : Journal σ := (w.1 ++ [entry], w.2)

/-- Work that enters nothing. -/
def unseen (work : Activity σ α) : Activity (Journal σ) α :=
  Activity.within Prod.snd (fun s w => (w.1, s)) work

/-- An attempt that is entered when it begins. -/
def entered (entry : ScrapeEntry) (attempt : Attempt σ α) : Attempt (Journal σ) α :=
  ExceptT.mk (.act (write entry) fun _ => unseen attempt.run)

/-- Work whose answer is entered. -/
def answered (entry : α → ScrapeEntry) (work : Activity σ α) : Activity (Journal σ) α :=
  (unseen work).bind fun answer => .act (write (entry answer)) fun _ => .done answer

theorem keeps_unseen (work : Activity σ α) : (unseen work).Keeps Prod.fst := by
  refine Activity.keeps_within_of_apart ?_ work
  exact fun _ _ => rfl

end Journal

open Journal

/-- A service whose stages and browsers enter what they do. -/
def ScrapeService.journaled (service : ScrapeService σ F) : ScrapeService (Journal σ) F where
  engine := {
    launch := fun options =>
      ExceptT.mk ((entered .launching (service.engine.launch options)).run.bind fun launched =>
        .done (launched.map (Browser.via (entered .acting))))
    document := fun frame => (service.engine.document frame).via (entered .acting)
    awaitLoad := fun frame => entered .acting (service.engine.awaitLoad frame) }
  robots url := answered (.asked url) (service.robots url)
  sites := {
    resolve := fun url => ExceptT.mk (answered (.resolved url) (service.sites.resolve url).run)
    list := ExceptT.mk (unseen service.sites.list.run)
    reload := ExceptT.mk (unseen service.sites.reload.run) }
  album := {
    directory := service.album.directory
    save := fun file picture w =>
      let (outcome, s) := service.album.save file picture w.2
      (outcome, (w.1, s)) }
  settings := service.settings
  now w := service.now w.2
  uptimeMs w := service.uptimeMs w.2
  draw w := service.draw w.2

/-! ## What goes on while a scrape waits -/

/-- Others do what they like with the world; a wait ends as it may, and its end is entered. -/
def Journal.Meantime (pause : Pause (Journal σ)) (wake : Wake) (elapsed : Nat)
    (w v : Journal σ) : Prop :=
  ∃ u : Journal σ, pause.endsBy wake elapsed u = true ∧ u.1 = w.1 ∧
    u.write (.waited wake elapsed) = v

namespace Journal

/-- Work that enters nothing by itself adds its waits. -/
theorem exists_waits {work : Activity (Journal σ) α} (hkeeps : work.Keeps Prod.fst) {value : α}
    {w v : Journal σ} (hends : work.CanEnd Journal.Meantime value v w) :
    ∃ waits : List ScrapeEntry, (∀ entry ∈ waits, entry.isWait) ∧ v.1 = w.1 ++ waits := by
  induction work generalizing w with
  | done answer =>
      obtain ⟨-, rfl⟩ := hends
      exact ⟨[], by simp, by simp⟩
  | act update next ih =>
      obtain ⟨waits, hwaits, hv⟩ := ih w (hkeeps.2 w) hends
      exact ⟨waits, hwaits, hv.trans (congrArg (· ++ waits) (hkeeps.1 w))⟩
  | wait pause next ih =>
      obtain ⟨wake, elapsed, -, ⟨u, -, hu, rfl⟩, hends⟩ := hends
      obtain ⟨waits, hwaits, hv⟩ := ih wake elapsed (hkeeps wake elapsed) hends
      refine ⟨.waited wake elapsed :: waits, ?_, ?_⟩
      · simpa [ScrapeEntry.isWait] using hwaits
      · rw [hv, write, hu]
        simp

/-- Work whose answer is entered adds its waits and the answer. -/
theorem exists_waits_of_answered {entry : α → ScrapeEntry} {work : Activity σ α} {value : α}
    {w v : Journal σ} (hends : (answered entry work).CanEnd Journal.Meantime value v w) :
    ∃ waits : List ScrapeEntry, (∀ entry ∈ waits, entry.isWait) ∧
      v.1 = w.1 ++ waits ++ [entry value] := by
  obtain ⟨answer, u, hunseen, rfl, rfl⟩ := Activity.canEnd_bind.mp hends
  obtain ⟨waits, hwaits, hu⟩ := exists_waits (keeps_unseen work) hunseen
  exact ⟨waits, hwaits, congrArg (· ++ [entry answer]) hu⟩

/-! After the last stage only waits and the calls of browsers are entered. -/

/-- A journal up to the last entry of a stage. -/
def untilStage (entries : List ScrapeEntry) : List ScrapeEntry :=
  entries.rdropWhile (!·.isStage)

theorem untilStage_concat {entry : ScrapeEntry} (hentry : entry.isStage = false)
    (entries : List ScrapeEntry) : untilStage (entries ++ [entry]) = untilStage entries := by
  unfold untilStage
  rw [List.rdropWhile_concat_pos]
  simp [hentry]

/-- A journal that has grown by no stage since some point at which it ended with one. -/
theorem exists_append_of_untilStage {before later : List ScrapeEntry} {entry : ScrapeEntry}
    (hentry : entry.isStage = true) (hlater : untilStage later = untilStage (before ++ [entry])) :
    ∃ rest : List ScrapeEntry, (∀ other ∈ rest, other.isStage = false) ∧
      later = before ++ [entry] ++ rest := by
  have hbefore : untilStage (before ++ [entry]) = before ++ [entry] := by
    unfold untilStage
    rw [List.rdropWhile_concat_neg]
    simp [hentry]
  refine ⟨later.rtakeWhile (!·.isStage), fun other hother => ?_, ?_⟩
  · simpa using List.mem_rtakeWhile_imp hother
  · calc later = untilStage later ++ later.rtakeWhile (!·.isStage) :=
          List.rdropWhile_append_rtakeWhile.symm
      _ = before ++ [entry] ++ later.rtakeWhile (!·.isStage) := by rw [hlater, hbefore]

theorem keeps_entered_acting (attempt : Attempt σ α) :
    Attempt.Keeps (fun w : Journal σ => untilStage w.1) (entered .acting attempt) := by
  refine ⟨fun w => untilStage_concat rfl w.1, fun _ => ?_⟩
  refine Activity.keeps_within_of_apart ?_ attempt.run
  exact fun _ _ => rfl

end Journal

end SiteWatch
