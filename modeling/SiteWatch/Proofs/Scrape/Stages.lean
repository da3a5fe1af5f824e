/-
# The stages of a scrape

What the stages in front of a browser enter into the journal of a scrape and note in its result: the
request itself, the robots rules, the site and the pause for politeness, one after another. Every
execution of a scrape has one of a few shapes, by the stage at which it ends; behind the pause only
waits and the calls of browsers follow.
-/

import Mathlib.Algebra.GroupWithZero.Nat
import SiteWatch.Proofs.Scrape.Journal

namespace SiteWatch

variable {σ τ F α : Type}

/-- A request for a page on the web whose own instructions and extractors obey the rules. -/
structure ScrapeRequest.IsValid (request : ScrapeRequest) (url : Url) : Prop where
  parsed : Url.parse request.url = .ok url
  web : url.scheme = "http" ∨ url.scheme = "https"
  overrides : validateOverrides request.instructions request.extractors = .ok ()

/-- The time that waits took. -/
def Journal.waitedIn (waits : List ScrapeEntry) : Nat := (waits.map ScrapeEntry.duration).sum

open Journal

/-! ## The request -/

theorem isWeb_iff (url : Url) : url.isWeb = true ↔ url.scheme = "http" ∨ url.scheme = "https" := by
  simp [Url.isWeb]

theorem kind_of_validateOverrides {instructions : Option (List Instruction)}
    {extractors : Option (List Extractor)} {cause : Failure}
    (hrefused : validateOverrides instructions extractors = .error cause) :
    cause.kind = "validation_error" := by
  unfold validateOverrides at hrefused
  dsimp only at hrefused
  split at hrefused
  · cases hrefused
  · cases hrefused
    rfl

/-- A request has a page if it is valid, and else is refused as not valid. -/
theorem ScrapeRequest.page_cases (request : ScrapeRequest) :
    (∃ url, request.page = .ok url ∧ request.IsValid url) ∨
      (∃ cause, request.page = .error cause ∧ cause.kind = "validation_error") ∧
        ¬ ∃ url, request.IsValid url := by
  cases hparse : Url.parse request.url with
  | error fault =>
      refine .inr ⟨⟨.invalid s!"invalid URL '{request.url}': {fault.message}", ?_, rfl⟩, ?_⟩
      · unfold page
        rw [hparse]
        rfl
      · rintro ⟨url, hvalid⟩
        cases hparse.symm.trans hvalid.parsed
  | ok url =>
      have hpage : request.page =
          if url.isWeb then
            (validateOverrides request.instructions request.extractors).map fun _ => url
          else .error (.invalid s!"unsupported scheme '{url.scheme}'") := by
        unfold page
        simp only [hparse, bind, Except.bind, pure, Except.pure]
        cases url.isWeb with
        | false => rfl
        | true => cases validateOverrides request.instructions request.extractors <;> rfl
      have hurl {other : Url} (hvalid : request.IsValid other) : other = url :=
        Except.ok.inj (hvalid.parsed.symm.trans hparse)
      rw [hpage]
      cases hweb : url.isWeb with
      | false =>
          refine .inr ⟨⟨_, rfl, rfl⟩, ?_⟩
          rintro ⟨other, hvalid⟩
          obtain rfl := hurl hvalid
          simp [(isWeb_iff other).mpr hvalid.web] at hweb
      | true =>
          cases hoverrides : validateOverrides request.instructions request.extractors with
          | ok _ => exact .inl ⟨url, rfl, hparse, (isWeb_iff url).mp hweb, hoverrides⟩
          | error cause =>
              refine .inr ⟨⟨cause, rfl, kind_of_validateOverrides hoverrides⟩, ?_⟩
              rintro ⟨other, hvalid⟩
              cases hoverrides.symm.trans hvalid.overrides

/-! ## Stages one by one -/

namespace Noted

/-- What goes on beside notes that nobody else changes. -/
def beside (meantime : Meantime σ) : Meantime (Noted σ) :=
  fun pause wake elapsed s t =>
    meantime ⟨pause.after, fun w => pause.ready (s.1, w), pause.heeds⟩ wake elapsed s.2 t.2 ∧
      t.1 = s.1

/-- Work that leaves the notes alone is work on what they stand beside. -/
theorem canEnd_quietly_iff {meantime : Meantime σ} {work : Activity σ α} {value : α}
    {s t : Noted σ} :
    (quietly work).CanEnd (beside meantime) value t s ↔
      work.CanEnd meantime value t.2 s.2 ∧ t.1 = s.1 := by
  constructor
  · intro hends
    have hkeeps : (quietly work).Keeps (Prod.fst : Noted σ → ScrapeMetadata) := by
      refine Activity.keeps_within_of_apart ?_ work
      exact fun _ _ => rfl
    refine ⟨hends.of_within ?_ ?_, hkeeps.view_eq (fun _ _ _ _ _ hamid => hamid.2) hends⟩
    · exact fun _ _ _ _ _ hamid => hamid.1
    · exact fun _ _ => rfl
  · rintro ⟨hends, hnotes⟩
    have hwithin : (quietly work).CanEnd (beside meantime) value (s.1, t.2) s := by
      refine Activity.CanEnd.within Prod.snd (fun w (noted : Noted σ) => (noted.1, w)) ?_ ?_ ?_ ?_
        hends
      · exact fun _ _ => rfl
      · exact fun _ _ _ => rfl
      · exact fun _ => rfl
      · exact fun _ _ _ _ _ hamid => ⟨hamid, rfl⟩
    rwa [← hnotes] at hwithin

/-- What goes on while a scrape with notes waits: nobody else changes the notes. -/
def Amid (pause : Pause (Noted (Journal σ))) (wake : Wake) (elapsed : Nat)
    (s t : Noted (Journal σ)) : Prop :=
  Journal.Meantime ⟨pause.after, fun w => pause.ready (s.1, w), pause.heeds⟩ wake elapsed s.2 t.2 ∧
    t.1 = s.1

variable {s t : Noted (Journal σ)}

/-- Work that leaves the notes alone is work on the world. -/
theorem canEnd_quietly {work : Activity (Journal σ) α} {value : α}
    (hends : (quietly work).CanEnd Noted.Amid value t s) :
    work.CanEnd Journal.Meantime value t.2 s.2 ∧ t.1 = s.1 :=
  canEnd_quietly_iff.mp hends

end Noted

namespace Journal

/-- A pause for politeness that is not called off takes its time. -/
theorem exists_waits_of_pass {p : Politeness} {drawn : Nat} {outcome : Outcome Unit}
    {w v : Journal σ} (hends : (p.pass drawn).run.CanEnd Journal.Meantime outcome v w) :
    ∃ waits : List ScrapeEntry, (∀ entry ∈ waits, entry.isWait) ∧ v.1 = w.1 ++ waits ∧
      ((outcome = .ok () ∧ p.delayMs ≤ waitedIn waits ∧
          ∀ elapsed, .waited .cancelled elapsed ∉ waits) ∨
        (outcome = .error (.cancelled "during politeness delay") ∧
          ∃ elapsed, .waited .cancelled elapsed ∈ waits)) := by
  have hpause : p.delayMs ≤ p.pauseMs drawn := by
    unfold Politeness.pauseMs
    split <;> omega
  unfold Politeness.pass at hends
  split at hends
  · obtain ⟨rfl, rfl⟩ := hends
    exact ⟨[], by simp, by simp, .inl ⟨rfl, by omega, by simp⟩⟩
  · obtain ⟨wake, elapsed, -, ⟨u, hwake, hu, rfl⟩, hends⟩ := hends
    have hv : v = u.write (.waited wake elapsed) := by cases wake <;> exact hends.2.symm
    refine ⟨[.waited wake elapsed], by simp [ScrapeEntry.isWait], by simp [hv, write, hu], ?_⟩
    cases wake with
    | due =>
        obtain ⟨rfl, -⟩ := hends
        have helapsed : p.pauseMs drawn ≤ elapsed := by simpa [Pause.endsBy] using hwake
        refine .inl ⟨rfl, ?_, by simp⟩
        simpa [waitedIn, ScrapeEntry.duration] using hpause.trans helapsed
    | ready => simp [Pause.endsBy] at hwake
    | cancelled =>
        obtain ⟨rfl, -⟩ := hends
        exact .inr ⟨rfl, elapsed, by simp⟩

end Journal

/-! ## Notes of the stages -/

/-- What the stages before a browser note. -/
def ScrapeMetadata.ofStages (notes : ScrapeMetadata) : Bool × Bool × Option String :=
  (notes.cacheUsed, notes.robotsTxtChecked, notes.siteId)

namespace Noted

/-- Work that leaves the notes alone leaves alone whatever is seen of them. -/
theorem keeps_notes_quietly (view : ScrapeMetadata → τ) (work : Activity σ α) :
    (quietly work).Keeps fun noted => view noted.1 := by
  refine Activity.keeps_within_of_apart ?_ work
  exact fun _ _ => rfl

theorem keeps_notes_attempt (view : ScrapeMetadata → τ) (attempt : Attempt σ α) :
    Attempt.Keeps (fun noted => view noted.1) (Noted.attempt attempt) :=
  keeps_notes_quietly view attempt.run

theorem keeps_notes_note (view : ScrapeMetadata → τ) {change : ScrapeMetadata → ScrapeMetadata}
    (hchange : ∀ notes, view (change notes) = view notes) :
    Attempt.Keeps (fun noted : Noted σ => view noted.1) (note change) :=
  Attempt.keeps_ofActivity ⟨fun s => hchange s.1, fun _ => trivial⟩

/-- What the stages have noted, with the state of a visit. -/
def ofStages (s : Noted σ) : Bool × Bool × Option String := s.1.ofStages

theorem keeps_ofStages_quietly (work : Activity σ α) : (quietly work).Keeps ofStages :=
  keeps_notes_quietly ScrapeMetadata.ofStages work

theorem keeps_ofStages_attempt (attempt : Attempt σ α) :
    Attempt.Keeps ofStages (Noted.attempt attempt) :=
  keeps_ofStages_quietly attempt.run

end Noted

/-- A view of notes in which nothing shows of what is noted once the steps on a page are done. -/
structure ScrapeMetadata.Overlooks (view : ScrapeMetadata → τ) : Prop where
  extractorsRun : ∀ notes n, view { notes with extractorsRun := n } = view notes
  framesProcessed : ∀ notes n, view { notes with framesProcessed := n } = view notes
  finalUrl : ∀ notes address, view { notes with finalUrl := address } = view notes
  memoryUsageBytes : ∀ notes bytes, view { notes with memoryUsageBytes := bytes } = view notes
  screenshot : ∀ notes path, view { notes with screenshot := path } = view notes

namespace ScrapeService

open Noted

variable (service : ScrapeService σ F) (visit : Visit)

/-- What is left to do on a page whose fields have been gathered. -/
def conclude (page : Page σ F) (fields : Members) : Attempt (Noted σ) Members := do
  let address ← Attempt.ofActivity (Noted.quietly page.address.ok?)
  Noted.note fun notes => { notes with finalUrl := address.join }
  let memory ← Attempt.ofActivity (Noted.quietly page.memoryUsage.ok?)
  Noted.note fun notes => { notes with memoryUsageBytes := memory.join }
  if visit.request.options.screenshot then
    service.picture visit page fun moment => s!"{visit.site.id}-{moment.milliseconds}"
  return fields

theorem attend_eq (page : Page σ F) :
    service.attend visit page = (do
      service.follow visit page visit.plan
      let fields ← service.gather visit page
      service.conclude visit page fields) := rfl

section

variable {view : ScrapeMetadata → τ}

/-- Approving a visit notes what the robots rules say and the site. -/
theorem keeps_notes_approve (request : ScrapeRequest)
    (hrobots : ∀ notes status, view { notes with
      robotsTxtChecked := true, robotsTxtStatus := some status } = view notes)
    (hsite : ∀ notes id, view { notes with siteId := some id } = view notes) :
    Attempt.Keeps (fun noted => view noted.1) (service.approve request) := by
  refine Attempt.keeps_bind (Attempt.keeps_ofOutcome _ _) fun url => ?_
  refine Attempt.keeps_bind (Attempt.keeps_ofActivity (keeps_notes_quietly view _)) fun status => ?_
  refine Attempt.keeps_bind (keeps_notes_note view fun notes => hrobots notes _) fun _ => ?_
  split
  · refine Attempt.keeps_bind (keeps_notes_attempt view _) fun found => ?_
    cases found with
    | none => exact Attempt.keeps_throw _ _
    | some site =>
        dsimp only
        split
        · exact Attempt.keeps_bind (keeps_notes_note view fun notes => hsite notes _)
            fun _ => Attempt.keeps_pure _ _
        · exact Attempt.keeps_throw _ _
  · exact Attempt.keeps_throw _ _

theorem keeps_notes_picture
    (hscreenshot : ∀ notes path, view { notes with screenshot := path } = view notes)
    (page : Page σ F) (name : Instant → String) :
    Attempt.Keeps (fun noted => view noted.1) (service.picture visit page name) := by
  refine Attempt.keeps_bind (keeps_notes_attempt view _) fun moment => ?_
  refine Attempt.keeps_bind (Attempt.keeps_ofActivity (keeps_notes_quietly view _)) fun saved => ?_
  cases saved with
  | none => exact Attempt.keeps_pure _ _
  | some path => exact keeps_notes_note view fun notes => hscreenshot notes _

variable (hview : ScrapeMetadata.Overlooks view)

include hview

theorem keeps_notes_gather (page : Page σ F) :
    Attempt.Keeps (fun noted => view noted.1) (service.gather visit page) := by
  refine Attempt.keeps_bind (keeps_notes_attempt view _) fun fields => ?_
  refine Attempt.keeps_bind (keeps_notes_note view fun notes => hview.extractorsRun notes _)
    fun _ => ?_
  split
  · refine Attempt.keeps_bind (Attempt.keeps_ofActivity (keeps_notes_quietly view _)) fun _ => ?_
    exact Attempt.keeps_bind (keeps_notes_note view fun notes => hview.framesProcessed notes _)
      fun _ => Attempt.keeps_pure _ _
  · exact Attempt.keeps_pure _ _

theorem keeps_notes_conclude (page : Page σ F) (fields : Members) :
    Attempt.Keeps (fun noted => view noted.1) (service.conclude visit page fields) := by
  refine Attempt.keeps_bind (Attempt.keeps_ofActivity (keeps_notes_quietly view _)) fun _ => ?_
  refine Attempt.keeps_bind (keeps_notes_note view fun notes => hview.finalUrl notes _) fun _ => ?_
  refine Attempt.keeps_bind (Attempt.keeps_ofActivity (keeps_notes_quietly view _)) fun _ => ?_
  refine Attempt.keeps_bind (keeps_notes_note view fun notes => hview.memoryUsageBytes notes _)
    fun _ => ?_
  split
  · exact Attempt.keeps_bind (service.keeps_notes_picture visit hview.screenshot page _)
      fun _ => Attempt.keeps_pure _ _
  · exact Attempt.keeps_pure _ _

end

theorem overlooks_ofStages : ScrapeMetadata.Overlooks ScrapeMetadata.ofStages where
  extractorsRun _ _ := rfl
  framesProcessed _ _ := rfl
  finalUrl _ _ := rfl
  memoryUsageBytes _ _ := rfl
  screenshot _ _ := rfl

theorem keeps_ofStages_follow (page : Page σ F) (plan : List Instruction) :
    Attempt.Keeps ofStages (service.follow visit page plan) := by
  induction plan with
  | nil => exact Attempt.keeps_pure _ _
  | cons i rest ih =>
      refine Attempt.keeps_bind (keeps_ofStages_attempt _) fun succeeded => ?_
      split
      · exact Attempt.keeps_bind
          (keeps_notes_note ScrapeMetadata.ofStages fun _ => rfl) fun _ => ih
      · exact ih

theorem keeps_ofStages_attend (page : Page σ F) :
    Attempt.Keeps ofStages (service.attend visit page) := by
  rw [attend_eq]
  refine Attempt.keeps_bind (service.keeps_ofStages_follow visit page _) fun _ => ?_
  refine Attempt.keeps_bind (service.keeps_notes_gather visit overlooks_ofStages page)
    fun fields => ?_
  exact service.keeps_notes_conclude visit overlooks_ofStages page fields

theorem keeps_ofStages_drive (browser : Browser σ F) :
    Attempt.Keeps ofStages (service.drive visit browser) := by
  refine Attempt.keeps_bind (keeps_ofStages_attempt _) fun page => ?_
  refine Attempt.keeps_bind
    (Attempt.keeps_ofActivity (service.keeps_ofStages_attend visit page)) fun outcome => ?_
  cases outcome with
  | ok fields => exact Attempt.keeps_pure _ _
  | error cause =>
      dsimp only
      split
      · exact Attempt.keeps_bind
          (service.keeps_notes_picture visit overlooks_ofStages.screenshot page _)
          fun _ => Attempt.keeps_throw _ _
      · exact Attempt.keeps_throw _ _

/-- Nothing that is done with a browser changes what the stages have noted. -/
theorem keeps_ofStages_browse : Attempt.Keeps ofStages (service.browse visit) := by
  refine Attempt.keeps_bind (keeps_ofStages_attempt _) fun browser => ?_
  refine Attempt.keeps_bind (Attempt.keeps_ofActivity (Attempt.keeps_cancellable _
    (Attempt.keeps_timeout? _ (service.keeps_ofStages_drive visit browser)))) fun outcome => ?_
  exact Attempt.keeps_bind (Attempt.keeps_ofActivity (keeps_ofStages_quietly _))
    fun _ => Attempt.keeps_ofOutcome _ _

end ScrapeService

/-! ## What follows once a browser is asked for -/

/-- A wait is no stage. -/
theorem Journal.Meantime.untilStage_eq {pause : Pause (Journal σ)} {wake : Wake} {elapsed : Nat}
    {w v : Journal σ} (hmeantime : Journal.Meantime pause wake elapsed w v) :
    untilStage v.1 = untilStage w.1 := by
  obtain ⟨u, -, hu, rfl⟩ := hmeantime
  exact (untilStage_concat rfl u.1).trans (congrArg untilStage hu)

theorem Journal.untilStage_append {rest : List ScrapeEntry}
    (hrest : ∀ entry ∈ rest, entry.isStage = false) (entries : List ScrapeEntry) :
    untilStage (entries ++ rest) = untilStage entries := by
  induction rest generalizing entries with
  | nil => rw [List.append_nil]
  | cons entry rest ih =>
      rw [List.append_cons, ih fun other hother => hrest other (List.mem_cons_of_mem _ hother)]
      exact untilStage_concat (hrest entry List.mem_cons_self) entries

theorem ScrapeEntry.isStage_of_isWait {entry : ScrapeEntry} (hwait : entry.isWait = true) :
    entry.isStage = false := by
  cases entry <;> first | rfl | cases hwait

namespace ScrapeService

/-- The same browsers and pages, without robots rules and sites. -/
def muted (service : ScrapeService σ F) : ScrapeService σ F :=
  { service with robots := fun _ => .done .allowed, sites := SiteSource.fixed [] }

/-- What is done with a browser asks neither the robots rules nor the sites. -/
theorem drive_muted (service : ScrapeService σ F) (visit : Visit) (browser : Browser σ F) :
    service.muted.drive visit browser = service.drive visit browser := by
  have hfollow (page : Page σ F) (plan : List Instruction) :
      service.muted.follow visit page plan = service.follow visit page plan := by
    induction plan with
    | nil => rfl
    | cons i rest ih =>
        simp only [follow, ih]
        rfl
  have hattend (page : Page σ F) :
      service.muted.attend visit page = service.attend visit page := by
    simp only [attend, hfollow]
    rfl
  simp only [drive, hattend]
  rfl

theorem keeps_untilStage_muted (service : ScrapeService σ F) :
    service.journaled.muted.Keeps fun w => untilStage w.1 where
  document frame := (service.engine.document frame).keeps_via keeps_entered_acting
  awaitLoad _ := keeps_entered_acting _
  album _ _ _ := rfl
  robots _ := trivial
  sites _ := trivial

/-- To ask for a browser is entered, and then the waits for it. -/
theorem exists_waits_of_start (service : ScrapeService σ F) (options : PageOptions)
    {outcome : Outcome (Browser (Journal σ) F)} {w v : Journal σ}
    (hends : (service.journaled.engine.start options).run.CanEnd Journal.Meantime outcome v w) :
    ∃ waits : List ScrapeEntry, (∀ entry ∈ waits, entry.isWait) ∧
      v.1 = w.1 ++ [.launching] ++ waits ∧
      ∀ browser, outcome = .ok browser →
        ∃ inner : Browser σ F, browser = inner.via (entered .acting) := by
  obtain ⟨answer, u, hlaunch, rfl, rfl⟩ := Activity.canEnd_bind.mp hends
  obtain ⟨launched, u', hlaunched, rfl, rfl⟩ := Activity.canEnd_bind.mp hlaunch
  obtain ⟨waits, hwaits, hu⟩ := exists_waits (keeps_unseen _) hlaunched
  refine ⟨waits, hwaits, hu, fun browser hbrowser => ?_⟩
  cases launched with
  | error cause => cases cause <;> cases hbrowser
  | ok inner =>
      cases hbrowser
      exact ⟨inner, rfl⟩

/-- Once a browser is asked for, no stage follows. -/
theorem exists_rest_of_browse (service : ScrapeService σ F) (visit : Visit)
    {outcome : Outcome Members} {s t : Noted (Journal σ)}
    (hends : (service.journaled.browse visit).run.CanEnd Noted.Amid outcome t s) :
    ∃ rest : List ScrapeEntry, (∀ entry ∈ rest, entry.isStage = false) ∧
      t.2.1 = s.2.1 ++ [.launching] ++ rest := by
  rcases Attempt.canEnd_bind.mp hends with ⟨cause, hstart, -⟩ | ⟨browser, u, hstart, hrest⟩
  · obtain ⟨waits, hwaits, ht, -⟩ :=
      service.exists_waits_of_start visit.site.options (Noted.canEnd_quietly hstart).1
    exact ⟨waits, fun entry hentry => ScrapeEntry.isStage_of_isWait (hwaits entry hentry), ht⟩
  · obtain ⟨waits, hwaits, hu, hinner⟩ :=
      service.exists_waits_of_start visit.site.options (Noted.canEnd_quietly hstart).1
    obtain ⟨inner, rfl⟩ := hinner browser rfl
    have hdrive : Attempt.Keeps (fun noted => untilStage noted.2.1)
        (service.journaled.drive visit (inner.via (entered .acting))) := by
      rw [← drive_muted]
      exact service.keeps_untilStage_muted.drive (inner.keeps_via keeps_entered_acting) visit
    have hkeeps := Attempt.keeps_bind (Attempt.keeps_ofActivity (Attempt.keeps_cancellable
        visit.request.url (Attempt.keeps_timeout? visit.request.options.timeoutMs hdrive)))
      fun outcome => Attempt.keeps_bind (Attempt.keeps_ofActivity (Noted.keeps_quietly
          (Attempt.keeps_ok? (Attempt.keeps_timeout closeLimitMs
            (keeps_entered_acting inner.close)))))
        fun _ => Attempt.keeps_ofOutcome
          (fun noted : Noted (Journal σ) => untilStage noted.2.1) outcome
    have huntil : untilStage t.2.1 = untilStage (s.2.1 ++ [.launching]) := by
      rw [Activity.Keeps.view_eq (fun _ _ _ _ _ hamid => hamid.1.untilStage_eq) hkeeps hrest, hu]
      exact untilStage_append
        (fun entry hentry => ScrapeEntry.isStage_of_isWait (hwaits entry hentry)) _
    exact exists_append_of_untilStage rfl huntil

end ScrapeService

/-! ## The stages in a row -/

/-- The visit that the answer of the sites allows. -/
def ScrapeRequest.visitOf (request : ScrapeRequest) : Outcome (Option Site) → Outcome Visit
  | .error cause => .error cause
  | .ok none => .error (.configurationMissing request.url)
  | .ok (some site) =>
    if site.enabled then .ok { site, request } else .error (.configurationMissing request.url)

/-- What the stages before the pause enter, what they come to, and whether they have asked the
robots rules. -/
inductive Approves (request : ScrapeRequest) : List ScrapeEntry → Outcome Visit → Bool → Prop where
  | invalid {cause : Failure} (hinvalid : ¬ ∃ url, request.IsValid url)
      (hkind : cause.kind = "validation_error") : Approves request [] (.error cause) false
  | blocked {url : Url} {status : RobotsStatus} {before : List ScrapeEntry}
      (hvalid : request.IsValid url) (hbefore : ∀ entry ∈ before, entry.isWait)
      (hforbids : status.permits = false) :
      Approves request (before ++ [.asked url.text status]) (.error (.policyBlocked request.url))
        true
  | resolved {url : Url} {status : RobotsStatus} {before between : List ScrapeEntry}
      (hvalid : request.IsValid url) (hbefore : ∀ entry ∈ before, entry.isWait)
      (hpermits : status.permits = true) (hbetween : ∀ entry ∈ between, entry.isWait)
      (answer : Outcome (Option Site)) :
      Approves request (before ++ [.asked url.text status] ++ between ++ [.resolved url answer])
        (request.visitOf answer) true

/-- To note something is one change of the notes. -/
theorem Noted.canEnd_note_bind {meantime : Meantime (Noted σ)}
    {change : ScrapeMetadata → ScrapeMetadata}
    {andThen : Unit → Attempt (Noted σ) α} {outcome : Outcome α} {s t : Noted σ} :
    (note change >>= andThen).run.CanEnd meantime outcome t s ↔
      (andThen ()).run.CanEnd meantime outcome t (change s.1, s.2) := Iff.rfl

theorem ScrapeService.approves_of_canEnd (service : ScrapeService σ F) {request : ScrapeRequest}
    {outcome : Outcome Visit} {s t : Noted (Journal σ)}
    (hnotes : s.ofStages = (false, false, none))
    (hends : (service.journaled.approve request).run.CanEnd Noted.Amid outcome t s) :
    ∃ entries checked, Approves request entries outcome checked ∧ t.2.1 = s.2.1 ++ entries ∧
      t.ofStages = (false, checked, outcome.toOption.map (·.site.id)) := by
  have hcacheUsed : s.1.cacheUsed = false := congrArg Prod.fst hnotes
  have hsiteId : s.1.siteId = none := congrArg (·.2.2) hnotes
  rcases Attempt.canEnd_bind.mp hends with
    ⟨cause, ⟨hpage, rfl⟩, rfl⟩ | ⟨url, u, ⟨hpage, rfl⟩, hasks⟩
  · rcases request.page_cases with ⟨url, hurl, -⟩ | ⟨⟨other, hother, hkind⟩, hinvalid⟩
    · cases hpage.symm.trans hurl
    · cases hpage.symm.trans hother
      exact ⟨[], false, .invalid hinvalid hkind, by simp, hnotes⟩
  have hvalid : request.IsValid url := by
    rcases request.page_cases with ⟨other, hother, hvalid⟩ | ⟨⟨cause, hcause, -⟩, -⟩
    · cases hpage.symm.trans hother
      exact hvalid
    · cases hpage.symm.trans hcause
  obtain ⟨status, u, hrobots, hnoted⟩ := Attempt.canEnd_bind_ofActivity.mp hasks
  obtain ⟨hrobots, hu⟩ := Noted.canEnd_quietly hrobots
  obtain ⟨before, hbefore, hasked⟩ := exists_waits_of_answered hrobots
  dsimp only at hnoted
  split at hnoted
  case isFalse hforbids =>
    obtain ⟨rfl, rfl⟩ := hnoted
    refine ⟨_, true, .blocked hvalid hbefore (by simpa using hforbids), ?_, ?_⟩
    · rw [← List.append_assoc]
      exact hasked
    · simp [Noted.ofStages, ScrapeMetadata.ofStages, hu, hcacheUsed, hsiteId, Except.toOption]
  case isTrue hpermits =>
    obtain ⟨answer, v, hsites, hvisit⟩ := Activity.canEnd_bind.mp (Noted.canEnd_note_bind.mp hnoted)
    obtain ⟨hsites, hv⟩ := Noted.canEnd_quietly hsites
    obtain ⟨between, hbetween, hresolved⟩ := exists_waits_of_answered hsites
    have hentries : v.2.1 = s.2.1 ++
        (before ++ [.asked url.text status] ++ between ++ [.resolved url answer]) := by
      rw [hresolved, hasked]
      simp only [List.append_assoc]
    have hnotes : v.ofStages = (false, true, none) := by
      simp [Noted.ofStages, ScrapeMetadata.ofStages, hv, hu, hcacheUsed, hsiteId]
    have hvisit : outcome = request.visitOf answer ∧ t.2 = v.2 ∧
        t.ofStages = (false, true, outcome.toOption.map (·.site.id)) := by
      cases answer with
      | error cause =>
          obtain ⟨rfl, rfl⟩ := hvisit
          exact ⟨rfl, rfl, hnotes⟩
      | ok found =>
          cases found with
          | none =>
              obtain ⟨rfl, rfl⟩ := hvisit
              exact ⟨rfl, rfl, hnotes⟩
          | some site =>
              dsimp only [ExceptT.bindCont] at hvisit
              cases henabled : site.enabled with
              | false =>
                  simp only [henabled] at hvisit
                  obtain ⟨rfl, rfl⟩ := hvisit
                  exact ⟨by simp [ScrapeRequest.visitOf, henabled], rfl, hnotes⟩
              | true =>
                  simp only [henabled] at hvisit
                  obtain ⟨rfl, rfl⟩ := hvisit
                  refine ⟨by simp [ScrapeRequest.visitOf, henabled], rfl, ?_⟩
                  exact congrArg (fun stages => (stages.1, stages.2.1, some site.id)) hnotes
    obtain ⟨rfl, ht, hnoted⟩ := hvisit
    exact ⟨_, true, .resolved hvalid hbefore hpermits hbetween answer,
      (congrArg Prod.fst ht).trans hentries, hnoted⟩

/-- What carrying a request out enters, what it comes to, whether the robots rules were asked and
which site was found. -/
inductive Fetches (request : ScrapeRequest) :
    List ScrapeEntry → Outcome Members → Bool → Option String → Prop where
  | refused {entries : List ScrapeEntry} {cause : Failure} {checked : Bool}
      (happroves : Approves request entries (.error cause) checked) :
      Fetches request entries (.error cause) checked none
  | calledOff {entries pause : List ScrapeEntry} {visit : Visit} {checked : Bool}
      (happroves : Approves request entries (.ok visit) checked)
      (hpause : ∀ entry ∈ pause, entry.isWait)
      (hoff : ∃ elapsed, .waited .cancelled elapsed ∈ pause) :
      Fetches request (entries ++ pause) (.error (.cancelled "during politeness delay")) checked
        (some visit.site.id)
  | launched {entries pause rest : List ScrapeEntry} {visit : Visit} {checked : Bool}
      (happroves : Approves request entries (.ok visit) checked)
      (hpause : ∀ entry ∈ pause, entry.isWait)
      (hlong : visit.site.options.politenessDelayMs ≤ waitedIn pause)
      (hon : ∀ elapsed, .waited .cancelled elapsed ∉ pause)
      (hrest : ∀ entry ∈ rest, entry.isStage = false) (outcome : Outcome Members) :
      Fetches request (entries ++ pause ++ [.launching] ++ rest) outcome checked
        (some visit.site.id)

theorem ScrapeService.fetches_of_canEnd (service : ScrapeService σ F) {request : ScrapeRequest}
    {outcome : Outcome Members} {s t : Noted (Journal σ)}
    (hnotes : s.ofStages = (false, false, none))
    (hends : (service.journaled.fetch request).run.CanEnd Noted.Amid outcome t s) :
    ∃ entries checked siteId, Fetches request entries outcome checked siteId ∧
      t.2.1 = s.2.1 ++ entries ∧ t.ofStages = (false, checked, siteId) := by
  rcases Attempt.canEnd_bind.mp hends with ⟨cause, happrove, rfl⟩ | ⟨visit, u, happrove, hrest⟩
  · obtain ⟨entries, checked, happroves, ht, hnoted⟩ := service.approves_of_canEnd hnotes happrove
    exact ⟨entries, checked, none, .refused happroves, ht, hnoted⟩
  obtain ⟨entries, checked, happroves, hu, hnoted⟩ := service.approves_of_canEnd hnotes happrove
  rcases Attempt.canEnd_bind.mp hrest with ⟨cause, hdraw, -⟩ | ⟨drawn, v, hdraw, hrest⟩
  · cases hdraw.1
  have hv : v = u := hdraw.2.symm
  rcases Attempt.canEnd_bind.mp hrest with ⟨cause, hpass, rfl⟩ | ⟨⟨⟩, w, hpass, hbrowse⟩
  · obtain ⟨hpass, ht⟩ := Noted.canEnd_quietly hpass
    obtain ⟨pause, hpause, hjournal, hpassed⟩ := exists_waits_of_pass hpass
    rcases hpassed with ⟨hpassed, -⟩ | ⟨hcause, hoff⟩
    · cases hpassed
    · cases hcause
      refine ⟨_, checked, _, .calledOff happroves hpause hoff, ?_, ?_⟩
      · rw [hjournal, hv, hu, List.append_assoc]
      · rw [← hv] at hnoted
        exact (congrArg ScrapeMetadata.ofStages ht).trans hnoted
  · obtain ⟨hpass, hw⟩ := Noted.canEnd_quietly hpass
    obtain ⟨pause, hpause, hjournal, hpassed⟩ := exists_waits_of_pass hpass
    rcases hpassed with ⟨-, hlong, hon⟩ | ⟨hcause, -⟩
    · obtain ⟨rest, hrest, ht⟩ := service.exists_rest_of_browse visit hbrowse
      have hstages : t.ofStages = w.ofStages :=
        (service.journaled.keeps_ofStages_browse visit).view_eq (fun _ _ _ _ _ hamid =>
          congrArg ScrapeMetadata.ofStages hamid.2) hbrowse
      refine ⟨_, checked, _, .launched happroves hpause hlong hon hrest outcome, ?_, ?_⟩
      · rw [ht, hjournal, hv, hu]
        simp only [List.append_assoc]
      · rw [← hv] at hnoted
        exact hstages.trans ((congrArg ScrapeMetadata.ofStages hw).trans hnoted)
    · cases hcause

end SiteWatch
