/-
# How a plan is carried out

A scrape that is left to itself, has no deadline and reaches its page carries out the steps of its
plan in order. A step that fails is passed over if it is optional, and otherwise it is the last one;
only after all steps is the page asked for its fields. The result counts the steps that succeeded, is
a success just in case no step and no field that is needed failed, and else names what did.
-/

import SiteWatch.Proofs.Scrape.Deadline
import SiteWatch.Proofs.Scrape.Halting

namespace SiteWatch

variable {σ F ι α β : Type}

/-! ## Steps that are not called off -/

/-- Anything but the report that something was called off. -/
def IsNoCancellation (outcome : Outcome α) : Prop := ∀ what, outcome ≠ .error (.cancelled what)

/-- A page, and an album, none of whose calls in steps reports that it was called off. -/
structure Page.NeverCancels (page : Page σ F) (album : Album σ) : Prop where
  goto : ∀ url, (page.goto url).run.Yields IsNoCancellation
  click : ∀ selector, (page.click selector).run.Yields IsNoCancellation
  enter : ∀ selector text, (page.enter selector text).run.Yields IsNoCancellation
  scroll : ∀ selector, (page.scroll selector).run.Yields IsNoCancellation
  awaitSelector : ∀ selector, (page.awaitSelector selector).run.Yields IsNoCancellation
  awaitNavigation : page.awaitNavigation.run.Yields IsNoCancellation
  awaitNetworkIdle : page.awaitNetworkIdle.run.Yields IsNoCancellation
  screenshot : page.screenshot.run.Yields IsNoCancellation
  save : ∀ file picture s, IsNoCancellation (album.save file picture s).1

namespace Activity

theorem yields_orLate {good : α → Prop} {late : α} (hlate : good late) {left : Nat}
    {work : Activity σ α} (hwork : work.Yields good) : (work.orLate late left).Yields good := by
  induction work generalizing left with
  | done value => exact hwork
  | act update next ih => exact fun s => ih s (hwork s)
  | wait pause next ih =>
      unfold orLate
      dsimp only
      split
      · exact fun wake elapsed => ih wake elapsed (hwork wake elapsed)
      · intro wake elapsed
        cases wake with
        | due => exact hlate
        | ready | cancelled => exact ih _ elapsed (hwork _ elapsed)

theorem canEnd_orCancelled_idle {instead value : α} {work : Activity σ α} {s t : σ} :
    (work.orCancelled instead).CanEnd Meantime.idle value t s ↔
      work.CanEnd Meantime.idle value t s := by
  rw [canEnd_idle_iff 0, run_orCancelled, canEnd_idle_iff 0]

end Activity

theorem Attempt.yields_timeout {attempt : Attempt σ α} (limit : Nat)
    (hattempt : attempt.run.Yields IsNoCancellation) :
    (attempt.timeout limit).run.Yields IsNoCancellation :=
  Activity.yields_orLate (fun _ => nofun) hattempt

theorem Attempt.yields_bind_noCancellation {first : Attempt σ α} {andThen : α → Attempt σ β}
    (hfirst : first.run.Yields IsNoCancellation)
    (hthen : ∀ a, (andThen a).run.Yields IsNoCancellation) :
    (first >>= andThen).run.Yields IsNoCancellation := by
  apply Activity.yields_bind hfirst
  intro outcome houtcome
  cases outcome with
  | ok a => exact hthen a
  | error cause => exact fun what hcause => houtcome what (congrArg _ (Except.error.inj hcause))

namespace Instruction

variable {page : Page σ F} {album : Album σ}

/-- A step on such a page is not called off. -/
theorem yields_perform (hpage : page.NeverCancels album) (i : Instruction) (limit : Nat) :
    (i.perform page album limit).run.Yields IsNoCancellation := by
  unfold perform
  cases i.action with
  | navigate url =>
      cases url with
      | none => exact fun _ => nofun
      | some url => exact Attempt.yields_timeout limit (hpage.goto url)
  | click selector =>
      apply Attempt.yields_bind_noCancellation (Attempt.yields_timeout limit (hpage.click selector))
      intro _
      split
      · exact Attempt.yields_timeout limit hpage.awaitNavigation
      · exact fun _ => nofun
  | wait selector value =>
      dsimp only
      unfold await
      split
      · exact Attempt.yields_timeout limit hpage.awaitNavigation
      · exact Attempt.yields_timeout limit hpage.awaitNetworkIdle
      · exact Attempt.yields_timeout limit (hpage.awaitSelector _)
      · exact Attempt.yields_timeout limit (hpage.awaitSelector _)
      · exact fun _ _ _ => nofun
  | enter selector text => exact Attempt.yields_timeout limit (hpage.enter selector text)
  | scroll selector => exact Attempt.yields_timeout limit (hpage.scroll selector)
  | extract => exact fun _ => nofun
  | screenshot name =>
      have hcapture (name : String) :
          (page.capture album name limit).run.Yields IsNoCancellation := by
        apply Attempt.yields_bind_noCancellation (Attempt.yields_timeout limit hpage.screenshot)
        intro picture
        have hsave : (Attempt.step (album.save (pictureFile name) picture)).run.Yields
            IsNoCancellation := fun s => hpage.save _ picture s
        apply Attempt.yields_bind_noCancellation hsave
        exact fun _ _ => nofun
      apply Attempt.yields_bind_noCancellation (hcapture _)
      exact fun _ _ => nofun

/-! ## What failures are called -/

theorem fault?_eq_none {i : Instruction} {outcome : Outcome Unit} :
    i.fault? outcome = none ↔ i.optional = true ∨ outcome = .ok () := by
  cases outcome with
  | ok _ => simp [fault?]
  | error cause => cases hoptional : i.optional <;> simp [fault?, hoptional]

theorem firstFault_eq_none {performed : List (Instruction × Outcome Unit)} :
    firstFault fault? performed = none ↔
      ∀ item ∈ performed, item.1.optional = true ∨ item.2 = .ok () :=
  SiteWatch.firstFault_eq_none.trans (forall₂_congr fun _ _ => fault?_eq_none)

/-- A step that ends a visit is not optional, and has a cause. -/
theorem exists_of_fault? {i : Instruction} {outcome : Outcome Unit} {fault : Failure}
    (hfault : i.fault? outcome = some fault) :
    ∃ cause, outcome = .error cause ∧ i.optional = false ∧ i.blame cause = fault := by
  cases outcome with
  | ok _ => cases hfault
  | error cause =>
      refine ⟨cause, rfl, ?_⟩
      cases hoptional : i.optional with
      | true => simp [fault?, hoptional] at hfault
      | false => simpa [fault?, hoptional] using hfault

/-- A failed navigation is a failure of the network, and any other failed step is told with its
number and its description. -/
theorem blame_cases (i : Instruction) {cause : Failure} (hcause : ∀ what, cause ≠ .cancelled what) :
    (i.action.isNavigate = true ∧ ∃ reason, i.blame cause = .networkFailed reason) ∨
      (i.action.isNavigate = false ∧
        i.blame cause = .instructionFailed i.step i.description cause.message) := by
  cases hnavigate : i.action.isNavigate with
  | true =>
      refine .inl ⟨rfl, ?_⟩
      cases cause with
      | cancelled what => exact absurd rfl (hcause what)
      | _ => simp [blame, hnavigate]
  | false =>
      refine .inr ⟨rfl, ?_⟩
      cases cause with
      | cancelled what => exact absurd rfl (hcause what)
      | _ => simp [blame, hnavigate]

end Instruction

namespace Extractor

variable {e : Extractor} {base : Option String} {found : Outcome (List String)}

/-- A field has a value, or has none and needs none, or fails as a field. -/
theorem settle_cases (e : Extractor) (base : Option String) (found : Outcome (List String)) :
    (∃ value, e.settle base found = .ok (some value)) ∨
      e.required = false ∧ e.settle base found = .ok none ∨
      e.required = true ∧
        ∃ cause, e.settle base found = .error cause ∧ cause.kind = "extraction_failed" := by
  cases found with
  | error reason =>
      cases hrequired : e.required with
      | false => exact .inr (.inl ⟨rfl, by simp [settle, hrequired]⟩)
      | true => exact .inr (.inr ⟨rfl, e.queryFailure reason, by simp [settle, hrequired], rfl⟩)
  | ok texts =>
      cases hvalue : e.value? base texts with
      | some value => exact .inl ⟨value, by simp [settle, hvalue]⟩
      | none =>
          cases hrequired : e.required with
          | false => exact .inr (.inl ⟨rfl, by simp [settle, hvalue, hrequired]⟩)
          | true => exact .inr (.inr ⟨rfl, e.absence, by simp [settle, hvalue, hrequired], rfl⟩)

/-- A field ends a visit that is required and has no value. -/
theorem fault?_eq_none :
    e.fault? base found = none ↔
      (e.required = true → ∃ value, e.settle base found = .ok (some value)) := by
  rcases e.settle_cases base found with ⟨value, hsettle⟩ | ⟨hrequired, hsettle⟩ |
    ⟨hrequired, cause, hsettle, -⟩
  · simp [fault?, failureOf, hsettle]
  · simp [fault?, failureOf, hsettle, hrequired]
  · simp [fault?, failureOf, hsettle, hrequired]

theorem firstFault_eq_none {answered : List (Extractor × Outcome (List String))} :
    firstFault (fault? base) answered = none ↔ ∀ item ∈ answered, item.1.required = true →
      ∃ value, item.1.settle base item.2 = .ok (some value) :=
  SiteWatch.firstFault_eq_none.trans (forall₂_congr fun _ _ => fault?_eq_none)

theorem kind_of_fault? {cause : Failure} (hfault : e.fault? base found = some cause) :
    cause.kind = "extraction_failed" := by
  rw [fault?] at hfault
  rcases e.settle_cases base found with ⟨value, hsettle⟩ | ⟨-, hsettle⟩ | ⟨-, other, hsettle, hkind⟩
  · rw [hsettle] at hfault
    cases hfault
  · rw [hsettle] at hfault
    cases hfault
  · rw [hsettle] at hfault
    cases hfault
    exact hkind

end Extractor

/-! ## From the page to the result -/

theorem InTurn.exists_does {does : ι → β → σ → σ → Prop} {fault? : ι → β → Option Failure}
    {items : List ι} {answered : List (ι × β)} {s t : σ}
    (hturns : InTurn does fault? items answered s t) :
    ∀ item ∈ answered, ∃ u v, does item.1 item.2 u v := by
  induction hturns with
  | nil s => exact nofun
  | next hdoes hgoes hrest ih => exact List.forall_mem_cons.mpr ⟨⟨_, _, hdoes⟩, ih⟩
  | last hdoes hfault => exact List.forall_mem_cons.mpr ⟨⟨_, _, hdoes⟩, nofun⟩

namespace ScrapeService

variable (service : ScrapeService σ F) (visit : Visit) (browser : Browser σ F) (page : Page σ F)

/-- What is done on a page once a visit is over there: the site may want a picture of a failure. -/
inductive Leaves (u : Noted σ) : Outcome Members → Noted σ → Prop where
  | content (fields : Members) : Leaves u (.ok fields) u
  | plain (cause : Failure) (hoff : visit.site.options.screenshotOnError = false) :
      Leaves u (.error cause) u
  | pictured {w : Noted σ} (cause : Failure) (hon : visit.site.options.screenshotOnError = true)
      (hpicture : (service.picture visit page fun moment =>
        s!"error-{visit.site.id}-{moment.milliseconds}").run.CanEnd Meantime.idle (.ok ()) w u) :
      Leaves u (.error cause) w

/-- A visit that has failed is over once a picture is taken of that, if the site wants one, and the
browser is closed. -/
def Abandons (cause : Failure) (u last : σ) : Prop :=
  ∃ notes w closed, service.Leaves visit page (notes, u) (.error cause) w ∧
    (browser.close.timeout closeLimitMs).ok?.CanEnd Meantime.idle closed last w.2

variable {service visit browser page} {request : ScrapeRequest}

/-- A page is opened, attended to and left. -/
theorem exists_drive {started last : σ} {notes : ScrapeMetadata} {outcome : Outcome Members}
    {u : Noted σ}
    (hopens : (browser.openPage visit.site.options).run.CanEnd Meantime.idle (.ok page) last
      started)
    (hattend : (service.attend visit page).run.CanEnd Meantime.idle outcome u (notes, last)) :
    ∃ w, service.Leaves visit page u outcome w ∧
      (service.drive visit browser).run.CanEnd Meantime.idle outcome w (notes, started) := by
  have hpage : (Noted.attempt (browser.openPage visit.site.options)).run.CanEnd Meantime.idle
      (.ok page) (notes, last) (notes, started) :=
    Noted.canEnd_quietly_idle notes hopens
  cases outcome with
  | ok fields =>
      refine ⟨u, .content fields, Attempt.canEnd_bind_of_ok hpage ?_⟩
      apply Attempt.canEnd_bind_of_done hattend
      exact ⟨rfl, rfl⟩
  | error cause =>
      cases hwants : visit.site.options.screenshotOnError with
      | false =>
          refine ⟨u, .plain cause hwants, Attempt.canEnd_bind_of_ok hpage ?_⟩
          apply Attempt.canEnd_bind_of_done hattend
          rw [hwants]
          exact ⟨rfl, rfl⟩
      | true =>
          obtain ⟨taken, w, hpicture⟩ := service.halts_picture visit page
            (fun moment => s!"error-{visit.site.id}-{moment.milliseconds}") u
          obtain rfl := (service.yields_picture visit page _).of_canEnd hpicture
          refine ⟨w, .pictured cause hwants hpicture, Attempt.canEnd_bind_of_ok hpage ?_⟩
          apply Attempt.canEnd_bind_of_done hattend
          rw [hwants]
          apply Attempt.canEnd_bind_of_ok hpicture
          exact ⟨rfl, rfl⟩

/-- A browser that has been started is driven, and closed in the end. -/
theorem exists_browse {passed started : σ} {notes : ScrapeMetadata} {outcome : Outcome Members}
    {w : Noted σ} (hlimit : visit.request.options.timeoutMs = none)
    (hstarts : (service.engine.start visit.site.options).run.CanEnd Meantime.idle (.ok browser)
      started passed)
    (hdrive : (service.drive visit browser).run.CanEnd Meantime.idle outcome w (notes, started)) :
    ∃ closed last,
      (browser.close.timeout closeLimitMs).ok?.CanEnd Meantime.idle closed last w.2 ∧
      (service.browse visit).run.CanEnd Meantime.idle outcome (w.1, last) (notes, passed) := by
  obtain ⟨closed, last, hcloses⟩ :=
    Attempt.halts_ok? (Attempt.halts_timeout closeLimitMs browser.close) w.2
  refine ⟨closed, last, hcloses, ?_⟩
  have hdriven :
      (((service.drive visit browser).timeout? visit.request.options.timeoutMs).cancellable
        visit.request.url).run.CanEnd Meantime.idle outcome w (notes, started) := by
    rw [hlimit]
    exact Activity.canEnd_orCancelled_idle.mpr hdrive
  have hnoted : (Noted.attempt (service.engine.start visit.site.options)).run.CanEnd Meantime.idle
      (.ok browser) (notes, started) (notes, passed) :=
    Noted.canEnd_quietly_idle notes hstarts
  apply Attempt.canEnd_bind_of_ok hnoted
  apply Attempt.canEnd_bind_of_done hdriven
  apply Attempt.canEnd_bind_of_done (Noted.canEnd_quietly_idle w.1 hcloses)
  exact ⟨rfl, rfl⟩

/-- A request that has reached its page and attended to it leaves the page and closes the browser,
and its result is what it came to. -/
theorem exists_run_scrape {s : Scraping σ} {noted u : Noted σ} {outcome : Outcome Members}
    (hreaches : service.Reaches Meantime.idle request s.world visit browser page noted)
    (hlimit : visit.request.options.timeoutMs = none) (hlacks : service.LacksResult request s)
    (hattend : (service.attend visit page).run.CanEnd Meantime.idle outcome u noted) (clock : Nat) :
    ∃ w closed took moment finish t, service.Leaves visit page u outcome w ∧
      (browser.close.timeout closeLimitMs).ok?.CanEnd Meantime.idle closed t.world w.2 ∧
      (service.scrape request).run none clock s =
        some (resultOf request outcome { w.1 with processingTimeMs := took } moment, finish,
          t) := by
  cases hreaches with
  | @opened approved passed started last happroves hpasses hstarts hopens =>
      obtain ⟨w, hleaves, hdrive⟩ := exists_drive hopens hattend
      obtain ⟨closed, final, hcloses, hbrowse⟩ := exists_browse hlimit hstarts hdrive
      have hfetch : (service.fetch request).run.CanEnd Meantime.idle outcome (w.1, final)
          ({}, s.world) := by
        have hdraws : (Noted.attempt (Attempt.step fun s => (.ok (service.draw s), s))).run.CanEnd
            Meantime.idle (.ok (service.draw approved.2)) approved approved :=
          ⟨rfl, rfl⟩
        have hpaused : (Noted.attempt (Politeness.pass ⟨visit.site.options.politenessDelayMs,
            service.settings.jitterMs⟩ (service.draw approved.2))).run.CanEnd Meantime.idle
            (.ok ()) (approved.1, passed) approved :=
          Noted.canEnd_quietly_idle approved.1 hpasses
        rw [Noted.beside_idle] at happroves
        apply Attempt.canEnd_bind_of_ok happroves
        apply Attempt.canEnd_bind_of_ok hdraws
        exact Attempt.canEnd_bind_of_ok hpaused hbrowse
      obtain ⟨finish, hrun⟩ := (Activity.canEnd_idle_iff clock).mp hfetch
      obtain ⟨began, hworld, hscrape⟩ := hlacks.exists_run_scrape none clock
      rw [hscrape, run_scrapeAnew, hworld, hrun]
      refine ⟨w, closed, _, _, finish, _, hleaves, ?_, rfl⟩
      rw [world_keep]
      exact hcloses

/-! ## What a visit comes to -/

/-- A picture is all that may still be noted once a visit is over on its page. -/
theorem Leaves.view_eq {view : ScrapeMetadata → β}
    (hscreenshot : ∀ notes path, view { notes with screenshot := path } = view notes)
    {u w : Noted σ} {outcome : Outcome Members}
    (hleaves : service.Leaves visit page u outcome w) : view w.1 = view u.1 := by
  cases hleaves with
  | content | plain => rfl
  | pictured cause hon hpicture =>
      rw [← Noted.beside_idle] at hpicture
      exact Noted.view_eq_of_keeps (service.keeps_notes_picture visit hscreenshot page _) hpicture

/-- No step and no field is counted before a page is reached. -/
theorem Reaches.counts_eq {meantime : Meantime σ} {world : σ} {noted : Noted σ}
    (hreaches : service.Reaches meantime request world visit browser page noted) :
    noted.1.instructionsExecuted = 0 ∧ noted.1.extractorsRun = 0 := by
  cases hreaches with
  | @opened approved passed started last happroves =>
      have hkeeps {view : ScrapeMetadata → Nat} (hview : ∀ notes status, view { notes with
            robotsTxtChecked := true, robotsTxtStatus := some status } = view notes)
          (hsite : ∀ notes id, view { notes with siteId := some id } = view notes) :
          view approved.1 = view {} :=
        Noted.view_eq_of_keeps (service.keeps_notes_approve request hview hsite) happroves
      constructor
      · exact hkeeps (fun _ _ => rfl) fun _ _ => rfl
      · exact hkeeps (fun _ _ => rfl) fun _ _ => rfl

variable (service visit browser page) in
/-- How a visit proceeds on a page that it has reached, what its result tells of that, and the state
that it leaves behind. -/
structure Proceeds (reached : σ) (performed : List (Instruction × Outcome Unit))
    (base : Option String) (answered : List (Extractor × Outcome (List String)))
    (result : ScrapeResult) (last : σ) : Prop where
  /-- The steps are carried out in the order of the plan, up to one that fails and is not optional.
  After such a step the page is left, and only where there is none it is asked for its fields. -/
  turns : ∃ u,
    InTurn (Instruction.ComesTo Meantime.idle page service.album visit.site.options)
      Instruction.fault? visit.plan performed reached u ∧
    (∀ cause, firstFault Instruction.fault? performed = some cause →
      answered = [] ∧ service.Abandons visit browser page cause u last) ∧
    (firstFault Instruction.fault? performed = none →
      ∃ v, page.toDocument.Answers Meantime.idle visit.extractors base answered u v)
  inOrder : ∃ rest, visit.plan = performed.map Prod.fst ++ rest
  executed : result.metadata.instructionsExecuted = succeeded performed
  success_iff : result.success = true ↔
    (∀ item ∈ performed, item.1.optional = true ∨ item.2 = .ok ()) ∧
    ∀ item ∈ answered, item.1.required = true →
      ∃ value, item.1.settle base item.2 = .ok (some value)
  /-- All steps and all fields are behind a success. -/
  complete : result.success = true →
    performed.map Prod.fst = visit.plan ∧ answered.map Prod.fst = visit.extractors
  /-- A step that is needed and fails is the last one, and the result names its failure. -/
  stepFailure : ∀ cause, firstFault Instruction.fault? performed = some cause →
    result.errors = [cause.message] ∧ result.errorKind = some cause.kind ∧
    result.metadata.extractorsRun = 0 ∧
    ∃ before i reason, performed = before ++ [(i, .error reason)] ∧ i.optional = false ∧
      (∀ item ∈ before, item.1.optional = true ∨ item.2 = .ok ()) ∧
      ((i.action.isNavigate = true ∧ cause.kind = "network_fetch_failed") ∨
        (i.action.isNavigate = false ∧
          cause = .instructionFailed i.step i.description reason.message))
  /-- A field that is needed and has no value is the last one asked for. -/
  fieldFailure : firstFault Instruction.fault? performed = none →
    ∀ cause, firstFault (Extractor.fault? base) answered = some cause →
      result.errors = [cause.message] ∧ result.errorKind = some "extraction_failed" ∧
      ∃ before e found, answered = before ++ [(e, found)] ∧ e.required = true ∧
        ¬ ∃ value, e.settle base found = .ok (some value)

/-- A step that ends a visit is the last of those that were carried out. -/
theorem exists_failed_step (hpage : page.NeverCancels service.album) {s t : σ}
    {performed : List (Instruction × Outcome Unit)} {cause : Failure}
    (hsteps : InTurn (Instruction.ComesTo Meantime.idle page service.album visit.site.options)
      Instruction.fault? visit.plan performed s t)
    (hfault : firstFault Instruction.fault? performed = some cause) :
    ∃ before i reason, performed = before ++ [(i, .error reason)] ∧ i.optional = false ∧
      (∀ item ∈ before, item.1.optional = true ∨ item.2 = .ok ()) ∧
      ((i.action.isNavigate = true ∧ cause.kind = "network_fetch_failed") ∨
        (i.action.isNavigate = false ∧
          cause = .instructionFailed i.step i.description reason.message)) := by
  obtain ⟨before, i, outcome, rfl, hlast, hbefore⟩ := hsteps.exists_last hfault
  obtain ⟨reason, rfl, hoptional, rfl⟩ := Instruction.exists_of_fault? hlast
  refine ⟨before, i, reason, rfl, hoptional, ?_, ?_⟩
  · exact fun item hitem => Instruction.fault?_eq_none.mp (hbefore item hitem)
  · have hreason : ∀ what, reason ≠ .cancelled what := by
      obtain ⟨v, w, hdoes⟩ := hsteps.exists_does (i, .error reason) (by simp)
      intro what hwhat
      exact (i.yields_perform hpage _).of_canEnd hdoes what (congrArg _ hwhat)
    rcases i.blame_cases hreason with ⟨hnavigate, text, hblame⟩ | hother
    · exact .inl ⟨hnavigate, congrArg Failure.kind hblame⟩
    · exact .inr hother

/-- A field that ends a visit is the last of those that were asked for. -/
theorem exists_missed_field {document : Document σ F} {extractors : List Extractor}
    {base : Option String} {answered : List (Extractor × Outcome (List String))} {s t : σ}
    {cause : Failure}
    (hfields : document.Answers Meantime.idle extractors base answered s t)
    (hfault : firstFault (Extractor.fault? base) answered = some cause) :
    cause.kind = "extraction_failed" ∧
      ∃ before e found, answered = before ++ [(e, found)] ∧ e.required = true ∧
        ¬ ∃ value, e.settle base found = .ok (some value) := by
  obtain ⟨address, u, -, -, hturns⟩ := hfields
  obtain ⟨before, e, found, rfl, hlast, -⟩ := hturns.exists_last hfault
  have hneeded : ¬ (e.required = true → ∃ value, e.settle base found = .ok (some value)) := by
    intro hgoes
    cases hlast.symm.trans (Extractor.fault?_eq_none.mpr hgoes)
  obtain ⟨hrequired, hmissing⟩ := Classical.not_imp.mp hneeded
  exact ⟨Extractor.kind_of_fault? hlast, before, e, found, rfl, hrequired, hmissing⟩

section

variable {reached u v last : σ} {performed : List (Instruction × Outcome Unit)}
  {base : Option String} {answered : List (Extractor × Outcome (List String))} {cause : Failure}
  {notes : ScrapeMetadata}
  (hsteps : InTurn (Instruction.ComesTo Meantime.idle page service.album visit.site.options)
    Instruction.fault? visit.plan performed reached u)
  (hexecuted : notes.instructionsExecuted = succeeded performed)

include hsteps hexecuted

/-- A step fails that is not optional. -/
theorem proceeds_of_stopped (hpage : page.NeverCancels service.album)
    (hfault : firstFault Instruction.fault? performed = some cause)
    (habandons : service.Abandons visit browser page cause u last) (hrun : notes.extractorsRun = 0)
    (moment : Instant) :
    service.Proceeds visit browser page reached performed none []
      (resultOf request (.error cause) notes moment) last where
  turns := by
    refine ⟨u, hsteps, fun other hother => ?_, fun hnone => ?_⟩
    · cases hfault.symm.trans hother
      exact ⟨rfl, habandons⟩
    · cases hfault.symm.trans hnone
  inOrder := hsteps.exists_rest
  executed := hexecuted
  success_iff := by
    refine ⟨nofun, fun hall => ?_⟩
    cases hfault.symm.trans (Instruction.firstFault_eq_none.mpr hall.1)
  complete := nofun
  stepFailure other hother := by
    cases hfault.symm.trans hother
    exact ⟨rfl, rfl, hrun, exists_failed_step hpage hsteps hfault⟩
  fieldFailure hnone := by cases hfault.symm.trans hnone

variable (hdone : firstFault Instruction.fault? performed = none)
  (hfields : page.toDocument.Answers Meantime.idle visit.extractors base answered u v)

include hdone hfields

/-- A field is missed that is required. -/
theorem proceeds_of_missed (hfault : firstFault (Extractor.fault? base) answered = some cause)
    (moment : Instant) :
    service.Proceeds visit browser page reached performed base answered
      (resultOf request (.error cause) notes moment) last where
  turns := by
    refine ⟨u, hsteps, fun other hother => ?_, fun _ => ⟨v, hfields⟩⟩
    cases hdone.symm.trans hother
  inOrder := hsteps.exists_rest
  executed := hexecuted
  success_iff := by
    refine ⟨nofun, fun hall => ?_⟩
    cases hfault.symm.trans (Extractor.firstFault_eq_none.mpr hall.2)
  complete := nofun
  stepFailure other hother := by cases hdone.symm.trans hother
  fieldFailure _ other hother := by
    cases hfault.symm.trans hother
    obtain ⟨hkind, hlast⟩ := exists_missed_field hfields hfault
    exact ⟨rfl, congrArg some hkind, hlast⟩

/-- No step fails that is not optional, and no field is missed that is required. -/
theorem proceeds_of_gathered (hfound : firstFault (Extractor.fault? base) answered = none)
    (data : Members) (moment : Instant) :
    service.Proceeds visit browser page reached performed base answered
      (resultOf request (.ok data) notes moment) last where
  turns := by
    refine ⟨u, hsteps, fun cause hcause => ?_, fun _ => ⟨v, hfields⟩⟩
    cases hdone.symm.trans hcause
  inOrder := hsteps.exists_rest
  executed := hexecuted
  success_iff := by
    constructor
    · exact fun _ => ⟨Instruction.firstFault_eq_none.mp hdone,
        Extractor.firstFault_eq_none.mp hfound⟩
    · exact fun _ => rfl
  complete _ := ⟨hsteps.map_fst_eq hdone, hfields.map_fst_eq hfound⟩
  stepFailure cause hcause := by cases hdone.symm.trans hcause
  fieldFailure _ cause hcause := by cases hfound.symm.trans hcause

end

/-- The result of a visit tells how it proceeded. -/
theorem Attends.exists_proceeds {s u : Noted σ} {outcome : Outcome Members}
    {notes : ScrapeMetadata} {last : σ} (hpage : page.NeverCancels service.album)
    (hcounts : s.1.instructionsExecuted = 0 ∧ s.1.extractorsRun = 0)
    (hattends : service.Attends visit page Meantime.idle s outcome u)
    (hexecuted : notes.instructionsExecuted = u.1.instructionsExecuted)
    (hrun : notes.extractorsRun = u.1.extractorsRun)
    (habandons : ∀ cause, outcome = .error cause →
      service.Abandons visit browser page cause u.2 last) (moment : Instant) :
    ∃ performed base answered, service.Proceeds visit browser page s.2 performed base answered
      (resultOf request outcome notes moment) last := by
  have hcounted (performed : List (Instruction × Outcome Unit)) :
      s.1.instructionsExecuted + succeeded performed = succeeded performed := by
    rw [hcounts.1, Nat.zero_add]
  cases hattends with
  | @stopped performed u cause hsteps hfault =>
      exact ⟨performed, none, [], proceeds_of_stopped hsteps (hexecuted.trans (hcounted performed))
        hpage hfault (habandons cause rfl) (hrun.trans hcounts.2) moment⟩
  | @missed performed u v base answered cause hsteps hdone hfields hfault =>
      exact ⟨performed, base, answered, proceeds_of_missed hsteps
        (hexecuted.trans (hcounted performed)) hdone hfields hfault moment⟩
  | @gathered performed u v t base answered looked _ hsteps hdone hfields hfound hlooked hcount =>
      exact ⟨performed, base, answered, proceeds_of_gathered hsteps
        ((hexecuted.trans hcount).trans (hcounted performed)) hdone hfields hfound _ moment⟩

/-- The plan of a visit is that of the request it is for. -/
theorem Reaches.request_eq {meantime : Meantime σ} {world : σ} {noted : Noted σ}
    (hreaches : service.Reaches meantime request world visit browser page noted) :
    visit.request = request := by
  cases hreaches with
  | opened happroves => exact (service.yields_approve request).of_canEnd happroves visit rfl

/-- Every scrape that is carried out, has no deadline, is left to itself and reaches a page whose
calls outside of steps come to an end and which never reports that it was called off: it comes to
an end, and has proceeded step by step and field by field as its result tells. -/
theorem proceeds_scrape (service : ScrapeService σ F) (request : ScrapeRequest) {visit : Visit}
    {browser : Browser σ F} {page : Page σ F} {s : Scraping σ} {noted : Noted σ}
    (hreaches : service.Reaches Meantime.idle request s.world visit browser page noted)
    (hlimit : request.options.timeoutMs = none) (hlacks : service.LacksResult request s)
    (hreturns : page.Returns service.engine) (hpage : page.NeverCancels service.album)
    (clock : Nat) :
    ∃ result finish t performed base answered,
      (service.scrape request).run none clock s = some (result, finish, t) ∧
      service.Proceeds visit browser page noted.2 performed base answered result t.world := by
  obtain ⟨outcome, u, hattend⟩ := service.halts_attend visit hreturns noted
  obtain ⟨w, closed, took, moment, finish, t, hleaves, hcloses, hrun⟩ :=
    exists_run_scrape hreaches (hreaches.request_eq ▸ hlimit) hlacks hattend clock
  have hattends : service.Attends visit page Meantime.idle noted outcome u := by
    rw [← Noted.beside_idle] at hattend
    exact service.attends_of_canEnd visit page hattend
  have habandons (cause : Failure) (hcause : outcome = .error cause) :
      service.Abandons visit browser page cause u.2 t.world :=
    ⟨u.1, w, closed, hcause ▸ hleaves, hcloses⟩
  let notes : ScrapeMetadata := { w.1 with processingTimeMs := took }
  have hexecuted : notes.instructionsExecuted = u.1.instructionsExecuted := by
    show w.1.instructionsExecuted = u.1.instructionsExecuted
    exact hleaves.view_eq fun _ _ => rfl
  have hextracted : notes.extractorsRun = u.1.extractorsRun := by
    show w.1.extractorsRun = u.1.extractorsRun
    exact hleaves.view_eq fun _ _ => rfl
  obtain ⟨performed, base, answered, hproceeds⟩ := hattends.exists_proceeds hpage
    hreaches.counts_eq hexecuted hextracted habandons moment
  exact ⟨resultOf request outcome notes moment, finish, t, performed, base, answered, hrun,
    hproceeds⟩

end ScrapeService

/-! ## Rehearsed pages -/

namespace Rehearsal

/-- The calls on a page that no step makes. -/
def Call.isOutsideSteps : Call → Bool
  | .address | .frames | .memoryUsage => true
  | _ => false

namespace PageScript

variable {script : PageScript}

theorem halts_faulty {call : Call} {rest : Attempt Stage α}
    (hcall : script.faults.lookup call ≠ some .hang) (hrest : rest.run.Halts) :
    (script.faulty call rest).run.Halts := by
  unfold faulty
  split
  · exact absurd ‹_› hcall
  · exact Attempt.halts_bind_ofActivity (Activity.halts_sleep _) fun _ => hrest
  · exact Activity.halts_done _
  · exact hrest
  · exact hrest

theorem halts_faulty? {call : Call} {rest : Attempt Stage α}
    (hcall : script.faults.lookup call ≠ some .hang) (hrest : rest.run.Halts) :
    (script.faulty? call rest).run.Halts := by
  apply halts_faulty hcall
  split
  · exact Activity.halts_done _
  · exact Attempt.halts_bind hrest fun _ => Activity.halts_done _

/-- The calls of a scripted page that no step makes come to an end if none of them hangs. -/
theorem returns_page
    (hcalls : ∀ call, call.isOutsideSteps = true → script.faults.lookup call ≠ some .hang) :
    script.page.Returns script.engine where
  document := by
    constructor
    · intro selector attributeName multiple
      dsimp only [page]
      split
      · exact Activity.halts_done _
      · cases attributeName <;> exact Activity.halts_done _
    · exact halts_faulty? (hcalls .address rfl) (Activity.halts_step _)
  frames := halts_faulty (hcalls .frames rfl) (Activity.halts_done _)
  frameDocuments frame := by
    constructor
    · intro selector attributeName multiple
      dsimp only [engine, FrameScript.document]
      split
      · exact Activity.halts_done _
      · cases attributeName <;> exact Activity.halts_done _
    · exact Activity.halts_done _
  memoryUsage := halts_faulty? (hcalls .memoryUsage rfl) (Activity.halts_done _)

theorem yields_faulty {call : Call} {rest : Attempt Stage α}
    (hcall : ∀ what, script.faults.lookup call ≠ some (.fail (.cancelled what)))
    (hrest : rest.run.Yields IsNoCancellation) :
    (script.faulty call rest).run.Yields IsNoCancellation := by
  unfold faulty
  split
  · exact fun _ _ => hrest
  · exact Attempt.yields_bind_ofActivity fun _ => hrest
  · rename_i cause hfails
    rintro what hcause
    cases hcause
    exact hcall what hfails
  · exact hrest
  · exact hrest

theorem yields_touch (selector : String) :
    (script.touch selector).run.Yields IsNoCancellation := by
  unfold touch
  split
  · exact nofun
  · split
    · exact fun _ _ => nofun
    · exact nofun

theorem yields_note_bind (action : String) {andThen : Unit → Attempt Stage α}
    (hthen : (andThen ()).run.Yields IsNoCancellation) :
    (note action >>= andThen).run.Yields IsNoCancellation := fun _ => hthen

/-- No call on a scripted page reports that it was called off if none is scripted to. -/
theorem neverCancels_page
    (hcalls : ∀ call what, script.faults.lookup call ≠ some (.fail (.cancelled what)))
    (directory : String) : script.page.NeverCancels (album directory) where
  goto url := by
    apply yields_faulty (hcalls .goto)
    apply yields_note_bind
    cases script.failsNavigation with
    | true => exact nofun
    | false => exact fun _ => nofun
  click selector := yields_note_bind _ (yields_touch selector)
  enter selector text := yields_note_bind _ (yields_touch selector)
  scroll selector := by
    apply yields_note_bind
    cases selector with
    | none => exact nofun
    | some selector => exact yields_touch selector
  awaitSelector selector := yields_note_bind _ (yields_touch selector)
  awaitNavigation := yields_note_bind _ (yields_faulty (hcalls .awaitNavigation) nofun)
  awaitNetworkIdle := yields_note_bind _ (yields_faulty (hcalls .awaitNetworkIdle) nofun)
  screenshot := by
    apply yields_faulty (hcalls .screenshot)
    split
    · exact nofun
    · exact nofun
  save file picture stage := by
    dsimp only [album, Album.inFiles, Files.writeInto]
    split
    · exact nofun
    · split
      · exact nofun
      · exact nofun

end PageScript

end Rehearsal

namespace ScrapeService

/-! A page without the button that is to be clicked. -/

/-- A page with a heading, and without a button. -/
def buttonless : Rehearsal.PageScript where
  texts := [("h1", ["Concerts"])]
  failing := ["#more"]

/-- A request that clicks the button where there is one, then scrolls, then clicks the button, and
then scrolls again. -/
def clicking : ScrapeRequest where
  url := "https://example.com/events"
  instructions := some [
    { step := 1, description := "dismiss", action := .click "#more", optional := true },
    { step := 2, description := "scroll", action := .scroll none },
    { step := 3, description := "show more", action := .click "#more" },
    { step := 4, description := "scroll on", action := .scroll none }]
  extractors := some [{ name := "title", selector := "h1", required := true }]
  options := { useCache := false }

/-- The first click is passed over, the second one is the last that is done on the page. -/
theorem proceeds_scrape_of_missing_button :
    let service := scripted buttonless 0
    let s : Scraping Rehearsal.Stage := { world := {} }
    ∃ visit noted,
      (service.Reaches Meantime.idle clicking s.world visit buttonless.browser buttonless.page
          noted ∧
        clicking.options.timeoutMs = none ∧ service.LacksResult clicking s ∧
        buttonless.page.Returns service.engine ∧ buttonless.page.NeverCancels service.album) ∧
      ∃ result finish t performed base answered,
        (service.scrape clicking).run none 0 s = some (result, finish, t) ∧
        service.Proceeds visit buttonless.browser buttonless.page noted.2 performed base answered
          result t.world ∧
        result.errorKind = some "instruction_failed" ∧ succeeded performed = 2 ∧
        t.world.actions = ["goto https://example.com/events", "click #more", "scroll <bottom>",
          "click #more"] := by
  intro service s
  have happroved : ((service.approve clicking).run.run none 0 ({}, s.world)).any
      (·.1.toBool) = true := by
    decide +kernel
  have hended : ((service.scrape clicking).run none 0 s).any (fun ended =>
      decide (ended.1.errorKind = some "instruction_failed") &&
        decide (ended.1.metadata.instructionsExecuted = 2) &&
        decide (ended.2.2.world.actions = ["goto https://example.com/events", "click #more",
          "scroll <bottom>", "click #more"])) = true := by
    decide +kernel
  have hlacks : service.LacksResult clicking s := fun huse => by cases huse
  have hreturns : buttonless.page.Returns service.engine :=
    Rehearsal.PageScript.returns_page fun _ _ hhangs => Option.some_ne_none _ hhangs.symm
  have hpage : buttonless.page.NeverCancels service.album :=
    Rehearsal.PageScript.neverCancels_page
      (fun _ _ hfails => Option.some_ne_none _ hfails.symm) "/shots"
  obtain ⟨⟨approval, later, approved⟩, hrun, hok⟩ := (Option.any_eq_true _ _).mp happroved
  cases approval with
  | error cause => cases hok
  | ok visit =>
      have happroves : (service.approve clicking).run.CanEnd (Noted.beside Meantime.idle)
          (.ok visit) approved ({}, s.world) := by
        rw [Noted.beside_idle]
        exact (Activity.canEnd_idle_iff 0).mpr ⟨later, hrun⟩
      have hpasses := (Activity.canEnd_idle_iff 0).mpr ⟨_, Politeness.run_pass
        ⟨visit.site.options.politenessDelayMs, service.settings.jitterMs⟩
        (service.draw approved.2) 0 approved.2⟩
      have hstarts : (service.engine.start visit.site.options).run.CanEnd Meantime.idle
          (.ok buttonless.browser) { approved.2 with launches := approved.2.launches + 1 }
          approved.2 :=
        ⟨rfl, rfl⟩
      have hopens : (buttonless.browser.openPage visit.site.options).run.CanEnd Meantime.idle
          (.ok buttonless.page) { approved.2 with launches := approved.2.launches + 1 }
          { approved.2 with launches := approved.2.launches + 1 } :=
        ⟨rfl, rfl⟩
      have hreaches := Reaches.opened happroves hpasses hstarts hopens
      obtain ⟨result, finish, t, performed, base, answered, hscrape, hproceeds⟩ :=
        proceeds_scrape service clicking hreaches rfl hlacks hreturns hpage 0
      rw [hscrape, Option.any_some] at hended
      simp only [Bool.and_eq_true, decide_eq_true_eq] at hended
      obtain ⟨⟨hkind, hexecuted⟩, hactions⟩ := hended
      exact ⟨visit, _, ⟨hreaches, rfl, hlacks, hreturns, hpage⟩, result, finish, t, performed, base,
        answered, hscrape, hproceeds, hkind, hproceeds.executed.symm.trans hexecuted, hactions⟩

end ScrapeService

end SiteWatch
