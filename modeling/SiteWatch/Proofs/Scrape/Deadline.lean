/-
# What the deadline of a request bounds

The deadline of a request runs from the moment at which its browser is there. From then on it bounds
the scrape, whatever pages do: the drive is cut short at the deadline, and the browser has some
seconds to close. What comes before is not bounded: the pause for politeness has the length that it
has, and a browser that takes its time to start, or never does, holds the scrape up.
-/

import SiteWatch.Proofs.Scrape.Closing
import SiteWatch.Proofs.Timing
import SiteWatch.Rehearsal.Service

namespace SiteWatch

open Activity (EndsUnder)

variable {σ F α : Type}

/-! ## What takes no time -/

theorem Noted.isPrompt_quietly {work : Activity σ α} (hwork : work.IsPrompt) :
    (Noted.quietly work).IsPrompt :=
  Activity.isPrompt_within hwork

theorem Noted.isPrompt_note (change : ScrapeMetadata → ScrapeMetadata) :
    (Noted.note change : Attempt (Noted σ) Unit).run.IsPrompt :=
  Attempt.isPrompt_ofActivity fun _ => trivial

/-- A pause that is not called off takes its time and changes nothing. -/
theorem Politeness.run_pass (p : Politeness) (drawn clock : Nat) (s : σ) :
    (p.pass drawn).run.run none clock s = some (.ok (), clock + p.pauseMs drawn, s) := by
  by_cases hpause : p.pauseMs drawn = 0
  · rw [pass, if_pos hpause, hpause]
    rfl
  · rw [pass, if_neg hpause]
    rfl

namespace ScrapeService

/-- A service whose robots rules and sites answer at once. -/
structure IsInformed (service : ScrapeService σ F) : Prop where
  robots : ∀ url, (service.robots url).IsPrompt
  sites : ∀ url, (service.sites.resolve url).run.IsPrompt

/-- Then a request is allowed or refused at once. -/
theorem IsInformed.approve {service : ScrapeService σ F} (hinformed : service.IsInformed)
    (request : ScrapeRequest) : (service.approve request).run.IsPrompt := by
  have hpage : (Attempt.ofOutcome request.page : Attempt (Noted σ) Url).run.IsPrompt := trivial
  apply Attempt.isPrompt_bind hpage
  intro url
  apply Attempt.isPrompt_bind
    (Attempt.isPrompt_ofActivity (Noted.isPrompt_quietly (hinformed.robots url.text)))
  intro status
  apply Attempt.isPrompt_bind (Noted.isPrompt_note _)
  intro _
  split
  · have hsite : (Noted.attempt (service.sites.resolve url)).run.IsPrompt :=
      Noted.isPrompt_quietly (hinformed.sites url)
    apply Attempt.isPrompt_bind hsite
    intro found
    cases found with
    | none => trivial
    | some site =>
        dsimp only
        split
        · apply Attempt.isPrompt_bind (Noted.isPrompt_note _)
          intro _
          trivial
        · trivial
  · trivial

/-! ## From the request to its result -/

variable (service : ScrapeService σ F) (visit : Visit) (request : ScrapeRequest)

/-- How long a visit is put off. -/
def pauseMs (world : σ) : Nat :=
  Politeness.pauseMs ⟨visit.site.options.politenessDelayMs, service.settings.jitterMs⟩
    (service.draw world)

variable {service visit request} {clock ended : Nat} {noted : Noted σ} {s : Scraping σ}

/-- A visit that is allowed begins with its browser once the pause is over. -/
theorem run_fetch_of_approved
    (happroved : (service.approve request).run.run none clock ({}, s.world) =
      some (.ok visit, clock, noted)) :
    (service.fetch request).run.run none clock ({}, s.world) =
      (service.browse visit).run.run none (clock + service.pauseMs visit noted.2) noted := by
  let politeness : Politeness :=
    ⟨visit.site.options.politenessDelayMs, service.settings.jitterMs⟩
  have hpass : (Noted.attempt (politeness.pass (service.draw noted.2))).run.run none clock noted =
      some (.ok (), clock + service.pauseMs visit noted.2, noted) := by
    show (Noted.quietly _).run none clock noted = _
    rw [Noted.run_quietly, Politeness.run_pass]
    rfl
  unfold fetch
  rw [Attempt.run_bind_of_ok _ happroved]
  have hdraw : (Noted.attempt (Attempt.step fun s => (.ok (service.draw s), s))).run.run none clock
      noted = some (.ok (service.draw noted.2), clock, noted) := rfl
  rw [Attempt.run_bind_of_ok _ hdraw, Attempt.run_bind_of_ok _ hpass]

/-- Closing a browser takes some seconds at most, and leaves the outcome as it is. -/
theorem exists_run_closed (browser : Browser σ F) (outcome : Outcome Members) (ended : Nat)
    (noted : Noted σ) :
    ∃ finish later, (closed Browser.close browser outcome).run none ended noted =
      some (outcome, finish, later) ∧ ended ≤ finish ∧ finish ≤ ended + closeLimitMs := by
  obtain ⟨answer, finish, t, hrun, hends⟩ := Activity.exists_endsUnder
    (.error (.timedOut closeLimitMs)) closeLimitMs ended noted.2 browser.close.run
  refine ⟨finish, (noted.1, t), ?_, Activity.le_of_run hrun, hends.le⟩
  have htimeout : (browser.close.timeout closeLimitMs).run.run none ended noted.2 =
      some (answer, finish, t) := hrun
  rw [closed, Activity.run_bind, Noted.run_quietly, Attempt.ok?, Activity.run_bind, htimeout]
  rfl

/-- A browser that does not start is the end of its visit. -/
theorem run_browse_of_error {cause : Failure} {world : σ}
    (hstart : (service.engine.start visit.site.options).run.run none clock noted.2 =
      some (.error cause, ended, world)) :
    (service.browse visit).run.run none clock noted =
      some (.error cause, ended, (noted.1, world)) := by
  apply Attempt.run_bind_of_error
  show (Noted.quietly _).run none clock noted = _
  rw [Noted.run_quietly, hstart]
  rfl

theorem run_browse_of_none
    (hstart : (service.engine.start visit.site.options).run.run none clock noted.2 = none) :
    (service.browse visit).run.run none clock noted = none := by
  apply Attempt.run_bind_of_none
  show (Noted.quietly _).run none clock noted = _
  rw [Noted.run_quietly, hstart]
  rfl

/-- A browser that starts is driven under the deadline, from its start on, and then closed. -/
theorem exists_run_browse {limit started : Nat} {browser : Browser σ F} {world : σ}
    (hlimit : visit.request.options.timeoutMs = some limit)
    (hstart : (service.engine.start visit.site.options).run.run none clock noted.2 =
      some (.ok browser, started, world)) :
    ∃ outcome ended finish later,
      (service.browse visit).run.run none clock noted = some (outcome, finish, later) ∧
      EndsUnder (.error (.timedOut limit)) limit started (noted.1, world)
        (service.drive visit browser).run outcome ended ∧
      ended ≤ finish ∧ finish ≤ ended + closeLimitMs := by
  obtain ⟨outcome, ended, t, hrun, hends⟩ := Activity.exists_endsUnder
    (.error (.timedOut limit)) limit started (noted.1, world) (service.drive visit browser).run
  obtain ⟨finish, later, hclosed, hle, hge⟩ := exists_run_closed browser outcome ended t
  refine ⟨outcome, ended, finish, later, ?_, hends, hle, hge⟩
  have hdriven : (service.drivenUntilClosed visit browser).run none started (noted.1, world) =
      some (outcome, ended, t) := by
    unfold drivenUntilClosed
    rw [hlimit]
    exact (Activity.run_orCancelled _ _ _ _).trans hrun
  have hstarted : (Noted.attempt (service.engine.start visit.site.options)).run.run none clock
      noted = some (.ok browser, started, (noted.1, world)) := by
    show (Noted.quietly _).run none clock noted = _
    rw [Noted.run_quietly, hstart]
    rfl
  unfold browse
  rw [Attempt.run_bind_of_ok _ hstarted, Attempt.run_bind_ofActivity, Activity.run_bind]
  show ((service.drivenUntilClosed visit browser).run none started (noted.1, world)).bind _ = _
  rw [hdriven]
  show ((Attempt.ofActivity _ >>= _ : Attempt (Noted σ) Members).run).run none ended t = _
  rw [Attempt.run_bind_ofActivity]
  exact hclosed

theorem run_onWorld (cancelAt : Option Nat) (clock : Nat) (s : Scraping σ) (work : Activity σ α) :
    (onWorld work).run cancelAt clock s =
      (work.run cancelAt clock s.world).map fun ended =>
        (ended.1, ended.2.1, { s with world := ended.2.2 }) := by
  refine Activity.run_within ?_ ?_ ?_ cancelAt clock s work
  · exact fun _ _ => rfl
  · exact fun _ _ _ => rfl
  · exact fun _ => rfl

/-- A request that is carried out is answered when that is over, with what it came to. -/
theorem run_scrapeAnew (service : ScrapeService σ F) (request : ScrapeRequest)
    (cancelAt : Option Nat) (clock : Nat) (s : Scraping σ) :
    (service.scrapeAnew request).run cancelAt clock s =
      ((service.fetch request).run.run cancelAt clock ({}, s.world)).map
        fun (outcome, finish, notes, world) =>
          let result := resultOf request outcome
            { notes with processingTimeMs := service.uptimeMs world - service.uptimeMs s.world }
            (service.now world)
          (result, finish, service.keep request result { s with world }) := by
  have hbegan : (onWorld (Activity.step fun w => (service.uptimeMs w, w))).run cancelAt clock s =
      some (service.uptimeMs s.world, clock, s) := rfl
  show Activity.run cancelAt clock s (Activity.bind _ _) = _
  rw [Activity.run_bind, hbegan]
  show Activity.run cancelAt clock s (Activity.bind _ _) = _
  rw [Activity.run_bind, run_onWorld, Activity.run_withNotes]
  cases Activity.run cancelAt clock ({}, s.world) (service.fetch request).run <;> rfl

/-- A request that cannot be answered with a kept result. -/
def LacksResult (service : ScrapeService σ F) (request : ScrapeRequest) (s : Scraping σ) : Prop :=
  request.options.useCache = true →
    s.cache.living? (service.uptimeMs s.world) request.url = none

/-- Such a request is carried out. -/
theorem LacksResult.exists_run_scrape (hlacks : service.LacksResult request s)
    (cancelAt : Option Nat) (clock : Nat) :
    ∃ u : Scraping σ, u.world = s.world ∧ (service.scrape request).run cancelAt clock s =
      (service.scrapeAnew request).run cancelAt clock u := by
  unfold scrape
  cases huse : request.options.useCache with
  | false => exact ⟨s, rfl, rfl⟩
  | true =>
      have hget : s.cache.get (service.uptimeMs s.world) request.url =
          (none, { s.cache with misses := s.cache.misses + 1 }) := by
        rw [Cache.get, hlacks huse]
      refine ⟨{ s with cache := { s.cache with misses := s.cache.misses + 1 } }, rfl, ?_⟩
      rw [if_pos rfl]
      simp only [Activity.step, Activity.bind, Activity.run, hget]

/-! ## The course of a request with a deadline -/

/-- How a request with a deadline goes, from a time on, that is carried out and not called off: the
result and the time at which it is there, if there ever is one. -/
inductive GoesUnder (service : ScrapeService σ F) (request : ScrapeRequest) (limit clock : Nat)
    (world : σ) : Option (ScrapeResult × Nat) → Prop
  /-- It is refused at once. -/
  | refused {cause : Failure} {noted : Noted σ} {notes : ScrapeMetadata} {moment : Instant}
      (happroved : (service.approve request).run.run none clock ({}, world) =
        some (.error cause, clock, noted)) :
      GoesUnder service request limit clock world
        (some (resultOf request (.error cause) notes moment, clock))
  /-- Its browser never starts, and it waits forever. -/
  | stuck {visit : Visit} {noted : Noted σ}
      (happroved : (service.approve request).run.run none clock ({}, world) =
        some (.ok visit, clock, noted))
      (hstart : (service.engine.start visit.site.options).run.run none
        (clock + service.pauseMs visit noted.2) noted.2 = none) :
      GoesUnder service request limit clock world none
  /-- Its browser fails to start, and it fails then. -/
  | unstarted {visit : Visit} {noted : Noted σ} {cause : Failure} {ended : Nat} {later : σ}
      {notes : ScrapeMetadata} {moment : Instant}
      (happroved : (service.approve request).run.run none clock ({}, world) =
        some (.ok visit, clock, noted))
      (hstart : (service.engine.start visit.site.options).run.run none
        (clock + service.pauseMs visit noted.2) noted.2 = some (.error cause, ended, later)) :
      GoesUnder service request limit clock world
        (some (resultOf request (.error cause) notes moment, ended))
  /-- It has a browser, and the deadline runs from then on. -/
  | driven {visit : Visit} {noted : Noted σ} {browser : Browser σ F} {started ended finish : Nat}
      {later : σ} {outcome : Outcome Members} {notes : ScrapeMetadata} {moment : Instant}
      (happroved : (service.approve request).run.run none clock ({}, world) =
        some (.ok visit, clock, noted))
      (hstart : (service.engine.start visit.site.options).run.run none
        (clock + service.pauseMs visit noted.2) noted.2 = some (.ok browser, started, later))
      (hdriven : EndsUnder (.error (.timedOut limit)) limit started (noted.1, later)
        (service.drive visit browser).run outcome ended)
      (hclosed : ended ≤ finish ∧ finish ≤ ended + closeLimitMs) :
      GoesUnder service request limit clock world
        (some (resultOf request outcome notes moment, finish))

/-- The visit that is allowed is the one that was asked for. -/
theorem yields_approve (service : ScrapeService σ F) (request : ScrapeRequest) :
    (service.approve request).run.Yields fun outcome =>
      ∀ visit, outcome = .ok visit → visit.request = request := by
  have herror (cause : Failure) (visit : Visit)
      (hvisit : (.error cause : Outcome Visit) = .ok visit) : visit.request = request :=
    nomatch hvisit
  apply Attempt.yields_bind _ herror
  intro url
  apply Attempt.yields_bind _ herror
  intro status
  apply Attempt.yields_bind _ herror
  intro _
  split
  · apply Attempt.yields_bind _ herror
    intro found
    cases found with
    | none => exact herror _
    | some site =>
        dsimp only
        split
        · apply Attempt.yields_bind _ herror
          rintro _ visit ⟨⟩
          rfl
        · exact herror _
  · exact herror _

/-- The deadline of a request bounds what its browser is driven for, and nothing before that. A
request is refused at once or put off for its pause; when the pause is over its browser is to start,
and it has no result before that is done; once the browser is there, the result is that of the drive
if the drive is over by the deadline, counted from the start of the browser, and otherwise that the
time is up, and it takes the time of the closing longer, which is ten seconds at most. -/
theorem goesUnder_scrape (hinformed : service.IsInformed) {limit : Nat}
    (hlimit : request.options.timeoutMs = some limit) (hlacks : service.LacksResult request s)
    (clock : Nat) :
    service.GoesUnder request limit clock s.world
      (((service.scrape request).run none clock s).map fun ended => (ended.1, ended.2.1)) := by
  obtain ⟨u, hworld, hscrape⟩ := hlacks.exists_run_scrape none clock
  rw [hscrape, run_scrapeAnew, hworld]
  obtain ⟨approval, noted, happroved⟩ :=
    (hinformed.approve request).exists_run none clock ({}, s.world)
  cases approval with
  | error cause =>
      unfold fetch
      rw [Attempt.run_bind_of_error _ happroved]
      exact .refused happroved
  | ok visit =>
      have hvisit := (service.yields_approve request).of_run happroved visit rfl
      rw [run_fetch_of_approved happroved]
      cases hstart : (service.engine.start visit.site.options).run.run none
          (clock + service.pauseMs visit noted.2) noted.2 with
      | none =>
          rw [run_browse_of_none hstart]
          exact .stuck happroved hstart
      | some launched =>
          obtain ⟨started?, ended, later⟩ := launched
          cases started? with
          | error cause =>
              rw [run_browse_of_error hstart]
              exact .unstarted happroved hstart
          | ok browser =>
              obtain ⟨outcome, ended, finish, last, hbrowse, hdriven, hclosed⟩ :=
                exists_run_browse (hvisit ▸ hlimit) hstart
              rw [hbrowse]
              exact .driven happroved hstart hdriven hclosed

/-- So a request is answered in time, counted from the moment by which its browser has started or
failed to, if there is such a moment. -/
theorem GoesUnder.exists_le {limit latest : Nat} {world : σ} {ended? : Option (ScrapeResult × Nat)}
    (hgoes : service.GoesUnder request limit clock world ended?) (hlatest : clock ≤ latest)
    (hstart : ∀ (visit : Visit) (noted : Noted σ), ∃ started? started later,
      (service.engine.start visit.site.options).run.run none
        (clock + service.pauseMs visit noted.2) noted.2 = some (started?, started, later) ∧
      started ≤ latest) :
    ∃ result finish, ended? = some (result, finish) ∧ finish ≤ latest + limit + closeLimitMs := by
  cases hgoes with
  | refused happroved => exact ⟨_, clock, rfl, by omega⟩
  | @stuck visit noted happroved hnever =>
      obtain ⟨started?, started, later, hstarts, -⟩ := hstart visit noted
      cases hnever.symm.trans hstarts
  | @unstarted visit noted cause ended later notes moment happroved hfails =>
      obtain ⟨started?, started, last, hstarts, hle⟩ := hstart visit noted
      cases hfails.symm.trans hstarts
      exact ⟨_, ended, rfl, by omega⟩
  | @driven visit noted browser started ended finish later outcome notes moment happroved hbrowser
      hdriven hclosed =>
      obtain ⟨started?, _, last, hstarts, hle⟩ := hstart visit noted
      cases hbrowser.symm.trans hstarts
      have hended := hdriven.le
      exact ⟨_, finish, rfl, by omega⟩

/-! A page that hangs, and browsers that take their time to start. -/

/-- A service of one site, whose pages and browsers follow a script. -/
def scripted (script : Rehearsal.PageScript) (politenessDelayMs : Nat) :
    ScrapeService Rehearsal.Stage Rehearsal.FrameScript :=
  Rehearsal.service script .allowed
    [{ id := "events", domain := "example.com", options := { politenessDelayMs } }] "/shots" ⟨0, 0⟩

/-- A request with a deadline of a second. -/
def hurried : ScrapeRequest where
  url := "https://example.com/events"
  options := { useCache := false, timeoutMs := some 1000 }

theorem isInformed_scripted (script : Rehearsal.PageScript) (politenessDelayMs : Nat) :
    (scripted script politenessDelayMs).IsInformed where
  robots _ := Activity.isPrompt_step _
  sites _ := trivial

/-- A page at which everything hangs, the closing of its browser included, is given up a second after
the start of the browser, and the browser ten seconds later. -/
theorem goesUnder_scrape_of_hanging_page :
    let service := scripted { faults := [(.goto, .hang), (.close, .hang)] } 500
    let s : Scraping Rehearsal.Stage := { world := {} }
    service.IsInformed ∧ hurried.options.timeoutMs = some 1000 ∧ service.LacksResult hurried s ∧
      service.GoesUnder hurried 1000 0 s.world
        (((service.scrape hurried).run none 0 s).map fun ended => (ended.1, ended.2.1)) ∧
      ((service.scrape hurried).run none 0 s).any (fun ended =>
        ended.1.errorKind == some "timeout" && ended.2.1 == 500 + 1000 + closeLimitMs) = true := by
  intro service s
  have hlacks : service.LacksResult hurried s := fun huse => by cases huse
  have hinformed : service.IsInformed := isInformed_scripted _ _
  refine ⟨hinformed, rfl, hlacks, goesUnder_scrape hinformed rfl hlacks 0, ?_⟩
  decide +kernel

/-- A browser that takes twenty seconds to start makes a request with a deadline of one second a
success after twenty; with a browser that never starts the request is never answered. -/
theorem deadline_does_not_bound_start :
    let s : Scraping Rehearsal.Stage := { world := {} }
    let slow := scripted { faults := [(.launch, .delay 20000)] } 0
    let hanging := scripted { faults := [(.launch, .hang)] } 0
    hurried.options.timeoutMs = some 1000 ∧
      (slow.IsInformed ∧ slow.LacksResult hurried s ∧
        ∃ result finish t, (slow.scrape hurried).run none 0 s = some (result, finish, t) ∧
          result.success = true ∧ 1000 + closeLimitMs < finish) ∧
      (hanging.IsInformed ∧ hanging.LacksResult hurried s ∧
        (hanging.scrape hurried).run none 0 s = none) := by
  intro s slow hanging
  have hslow : ((slow.scrape hurried).run none 0 s).any (fun ended =>
      ended.1.success && decide (1000 + closeLimitMs < ended.2.1)) = true := by
    decide +kernel
  have hhanging : ((hanging.scrape hurried).run none 0 s).isNone = true := by
    decide +kernel
  obtain ⟨⟨result, finish, t⟩, hrun, hended⟩ := (Option.any_eq_true _ _).mp hslow
  rw [Bool.and_eq_true, decide_eq_true_eq] at hended
  refine ⟨rfl, ⟨isInformed_scripted _ _, ?_, result, finish, t, hrun, hended⟩,
    isInformed_scripted _ _, ?_, Option.isNone_iff_eq_none.mp hhanging⟩
  · exact fun huse => by cases huse
  · exact fun huse => by cases huse

end ScrapeService

end SiteWatch
