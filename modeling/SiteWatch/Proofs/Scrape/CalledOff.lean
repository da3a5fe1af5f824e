/-
# Scrapes that were called off before they began

A scrape can be called off before it is even asked for. Whatever heeds that then waits no longer: a
pause for politeness ends the scrape at once, before anything is done with a browser, and so does
every stage that does not let the scrape pass. A site without a pause has nothing there to call off,
and its browser is started all the same.
-/

import SiteWatch.Proofs.Scrape.Deadline
import SiteWatch.Proofs.Scrape.Gate

namespace SiteWatch

variable {σ F α : Type}

/-! ## Work that was called off before -/

/-- What goes on during a wait after the work has been called off: a wait that heeds that takes no
time. -/
def Meantime.calledOff (meantime : Meantime σ) : Meantime σ :=
  fun pause wake elapsed s t =>
    meantime pause wake elapsed s t ∧ (pause.heeds = true → elapsed = 0)

namespace Activity

theorem CanEnd.of_calledOff {meantime : Meantime σ} {work : Activity σ α} {s t : σ} {value : α}
    (hends : work.CanEnd meantime.calledOff value t s) : work.CanEnd meantime value t s := by
  apply hends.mono
  intro pause wake elapsed s t hmeantime
  exact hmeantime.1

/-- A wait that heeds that the work was called off before is over at once. -/
theorem elapsed_eq_zero_of_firstWake {pause : Pause σ} {s : σ} {wake : Wake} {elapsed : Nat}
    (hheeds : pause.heeds = true) (hwake : firstWake pause (some 0) s = some (wake, elapsed)) :
    elapsed = 0 := by
  unfold firstWake at hwake
  rw [if_pos hheeds] at hwake
  split at hwake
  · cases hwake
    rfl
  · cases hafter : pause.after with
    | none =>
        rw [hafter] at hwake
        cases hwake
        rfl
    | some time =>
        simp only [hafter] at hwake
        split at hwake
        · cases hwake
          rfl
        · cases hwake
          omega

/-- Work that runs by itself from a time on at which it has been called off already. -/
theorem canEnd_calledOff_of_run {meantime : Meantime σ}
    (hidle : ∀ (pause : Pause σ) wake elapsed s, pause.endsBy wake elapsed s = true →
      meantime pause wake elapsed s s)
    {work : Activity σ α} {moment clock later : Nat} {s t : σ} {value : α}
    (hmoment : moment ≤ clock)
    (hrun : work.run (some moment) clock s = some (value, later, t)) :
    work.CanEnd meantime.calledOff value t s := by
  induction work generalizing clock s with
  | done answer =>
      cases hrun
      exact ⟨rfl, rfl⟩
  | act update next ih => exact ih s hmoment hrun
  | wait pause next ih =>
      simp only [run, Option.map_some, Nat.sub_eq_zero_of_le hmoment] at hrun
      split at hrun
      · cases hrun
      · rename_i wake elapsed hwake
        have hends := ih wake elapsed (hmoment.trans (Nat.le_add_right clock elapsed)) hrun
        have hheeded (hheeds : pause.heeds = true) : elapsed = 0 :=
          elapsed_eq_zero_of_firstWake hheeds hwake
        exact ⟨wake, elapsed, s, ⟨hidle pause wake elapsed s (endsBy_of_firstWake hwake), hheeded⟩,
          hends⟩

end Activity

open Journal

/-! ## The pause -/

namespace Politeness

/-- Called off before, a pause is the end, and where there is no pause that changes nothing. -/
theorem run_pass_calledOff (p : Politeness) (drawn : Nat) {moment clock : Nat}
    (hmoment : moment ≤ clock) (hpause : p.pauseMs drawn ≠ 0) (s : σ) :
    (p.pass drawn).run.run (some moment) clock s =
      some (.error (.cancelled "during politeness delay"), clock, s) := by
  have hwake : Activity.firstWake { after := some (p.pauseMs drawn), heeds := true } (some 0) s =
      some (.cancelled, 0) := by
    show (if 0 < p.pauseMs drawn then _ else _) = _
    exact if_pos (Nat.pos_of_ne_zero hpause)
  rw [pass, if_neg hpause]
  simp only [ExceptT.run_mk, Activity.run, Option.map_some, Nat.sub_eq_zero_of_le hmoment, hwake]
  rfl

/-- In every execution after the work was called off, a pause either is none or ends with that. -/
theorem canEnd_pass_calledOff {p : Politeness} {drawn : Nat} {outcome : Outcome Unit}
    {w v : Journal σ}
    (hends : (p.pass drawn).run.CanEnd (Meantime.calledOff Journal.Meantime) outcome v w) :
    (p.pauseMs drawn = 0 ∧ outcome = .ok () ∧ v = w) ∨
      (p.pauseMs drawn ≠ 0 ∧ outcome = .error (.cancelled "during politeness delay") ∧
        v.1 = w.1 ++ [.waited .cancelled 0]) := by
  by_cases hpause : p.pauseMs drawn = 0
  · rw [pass, if_pos hpause] at hends
    exact .inl ⟨hpause, hends.1.symm, hends.2.symm⟩
  · rw [pass, if_neg hpause] at hends
    obtain ⟨wake, elapsed, t, ⟨⟨u, hwake, hu, rfl⟩, hheeds⟩, hends⟩ := hends
    obtain rfl : elapsed = 0 := hheeds rfl
    cases wake with
    | due => exact absurd (by simpa [Pause.endsBy] using hwake) hpause
    | ready => cases hwake
    | cancelled =>
        obtain ⟨rfl, rfl⟩ := hends
        exact .inr ⟨hpause, rfl, by rw [write, hu]⟩

end Politeness

/-! ## The stages -/

/-- What a scrape that was called off before it began has entered, and whether it went well. -/
structure Journal.StopsShort (jitterMs : Nat) (request : ScrapeRequest)
    (entries : List ScrapeEntry) (success : Bool) : Prop where
  /-- A browser is asked for only where every stage lets the scrape pass and the site has no pause,
  … -/
  unpaused : .launching ∈ entries →
    ∃ url site, Assigns request url site entries ∧ site.options.politenessDelayMs = 0
  /-- … and there it is asked for indeed, unless chance adds to the pause. -/
  launches : jitterMs = 0 →
    (∃ url site, Assigns request url site entries ∧ site.options.politenessDelayMs = 0) →
      .launching ∈ entries
  /-- Else nothing is done with one, and the scrape fails. -/
  stops : .launching ∉ entries → .acting ∉ entries ∧ success = false

namespace Approves

variable {request : ScrapeRequest} {entries rest : List ScrapeEntry} {checked : Bool}

/-- What the scrape was assigned is the site of its visit. -/
theorem site_eq {visit : Visit} (happroves : Approves request entries (.ok visit) checked)
    (hrest : ∀ entry ∈ rest, entry.isStage = true → entry = .launching) {url : Url} {site : Site}
    (hassigns : Assigns request url site (entries ++ rest)) : site = visit.site :=
  (happroves.notes_of_tail hrest).2 url site hassigns.resolved

theorem stopsShort_of_error {cause : Failure} {jitterMs : Nat}
    (happroves : Approves request entries (.error cause) checked) :
    StopsShort jitterMs request entries false where
  unpaused hlaunching := absurd hlaunching happroves.notMem.1
  launches := by
    rintro - ⟨url, site, hassigns, -⟩
    cases (happroves.of_error.2 url site hassigns.resolved).symm.trans hassigns.enabled
  stops _ := ⟨happroves.notMem.2, rfl⟩

theorem stopsShort_of_pause {visit : Visit} {jitterMs drawn : Nat}
    (happroves : Approves request entries (.ok visit) checked)
    (hpause : Politeness.pauseMs ⟨visit.site.options.politenessDelayMs, jitterMs⟩ drawn ≠ 0) :
    StopsShort jitterMs request (entries ++ [.waited .cancelled 0]) false := by
  obtain ⟨hlaunching, hacting⟩ := happroves.notMem
  have hlaunching : .launching ∉ entries ++ [.waited .cancelled 0] := by simp [hlaunching]
  have hrest : ∀ entry ∈ [ScrapeEntry.waited .cancelled 0],
      entry.isStage = true → entry = .launching := by
    simp [ScrapeEntry.isStage]
  constructor
  · exact fun hmem => absurd hmem hlaunching
  · rintro rfl ⟨url, site, hassigns, hdelay⟩
    rw [happroves.site_eq hrest hassigns] at hdelay
    exact absurd hdelay hpause
  · exact fun _ => ⟨by simp [hacting], rfl⟩

theorem stopsShort_of_launch {visit : Visit} {jitterMs drawn : Nat} (success : Bool)
    (happroves : Approves request entries (.ok visit) checked)
    (hpause : Politeness.pauseMs ⟨visit.site.options.politenessDelayMs, jitterMs⟩ drawn = 0) :
    StopsShort jitterMs request (entries ++ .launching :: rest) success := by
  have hlaunching : .launching ∈ entries ++ .launching :: rest := by simp
  have hdelay : visit.site.options.politenessDelayMs = 0 := by
    unfold Politeness.pauseMs at hpause
    split at hpause
    · exact hpause
    · exact Nat.eq_zero_of_add_eq_zero_right hpause
  obtain ⟨url, -, -, hassigns, -⟩ := happroves.of_ok
  constructor
  · exact fun _ => ⟨url, visit.site, hassigns.mono (List.subset_append_left _ _), hdelay⟩
  · exact fun _ _ => hlaunching
  · exact fun hmem => absurd hlaunching hmem

end Approves

namespace Noted

/-- Work that leaves the notes alone is work on the world, also after a scrape was called off. -/
theorem canEnd_quietly_calledOff {work : Activity (Journal σ) α} {value : α}
    {s t : Noted (Journal σ)}
    (hends : (quietly work).CanEnd (Meantime.calledOff Noted.Amid) value t s) :
    work.CanEnd (Meantime.calledOff Journal.Meantime) value t.2 s.2 := by
  apply hends.of_within
  · exact fun pause wake elapsed s t hamid => ⟨hamid.1.1, hamid.2⟩
  · exact fun _ _ => rfl

end Noted

namespace ScrapeService

variable (service : ScrapeService σ F) {request : ScrapeRequest}

theorem stopsShort_of_fetch {outcome : Outcome Members} {s t : Noted (Journal σ)}
    (hnotes : s.ofStages = (false, false, none))
    (hends : (service.journaled.fetch request).run.CanEnd (Meantime.calledOff Noted.Amid) outcome t
      s) :
    ∃ entries, t.2.1 = s.2.1 ++ entries ∧
      StopsShort service.settings.jitterMs request entries outcome.toBool := by
  rcases Attempt.canEnd_bind.mp hends with ⟨cause, happrove, rfl⟩ | ⟨visit, u, happrove, hrest⟩
  · obtain ⟨entries, checked, happroves, ht, -⟩ :=
      service.approves_of_canEnd hnotes happrove.of_calledOff
    exact ⟨entries, ht, happroves.stopsShort_of_error⟩
  obtain ⟨entries, checked, happroves, hu, -⟩ :=
    service.approves_of_canEnd hnotes happrove.of_calledOff
  rcases Attempt.canEnd_bind.mp hrest with ⟨cause, hdraw, -⟩ | ⟨drawn, v, hdraw, hrest⟩
  · cases hdraw.1
  obtain rfl : u = v := hdraw.2
  rcases Attempt.canEnd_bind.mp hrest with ⟨cause, hpass, rfl⟩ | ⟨⟨⟩, w, hpass, hbrowse⟩
  · rcases Politeness.canEnd_pass_calledOff (Noted.canEnd_quietly_calledOff hpass) with
      ⟨-, hcause, -⟩ | ⟨hpause, -, ht⟩
    · cases hcause
    · refine ⟨_, ?_, happroves.stopsShort_of_pause hpause⟩
      rw [ht, hu, List.append_assoc]
  · rcases Politeness.canEnd_pass_calledOff (Noted.canEnd_quietly_calledOff hpass) with
      ⟨hpause, -, hw⟩ | ⟨-, hcause, -⟩
    · obtain ⟨rest, -, ht⟩ := service.exists_rest_of_browse visit hbrowse.of_calledOff
      refine ⟨entries ++ .launching :: rest, ?_, happroves.stopsShort_of_launch _ hpause⟩
      rw [ht, hw, hu]
      simp only [List.append_assoc, List.singleton_append]
    · cases hcause

-- A request that is carried out is known here only by its work.
attribute [local irreducible] scrapeAnew

/-- What a scrape enters during its waits that was called off before. -/
theorem stopsShort_of_scrape {result : ScrapeResult} {s t : Scraping (Journal σ)}
    (hends : ((service.journaled.scrape request).noting Scraping.noteWait).CanEnd
      (Meantime.calledOff (Meantime.leaving fun s => s.world.1)) result t s)
    (hanew : result.metadata.cacheUsed = false) :
    ∃ entries, t.world.1 = s.world.1 ++ entries ∧
      StopsShort service.settings.jitterMs request entries result.success := by
  obtain ⟨u, hworld, hends⟩ :=
    service.journaled.exists_scrapeAnew_of_scrape (Activity.canEnd_noting.mp hends) hanew
  have hamid (pause : Pause (Noted (Journal σ))) wake elapsed notes (s t : Scraping (Journal σ))
      (hmeantime : ∃ u : Scraping (Journal σ),
        Meantime.calledOff (Meantime.leaving fun s => s.world.1)
          ⟨pause.after, fun s => pause.ready (notes, s.world), pause.heeds⟩ wake elapsed s u ∧
        u.noteWait wake elapsed = t) :
      Meantime.calledOff Noted.Amid pause wake elapsed (notes, s.world) (notes, t.world) := by
    obtain ⟨u, ⟨⟨hwake, hleft⟩, hheeds⟩, rfl⟩ := hmeantime
    exact ⟨⟨⟨u.world, by cases wake <;> exact hwake, hleft, rfl⟩, rfl⟩, hheeds⟩
  obtain ⟨outcome, notes, took, moment, hfetch, rfl⟩ :=
    service.journaled.exists_fetch_of_scrapeAnew hamid hends
  obtain ⟨entries, ht, hstops⟩ := service.stopsShort_of_fetch rfl hfetch
  rw [hworld] at ht
  refine ⟨entries, ht, ?_⟩
  cases outcome <;> exact hstops

variable {service}

/-- A request that is refused, or is put off at all, is over as soon as that is known. -/
theorem exists_run_fetch_of_stopped {moment clock later : Nat} (hmoment : moment ≤ clock)
    {s noted : Noted σ} {approval : Outcome Visit}
    (happroved : (service.approve request).run.run (some moment) clock s =
      some (approval, later, noted))
    (hpauses : ∀ visit, approval = .ok visit → service.pauseMs visit noted.2 ≠ 0) :
    ∃ cause, (service.fetch request).run.run (some moment) clock s =
      some (.error cause, later, noted) := by
  unfold fetch
  cases approval with
  | error cause => exact ⟨cause, Attempt.run_bind_of_error _ happroved⟩
  | ok visit =>
      have hdraw : (Noted.attempt (Attempt.step fun s => (.ok (service.draw s), s))).run.run
          (some moment) later noted = some (.ok (service.draw noted.2), later, noted) := rfl
      let politeness : Politeness :=
        ⟨visit.site.options.politenessDelayMs, service.settings.jitterMs⟩
      have hpass : (Noted.attempt (politeness.pass (service.draw noted.2))).run.run (some moment)
          later noted = some (.error (.cancelled "during politeness delay"), later, noted) := by
        show (Noted.quietly _).run (some moment) later noted = _
        rw [Noted.run_quietly, politeness.run_pass_calledOff _
          (hmoment.trans (Activity.le_of_run happroved)) (hpauses visit rfl)]
        rfl
      refine ⟨.cancelled "during politeness delay", ?_⟩
      rw [Attempt.run_bind_of_ok _ happroved, Attempt.run_bind_of_ok _ hdraw]
      exact Attempt.run_bind_of_error _ hpass

/-- A scrape that was called off before it began, whatever the robots rules and the sites answer and
whatever others do in the meantime, asks for a browser exactly where every stage lets it pass and
nothing puts it off; else nothing is done with a browser, and it fails. And when it is refused or
put off, it does come to an end, as soon as that is known, and leaves the world as the stages left
it. -/
theorem stopsShort_scrape (service : ScrapeService σ F) (request : ScrapeRequest) :
    (∀ (result : ScrapeResult) (s t : Scraping (Journal σ)),
      ((service.journaled.scrape request).noting Scraping.noteWait).CanEnd
        (Meantime.calledOff (Meantime.leaving fun s => s.world.1)) result t s →
      result.metadata.cacheUsed = false →
        ∃ entries, t.world.1 = s.world.1 ++ entries ∧
          StopsShort service.settings.jitterMs request entries result.success) ∧
    ∀ (moment clock : Nat) (s : Scraping σ), moment ≤ clock → service.LacksResult request s →
      ∀ approval later noted,
        (service.approve request).run.run (some moment) clock ({}, s.world) =
          some (approval, later, noted) →
        (∀ visit, approval = .ok visit → service.pauseMs visit noted.2 ≠ 0) →
          ∃ result t, (service.scrape request).run (some moment) clock s =
            some (result, later, t) ∧ result.success = false ∧ t.world = noted.2 := by
  constructor
  · intro result s t hends hanew
    exact service.stopsShort_of_scrape hends hanew
  · intro moment clock s hmoment hlacks approval later noted happroved hpauses
    obtain ⟨u, hworld, hscrape⟩ := hlacks.exists_run_scrape (some moment) clock
    obtain ⟨cause, hfetch⟩ := exists_run_fetch_of_stopped hmoment happroved hpauses
    rw [hscrape, run_scrapeAnew, hworld, hfetch]
    exact ⟨_, _, rfl, rfl, service.world_keep request _ _⟩

/-- The scrape of a site with a pause that was called off before is over at once, and has asked for
no browser. -/
theorem stopsShort_scrape_of_paused_site :
    let service := scripted {} 500
    let s : Scraping Rehearsal.Stage := { world := {} }
    let journal : Scraping (Journal Rehearsal.Stage) := { world := ([], {}) }
    (∃ result t,
      (((service.journaled.scrape hurried).noting Scraping.noteWait).CanEnd
        (Meantime.calledOff (Meantime.leaving fun s => s.world.1)) result t journal ∧
        result.metadata.cacheUsed = false) ∧
      (t.world.1.any (·.isLaunch) = false) ∧
      ∃ entries, t.world.1 = journal.world.1 ++ entries ∧
        StopsShort service.settings.jitterMs hurried entries result.success) ∧
    ∃ approval later noted,
      ((service.approve hurried).run.run (some 0) 60 ({}, s.world) = some (approval, later, noted) ∧
        ∀ visit, approval = .ok visit → service.pauseMs visit noted.2 ≠ 0) ∧
      approval.toBool = true ∧
      ∃ result t, (service.scrape hurried).run (some 0) 60 s = some (result, later, t) ∧
        result.success = false ∧ t.world = noted.2 := by
  intro service s journal
  have hlacks : service.LacksResult hurried s := fun huse => by cases huse
  have hjournal : (((service.journaled.scrape hurried).noting Scraping.noteWait).run (some 0) 60
      journal).any (fun ended => !ended.1.metadata.cacheUsed &&
        !ended.2.2.world.1.any (·.isLaunch)) = true := by
    decide +kernel
  have happroves : ((service.approve hurried).run.run (some 0) 60 ({}, s.world)).any
      (fun ended => match ended.1 with
        | .ok visit => decide (service.pauseMs visit ended.2.2.2 ≠ 0)
        | .error _ => false) = true := by
    decide +kernel
  have hstops := stopsShort_scrape service hurried
  clear_value service s journal
  constructor
  · obtain ⟨⟨result, later, t⟩, hrun, hended⟩ := (Option.any_eq_true _ _).mp hjournal
    simp only [Bool.and_eq_true, Bool.not_eq_true'] at hended
    have hends : ((service.journaled.scrape hurried).noting Scraping.noteWait).CanEnd
        (Meantime.calledOff (Meantime.leaving fun s => s.world.1)) result t journal :=
      Activity.canEnd_calledOff_of_run (fun _ _ _ _ hwake => ⟨hwake, rfl⟩) (Nat.zero_le 60) hrun
    exact ⟨result, t, ⟨hends, hended.1⟩, hended.2, hstops.1 result journal t hends hended.1⟩
  · obtain ⟨⟨approval, later, noted⟩, hrun, hended⟩ := (Option.any_eq_true _ _).mp happroves
    cases approval with
    | error cause => cases hended
    | ok approved =>
        have hpauses (visit : Visit) (hvisit : (.ok approved : Outcome Visit) = .ok visit) :
            service.pauseMs visit noted.2 ≠ 0 := by
          cases hvisit
          exact of_decide_eq_true hended
        exact ⟨.ok approved, later, noted, ⟨hrun, hpauses⟩, rfl,
          hstops.2 0 60 s (Nat.zero_le 60) hlacks (.ok approved) later noted hrun hpauses⟩

/-- A site without a pause is scraped although the scrape was called off before: its browser is
started, however long that takes, and a page that never waits brings its fields. -/
theorem called_off_scrape_starts_browser :
    let s : Scraping Rehearsal.Stage := { world := {} }
    (∃ result later t, ((scripted {} 0).scrape hurried).run (some 0) 60 s =
      some (result, later, t) ∧ result.success = true ∧ t.world.launches = 1 ∧
        t.world.actions = ["goto https://example.com/events"]) ∧
    ∃ result later t,
      ((scripted { faults := [(.launch, .delay 5000), (.goto, .hang)] } 0).scrape hurried).run
        (some 0) 60 s = some (result, later, t) ∧ result.success = false ∧ t.world.launches = 1 ∧
        later = 5060 := by
  intro s
  have hquick : (((scripted {} 0).scrape hurried).run (some 0) 60 s).any (fun ended =>
      ended.1.success && decide (ended.2.2.world.launches = 1 ∧
        ended.2.2.world.actions = ["goto https://example.com/events"])) = true := by
    decide +kernel
  have hslow : (((scripted { faults := [(.launch, .delay 5000), (.goto, .hang)] } 0).scrape
      hurried).run (some 0) 60 s).any (fun ended =>
        !ended.1.success && decide (ended.2.2.world.launches = 1 ∧ ended.2.1 = 5060)) = true := by
    decide +kernel
  obtain ⟨⟨result, later, t⟩, hrun, hended⟩ := (Option.any_eq_true _ _).mp hquick
  obtain ⟨⟨result', later', t'⟩, hrun', hended'⟩ := (Option.any_eq_true _ _).mp hslow
  simp only [Bool.and_eq_true, Bool.not_eq_true', decide_eq_true_eq] at hended hended'
  exact ⟨⟨result, later, t, hrun, hended⟩, result', later', t', hrun', hended'⟩

end ScrapeService

end SiteWatch
