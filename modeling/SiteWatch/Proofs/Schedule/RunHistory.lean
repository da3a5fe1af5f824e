/-
# Bookkeeping over runs

The bookkeeping of a site that starts with zero counts is told by the runs of the site alone: how many
there were, how many have failed since one succeeded, when the last one began and ended. A run writes
to the register twice, each time from the copy that its job has taken before, and still nothing of
what an earlier run has left is forgotten or counted twice. The next run is due a number of days after
the end of the last one, however many have failed.

Runs in this sense are what the rounds of a scheduler make: a round that is complete leaves in the
register what a run leaves, with its own times and its own success.
-/

import Mathlib.Order.Bounds.Defs
import SiteWatch.Proofs.Schedule.News

namespace SiteWatch

/-- One run of a site. -/
structure SiteRun where
  startedAt : Instant
  endedAt : Instant
  success : Bool
  /-- The digest of what the run has brought, if it has brought anything. -/
  digest : Option String := none

/-- A number of days later is as many times the seconds of a day later. -/
theorem Instant.seconds_of_plusDays? {t next : Instant} {days : Nat}
    (hnext : t.plusDays? days = some next) : next.seconds = t.seconds + days * 86400 := by
  obtain ⟨-, hnext⟩ := Option.ite_none_right_eq_some.mp hnext
  obtain rfl := Option.some.inj hnext
  simp [secondsPerDay]

namespace Registration

/-- What a run makes of a registration that is stored. Its job works on a copy, and writes the
bookkeeping of the copy over the stored one when it starts and again when it ends. -/
def afterRun? (run : SiteRun) (stored : Registration) : Option Registration :=
  let copy := stored.markStarted run.startedAt
  let begun := stored.withHistory copy.history
  let copy := copy.withHistory
    { copy.history with lastContentHash := run.digest.or copy.history.lastContentHash }
  (copy.markFinished? run.endedAt run.success).map fun copy => begun.withHistory copy.history

/-- What runs, one after another, make of a registration that is stored. -/
def afterRuns? (runs : List SiteRun) (stored : Registration) : Option Registration :=
  runs.foldlM (fun stored run => stored.afterRun? run) stored

/-- The numbers of runs at the end of a history that have all failed. -/
def failingStreaks (runs : List SiteRun) : Set Nat :=
  {n | ∃ streak, streak <:+ runs ∧ (∀ run ∈ streak, run.success = false) ∧ streak.length = n}

/-- A registration with zero counts has become another one by some runs, which tells of them. -/
structure TellsRuns (r : Registration) (runs : List SiteRun) (last : Registration) : Prop where
  /-- Runs change the bookkeeping alone. -/
  mandate : last = r.withHistory last.history
  idle : runs = [] → last = r
  totalRuns : last.history.totalRuns = runs.length
  consecutiveFailures : IsGreatest (failingStreaks runs) last.history.consecutiveFailures
  lastSuccessAt : last.history.lastSuccessAt =
    ((runs.filter (·.success)).getLast?.map (·.endedAt)).or r.history.lastSuccessAt
  lastCheckedAt : ∀ run ∈ runs.getLast?, last.history.lastCheckedAt = some run.startedAt
  nextCheckAt : ∀ run ∈ runs.getLast?, ∃ next,
    run.endedAt.plusDays? r.checkIntervalDays = some next ∧ last.history.nextCheckAt = some next ∧
      next.seconds = run.endedAt.seconds + r.checkIntervalDays * 86400
  lastContentHash : last.history.lastContentHash =
    (runs.filterMap (·.digest)).getLast?.or r.history.lastContentHash

variable {r stored last : Registration} {runs : List SiteRun} {run : SiteRun}

/-! ## One run -/

/-- A run that fails makes every streak longer, and one that succeeds ends them all. -/
theorem isGreatest_failingStreaks_concat {count : Nat} (hcount : IsGreatest (failingStreaks runs) count) :
    IsGreatest (failingStreaks (runs ++ [run])) (if run.success then 0 else count + 1) := by
  obtain ⟨⟨longest, hlongest, hfailed, rfl⟩, hbound⟩ := hcount
  cases hsuccess : run.success with
  | true =>
      refine ⟨⟨[], List.nil_suffix, by simp, rfl⟩, ?_⟩
      rintro _ ⟨streak, hstreak, hall, rfl⟩
      rcases List.suffix_concat_iff.mp hstreak with rfl | ⟨before, rfl, -⟩
      · exact Nat.le_refl 0
      · have hlast := hall run (by simp)
        rw [hsuccess] at hlast
        cases hlast
  | false =>
      refine ⟨⟨longest ++ [run], ?_, ?_, by simp⟩, ?_⟩
      · exact List.suffix_concat_iff.mpr (.inr ⟨longest, rfl, hlongest⟩)
      · simpa [or_imp, forall_and, hsuccess] using hfailed
      · rintro _ ⟨streak, hstreak, hall, rfl⟩
        rcases List.suffix_concat_iff.mp hstreak with rfl | ⟨before, rfl, hbefore⟩
        · exact Nat.zero_le _
        · have hlength : before.length ≤ longest.length :=
            hbound ⟨before, hbefore, fun other hother => hall other (by simp [hother]), rfl⟩
          simpa using hlength

theorem afterRun?_eq_some (hafter : stored.afterRun? run = some last) :
    ∃ next, run.endedAt.plusDays? stored.checkIntervalDays = some next ∧
      last = stored.withHistory {
        lastCheckedAt := some run.startedAt
        nextCheckAt := some next
        lastSuccessAt := if run.success then some run.endedAt else stored.history.lastSuccessAt
        consecutiveFailures := if run.success then 0 else stored.history.consecutiveFailures + 1
        totalRuns := stored.history.totalRuns + 1
        lastContentHash := run.digest.or stored.history.lastContentHash } := by
  simp only [afterRun?, markFinished?, Bookkeeping.finished?, Option.map_map, Option.map_eq_some_iff,
    Function.comp] at hafter
  obtain ⟨next, hnext, rfl⟩ := hafter
  refine ⟨next, hnext, ?_⟩
  cases run.success <;> rfl

/-- There is a next date after a run exactly if one can be told from its end. -/
theorem isSome_afterRun? : (stored.afterRun? run).isSome =
    (run.endedAt.plusDays? stored.checkIntervalDays).isSome := by
  simp [afterRun?, markFinished?, Bookkeeping.finished?, withHistory, markStarted]

/-! ## One run after another -/

/-- No run has changed a registration with zero counts yet. -/
theorem tellsRuns_nil (hruns : r.history.totalRuns = 0) (hfailures : r.history.consecutiveFailures = 0) :
    r.TellsRuns [] r where
  mandate := rfl
  idle _ := rfl
  totalRuns := hruns
  consecutiveFailures := by
    rw [hfailures]
    refine ⟨⟨[], List.nil_suffix, by simp, rfl⟩, ?_⟩
    rintro _ ⟨streak, hstreak, -, rfl⟩
    rw [List.suffix_nil.mp hstreak]
    exact Nat.le_refl 0
  lastSuccessAt := by simp
  lastCheckedAt := by simp
  nextCheckAt := by simp
  lastContentHash := by simp

/-- One more run is told of. -/
theorem TellsRuns.concat (htells : r.TellsRuns runs stored) (hafter : stored.afterRun? run = some last) :
    r.TellsRuns (runs ++ [run]) last := by
  obtain ⟨next, hnext, rfl⟩ := afterRun?_eq_some hafter
  have hdays : stored.checkIntervalDays = r.checkIntervalDays := by
    rw [htells.mandate]
    rfl
  refine {
    mandate := ?_
    idle := fun hnone => absurd hnone (by simp)
    totalRuns := by simp [withHistory, htells.totalRuns]
    consecutiveFailures := isGreatest_failingStreaks_concat htells.consecutiveFailures
    lastSuccessAt := ?_
    lastCheckedAt := by simp [withHistory]
    nextCheckAt := ?_
    lastContentHash := ?_ }
  · rw [htells.mandate]
    rfl
  · cases hsuccess : run.success <;> simp [withHistory, htells.lastSuccessAt, hsuccess]
  · rw [List.getLast?_concat]
    rintro other ⟨rfl⟩
    exact ⟨next, hdays ▸ hnext, rfl, hdays ▸ Instant.seconds_of_plusDays? hnext⟩
  · cases hdigest : run.digest <;> simp [withHistory, htells.lastContentHash, hdigest]

/-- Runs that end before the end of the calendar are told of. -/
theorem exists_tellsRuns (hruns : r.history.totalRuns = 0)
    (hfailures : r.history.consecutiveFailures = 0)
    (hdates : ∀ run ∈ runs, (run.endedAt.plusDays? r.checkIntervalDays).isSome) :
    ∃ last, r.afterRuns? runs = some last ∧ r.TellsRuns runs last := by
  induction runs using List.reverseRecOn with
  | nil => exact ⟨r, rfl, tellsRuns_nil hruns hfailures⟩
  | append_singleton runs run ih =>
      obtain ⟨stored, hstored, htells⟩ := ih fun other hother => hdates other (by simp [hother])
      have hdays : stored.checkIntervalDays = r.checkIntervalDays := by
        rw [htells.mandate]
        rfl
      have hsome : (stored.afterRun? run).isSome := by
        rw [isSome_afterRun?, hdays]
        exact hdates run (by simp)
      obtain ⟨last, hlast⟩ := Option.isSome_iff_exists.mp hsome
      refine ⟨last, ?_, htells.concat hlast⟩
      rw [afterRuns?] at hstored ⊢
      rw [List.foldlM_append, hstored]
      simpa using hlast

/-- A registration is due if its site is enabled and the next date is unset or not later. -/
theorem isDue_iff {now : Instant} : r.isDue now = true ↔
    r.site.enabled = true ∧ ∀ due, r.history.nextCheckAt = some due → due ≤ now := by
  simp only [isDue, Bool.and_eq_true]
  cases r.history.nextCheckAt <;> simp

/-- Counts of fewer than 2 ^ 32 runs fit the types that they are written in. -/
theorem TellsRuns.counts_lt (htells : r.TellsRuns runs last) (hlength : runs.length < 2 ^ 32) :
    last.history.consecutiveFailures < 2 ^ 32 ∧ last.history.totalRuns < 2 ^ 64 := by
  obtain ⟨⟨streak, hstreak, -, hcount⟩, -⟩ := htells.consecutiveFailures
  have hle := hstreak.length_le
  have htotal := htells.totalRuns
  omega

end Registration

/-! ## The runs of rounds -/

namespace Episode

variable {σ : Type} {services : ScheduleServices σ} {view : σ → Register} {siteId : String}
  {e : Episode σ}

/-- A round shows its run: when its start and its end were written back, whether its job is
completed, and what it has brought. -/
structure Shows (services : ScheduleServices σ) (e : Episode σ) (run : SiteRun) : Prop where
  started : ∃ history outcome, (e.ending services).log.head? =
    some (.record run.startedAt e.registration.id history outcome)
  ended : ∃ history outcome, (e.ending services).log.getLast? =
    some (.record run.endedAt e.registration.id history outcome)
  success : run.success = true ↔ (e.ending services).round.job.status = .completed
  digest : run.digest = (e.content? services).map Json.digest

/-- A complete round makes of the stored bookkeeping what its run makes of it. -/
theorem IsComplete.exists_shows (hstore : services.KeepsRegister view)
    (he : e.IsComplete services view siteId) :
    ∃ run after, e.Shows services run ∧ e.registration.afterRun? run = some after ∧
      (e.ending services).stored? view siteId = some after.history := by
  obtain ⟨p, hended⟩ := he.exists_ended
  let run : SiteRun :=
    { startedAt := p.startedAt
      endedAt := p.endedAt
      success := !(PageVisit.successes p.visits).isEmpty
      digest := PageVisit.hash? p.visits }
  have hshows : e.Shows services run := by
    refine ⟨⟨e.registration.history.started p.startedAt, p.startWritten, ?_⟩,
      ⟨p.bookkeeping e.registration.history, p.endWritten, ?_⟩, ?_, hash?_eq_of_hasEnded hended⟩
    · rw [hended.log]
      rfl
    · rw [hended.log, Proceedings.calls, List.getLast?_concat]
    · rw [hended.status]
      cases hnone : (PageVisit.successes p.visits).isEmpty <;> simp [run, hnone]
  have hsome : (e.registration.afterRun? run).isSome := by
    rw [Registration.isSome_afterRun?, hended.nextCheckAt]
    rfl
  obtain ⟨after, hafter⟩ := Option.isSome_iff_exists.mp hsome
  obtain ⟨next, hnext, rfl⟩ := Registration.afterRun?_eq_some hafter
  have hnextCheckAt : p.nextCheckAt = next := Option.some.inj (hended.nextCheckAt.symm.trans hnext)
  refine ⟨run, _, hshows, hafter, (he.stored?_eq hstore hended).trans ?_⟩
  cases hnone : (PageVisit.successes p.visits).isEmpty <;>
    simp [Proceedings.bookkeeping, Registration.withHistory, run, hnone, hnextCheckAt]

end Episode

/-! ## All runs -/

namespace Registration

/-- Runs of a registration with zero counts come to an end, and what it says then is told by them; it
is due if its site is enabled and the next date is unset or not later; and complete rounds of a
scheduler leave in its register what runs leave. -/
theorem bookkeeping_tells_runs {σ : Type} {services : ScheduleServices σ} {view : σ → Register}
    (hstore : services.KeepsRegister view) {r : Registration} (hruns : r.history.totalRuns = 0)
    (hfailures : r.history.consecutiveFailures = 0) {runs : List SiteRun}
    (hdates : ∀ run ∈ runs, (run.endedAt.plusDays? r.checkIntervalDays).isSome) :
    (∃ last, r.afterRuns? runs = some last ∧ r.TellsRuns runs last ∧
      (runs.length < 2 ^ 32 →
        last.history.consecutiveFailures < 2 ^ 32 ∧ last.history.totalRuns < 2 ^ 64)) ∧
      (∀ (any : Registration) (now : Instant), any.isDue now = true ↔
        any.site.enabled = true ∧ ∀ due, any.history.nextCheckAt = some due → due ≤ now) ∧
      ∀ siteId (e : Episode σ), e.IsComplete services view siteId →
        ∃ run after, e.Shows services run ∧ e.registration.afterRun? run = some after ∧
          (e.ending services).stored? view siteId = some after.history := by
  obtain ⟨last, hlast, htells⟩ := exists_tellsRuns hruns hfailures hdates
  exact ⟨⟨last, hlast, htells, htells.counts_lt⟩, fun _ _ => isDue_iff,
    fun _ _ he => he.exists_shows hstore⟩

end Registration

namespace Rehearsal.Backstage

/-- A site that is visited every other day. -/
def everyOtherDay : Registration where
  site := { id := "events", domain := "example.com" }
  checkIntervalDays := 2

/-- A run that succeeds between runs that fail. -/
def mixedRuns : List SiteRun :=
  [{ startedAt := ⟨1000, 0⟩, endedAt := ⟨1060, 0⟩, success := false },
    { startedAt := ⟨2000, 0⟩, endedAt := ⟨2060, 0⟩, success := true, digest := some "abc" },
    { startedAt := ⟨3000, 0⟩, endedAt := ⟨3060, 0⟩, success := false },
    { startedAt := ⟨4000, 0⟩, endedAt := ⟨4060, 0⟩, success := false }]

theorem bookkeeping_tells_mixedRuns :
    everyOtherDay.history.totalRuns = 0 ∧ everyOtherDay.history.consecutiveFailures = 0 ∧
      (∀ run ∈ mixedRuns, (run.endedAt.plusDays? everyOtherDay.checkIntervalDays).isSome) ∧
      ∃ last, everyOtherDay.afterRuns? mixedRuns = some last ∧
        everyOtherDay.TellsRuns mixedRuns last ∧ last.history.consecutiveFailures = 2 := by
  have hdates : ∀ run ∈ mixedRuns,
      (run.endedAt.plusDays? everyOtherDay.checkIntervalDays).isSome := by decide
  obtain ⟨⟨last, hlast, htells, -⟩, -⟩ :=
    Registration.bookkeeping_tells_runs (keepsRegister {} ⟨0, 0⟩) (r := everyOtherDay) rfl rfl hdates
  refine ⟨rfl, rfl, hdates, last, hlast, htells, ?_⟩
  obtain rfl := Option.some.inj (hlast.symm.trans rfl)
  rfl

end Rehearsal.Backstage

end SiteWatch
