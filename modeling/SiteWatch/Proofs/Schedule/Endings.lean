/-
# One announced end for every job

A job that comes to its end announces it, whether or not a stop has announced before that the job is
abandoned; and a job that breaks off announces nothing. So when all rounds are over, every job has
exactly one announced end if and only if the jobs that a stop caught in flight are those whose rounds
broke off.
-/

import SiteWatch.Proofs.Schedule.Announcements
import SiteWatch.Proofs.Schedule.Slots

namespace SiteWatch

variable {σ : Type}

namespace Scheduler

/-! ## Jobs that a stop caught in flight -/

theorem endings_launchDue (services : ScheduleServices σ) (due : List Registration)
    (s : Scheduler σ) (id : JobId) :
    (s.launchDue services due).2.around.endings id = s.around.endings id := by
  refine List.foldlRecOn due (consider services)
    (motive := fun progress => progress.2.around.endings id = s.around.endings id) ?_ ?_
  · exact Surroundings.endings_of_not_marks rfl (by simp [ScheduleEvent.marks]) id
  · rintro ⟨report, progress⟩ hprogress registration -
    simp only [consider]
    split
    · exact hprogress
    · split
      · exact (Surroundings.endings_of_not_marks rfl (by simp [ScheduleEvent.marks]) id).trans
          hprogress
      · refine (Surroundings.endings_of_append rfl id).trans ?_
        simpa [ScheduleEvent.end?] using hprogress

/-- The task of a job never announces that the job is abandoned. -/
theorem cancelled_mem_endings_stepRound (services : ScheduleServices σ) (s : Scheduler σ)
    (job : JobId) (elapsed : Nat) (id : JobId) :
    .cancelled ∈ (s.stepRound services job elapsed).around.endings id ↔
      .cancelled ∈ s.around.endings id := by
  cases hfound : s.round? job with
  | none => rw [stepRound_of_none hfound]
  | some round =>
      by_cases hphase : round.phase = .leaving
      · rw [stepRound_eq_leave hfound hphase, world_leave]
      · rw [stepRound_eq_step hfound hphase]
        show .cancelled ∈ (round.step services elapsed s.around).2.endings id ↔ _
        obtain ⟨told, htold, ⟨-, hmarks⟩ | ⟨hnext, siteId, summary, rfl⟩⟩ :=
          Round.exists_told_step services elapsed s.around hphase
        · rw [Surroundings.endings_of_not_marks htold hmarks]
        · rw [Surroundings.endings_of_append htold]
          have hdone := (Round.isDone_of_step_leaving hphase hnext).1
          have hstatus : .cancelled ≠ (round.step services elapsed s.around).1.job.status := by
            rcases hdone with hdone | hdone <;> simp [hdone]
          by_cases hid : round.job.id = id <;> simp [ScheduleEvent.end?, hid, hstatus]

theorem cancelled_mem_endings_endStop (services : ScheduleServices σ) (s : Scheduler σ)
    (inFlight : Nat) (id : JobId) :
    .cancelled ∈ (s.endStop services inFlight).2.around.endings id ↔
      .cancelled ∈ s.around.endings id ∨ ∃ job ∈ s.running, job.id = id := by
  rw [Surroundings.endings_of_append (events_endStop services s inFlight), List.mem_append]
  simp [ScheduleEvent.end?, List.mem_filterMap]

end Scheduler

namespace Course

variable {services : ScheduleServices σ}

/-- Along happenings, a stop came to its end while a job was in flight. -/
def Catches (services : ScheduleServices σ) (c : Course σ) (happenings : List (Happening σ))
    (id : JobId) : Prop :=
  ∃ before inFlight after, happenings = before ++ .endStop inFlight :: after ∧
    ∃ job ∈ (c.run services before).scheduler.running, job.id = id

/-- Only the end of a stop announces that a job is abandoned. -/
theorem cancelled_mem_endings_after (services : ScheduleServices σ) (c : Course σ)
    (happening : Happening σ) (id : JobId) :
    .cancelled ∈ (c.after services happening).scheduler.around.endings id ↔
      .cancelled ∈ c.scheduler.around.endings id ∨
        ∃ inFlight, happening = .endStop inFlight ∧ ∃ job ∈ c.scheduler.running, job.id = id := by
  cases happening with
  | endStop inFlight =>
      simpa [after] using Scheduler.cancelled_mem_endings_endStop services c.scheduler inFlight id
  | advance job elapsed =>
      simpa [after] using Scheduler.cancelled_mem_endings_stepRound services c.scheduler job elapsed id
  | start =>
      simp only [after, Scheduler.start, reduceCtorEq, false_and, exists_false, or_false]
      split
      · rfl
      · rw [Surroundings.endings_of_not_marks (s := c.scheduler.around) rfl
          (by simp [ScheduleEvent.marks])]
  | announceStop =>
      simp only [after, reduceCtorEq, false_and, exists_false, or_false]
      rw [Surroundings.endings_of_not_marks (s := c.scheduler.around) rfl
        (by simp [ScheduleEvent.marks])]
  | read =>
      simp only [after, read, reduceCtorEq, false_and, exists_false, or_false]
      split <;> rfl
  | launch place =>
      simp only [after, launch, reduceCtorEq, false_and, exists_false, or_false]
      split
      · rfl
      · rw [Scheduler.endings_launchDue]
  | unwant | callOff | planTick | elsewhere =>
      simp only [reduceCtorEq, false_and, exists_false, or_false]
      rfl

/-- A job was announced as abandoned if and only if a stop caught it. -/
theorem cancelled_mem_endings_iff (services : ScheduleServices σ) (world : σ)
    (happenings : List (Happening σ)) (id : JobId) :
    .cancelled ∈ ((fresh world).run services happenings).scheduler.around.endings id ↔
      (fresh world).Catches services happenings id := by
  induction happenings using List.reverseRecOn with
  | nil => simp [Catches, fresh, Surroundings.endings]
  | append_singleton happenings last ih =>
      rw [run_append, run_cons, run_nil, cancelled_mem_endings_after, ih]
      constructor
      · rintro (⟨before, inFlight, later, rfl, hjob⟩ | ⟨inFlight, rfl, hjob⟩)
        · exact ⟨before, inFlight, later ++ [last], by simp, hjob⟩
        · exact ⟨happenings, inFlight, [], rfl, hjob⟩
      · rintro ⟨before, inFlight, later, hsplit, hjob⟩
        rcases List.eq_nil_or_concat later with rfl | ⟨later, final, rfl⟩
        · obtain ⟨rfl, hlast⟩ := List.append_inj' hsplit rfl
          exact .inr ⟨inFlight, List.singleton_inj.mp hlast, hjob⟩
        · refine .inl ⟨before, inFlight, later, ?_, hjob⟩
          rw [List.concat_eq_append, ← List.cons_append, ← List.append_assoc] at hsplit
          exact (List.append_inj' hsplit rfl).1

end Course

/-! ## One end for every job -/

/-- Every job that was launched has announced one end, and if it is remembered, then in the state
that was announced. -/
def Scheduler.AnnouncesEnds (s : Scheduler σ) : Prop :=
  ∀ id, s.around.HasLaunched id → ∃ status, s.around.endings id = [status] ∧
    ∀ job ∈ s.history, job.id = id → job.status = status

namespace Scheduler

variable {s : Scheduler σ} {opened : List JobId} {id : JobId}

/-- A job of which one end was announced is remembered as it was announced. -/
theorem TellsStops.status_eq (h : s.TellsStops opened) {job : Job} (hjob : job ∈ s.history)
    {status : JobStatus} (hends : s.around.endings job.id = [status]) : job.status = status := by
  rcases h.recorded job hjob with ⟨hcancelled, hone⟩ | ⟨-, -, hown⟩
  · rw [abandonments, hends, List.count_singleton] at hone
    have hstatus : status = .cancelled := by simpa using hone
    rw [hcancelled, hstatus]
  · have hmem := List.mem_of_mem_filter (hown ▸ List.mem_singleton_self job.status)
    rw [hends] at hmem
    exact List.mem_singleton.mp hmem

/-- A job whose round has left has announced its own end: that is the only one unless a stop has
abandoned the job as well. -/
theorem exists_endings_iff_of_left {last : JobStatus} (hown : s.ownEnds id = [last]) :
    (∃ status, s.around.endings id = [status]) ↔ .cancelled ∉ s.around.endings id := by
  obtain ⟨hmem, hlast⟩ := List.mem_filter.mp (hown ▸ List.mem_singleton_self last)
  rw [bne_iff_ne] at hlast
  constructor
  · rintro ⟨status, hends⟩ hcancelled
    rw [hends, List.mem_singleton] at hmem hcancelled
    exact hlast (hmem.trans hcancelled.symm)
  · intro hcancelled
    refine ⟨last, ?_⟩
    rw [← hown, ownEnds, List.filter_eq_self.mpr]
    rintro status hstatus
    rw [bne_iff_ne]
    rintro rfl
    exact hcancelled hstatus

/-- A job whose round has not announced an end has an announced end if a stop has abandoned it. -/
theorem TellsStops.exists_endings_iff_of_open (h : s.TellsStops opened)
    (hid : id.number < s.launched) (hround : id ∈ s.roundIds) (hown : s.ownEnds id = []) :
    (∃ status, s.around.endings id = [status]) ↔ .cancelled ∈ s.around.endings id := by
  have hall : ∀ status ∈ s.around.endings id, status = .cancelled := by
    intro status hstatus
    simpa using List.filter_eq_nil_iff.mp hown status hstatus
  constructor
  · rintro ⟨status, hends⟩
    rw [← hall status (hends ▸ List.mem_singleton_self _), hends]
    exact List.mem_singleton_self _
  · intro hcancelled
    have hpos : 0 < s.abandonments id := List.count_pos_iff.mpr hcancelled
    have hone : s.abandonments id = 1 := by
      by_cases hopen : id ∈ opened
      · rw [h.kept id hopen] at hpos
        exact absurd hpos (Nat.lt_irrefl _)
      · exact (h.closed id hid hopen).resolve_right fun hnone => hnone.2 hround
    have hlength := List.count_eq_length.mpr fun status hstatus => (hall status hstatus).symm
    exact List.length_eq_one_iff.mp (hlength.symm.trans hone)

/-- When every round is over, a job has one announced end if it was abandoned and its round broke
off, or neither of the two. -/
theorem Announces.exists_endings_iff (h : s.Announces opened)
    (hover : ∀ round ∈ s.rounds, round.phase = .lost) (hid : id.number < s.launched) :
    (∃ status, s.around.endings id = [status]) ↔
      (.cancelled ∈ s.around.endings id ↔ id ∈ s.roundIds) := by
  by_cases hround : id ∈ s.roundIds
  · obtain ⟨round, hmem, rfl⟩ := List.mem_map.mp hround
    have hown : s.ownEnds round.job.id = [] :=
      h.rounds.underWay round hmem (by simp [hover round hmem])
    rw [h.stops.exists_endings_iff_of_open hid hround hown]
    simp [hround]
  · obtain ⟨last, hown⟩ := h.rounds.left id hid hround
    rw [Scheduler.exists_endings_iff_of_left hown]
    simp [hround]

end Scheduler

/-- When every round is over, whether its job left or it broke off: every job has announced one end,
with which its record agrees, if and only if a stop caught in flight just those jobs whose rounds
broke off. A job that a stop caught and that came to its end all the same has announced two ends, and
a job that broke off and that no stop caught has announced none. -/
theorem Course.announcesEnds_iff (services : ScheduleServices σ) (world : σ)
    (happenings : List (Happening σ))
    (hover : ∀ round ∈ ((fresh world).run services happenings).scheduler.rounds,
      round.phase = .lost) :
    ((fresh world).run services happenings).scheduler.AnnouncesEnds ↔
      ∀ id, ((fresh world).run services happenings).scheduler.around.HasLaunched id →
        ((fresh world).Catches services happenings id ↔
          ∃ round ∈ ((fresh world).run services happenings).scheduler.rounds,
            round.job.id = id) := by
  have h := Scheduler.announces_of_course services world happenings
  refine forall₂_congr fun id hlaunched => ?_
  have hid := (h.rounds.launched_iff id).mp hlaunched
  have hbroken : (∃ round ∈ ((fresh world).run services happenings).scheduler.rounds,
      round.job.id = id) ↔ id ∈ ((fresh world).run services happenings).scheduler.roundIds :=
    List.mem_map.symm
  rw [hbroken, ← cancelled_mem_endings_iff, ← h.exists_endings_iff hover hid]
  refine ⟨fun ⟨status, hends, _⟩ => ⟨status, hends⟩, fun ⟨status, hends⟩ => ⟨status, hends, ?_⟩⟩
  rintro job hjob rfl
  exact h.stops.status_eq hjob hends

namespace Rehearsal.Backstage

/-- A site whose next round would be on a day that there is not. -/
def farOff : Backstage where
  register :=
    [{ site := { id := "far", domain := "example.org" }, checkIntervalDays := 4294967295 }]
  scraping := { world := {} }

/-- The job of a site breaks off, because there is no day for its next round; then the register
changes, another site gets a job that ends, and a stop catches the first job. -/
def brokenOffAndCaught : List (Happening Backstage) :=
  [.start, .read, .launch 0] ++ List.replicate 7 (.advance ⟨0⟩ 0)
    ++ [.elsewhere fun b => { b with register := closedGate.register }, .read, .launch 0]
    ++ List.replicate 9 (.advance ⟨1⟩ 0) ++ [.unwant, .announceStop, .endStop 1]

/-- Both have one announced end. -/
theorem announcesEnds_of_broken_off :
    (∀ round ∈ ((Course.fresh farOff).run ordinary brokenOffAndCaught).scheduler.rounds,
      round.phase = .lost) ∧
    ((Course.fresh farOff).run ordinary brokenOffAndCaught).scheduler.AnnouncesEnds := by
  have hsteps : ((Course.fresh farOff).run ordinary brokenOffAndCaught).scheduler.rounds.all
      (·.stepsLeft == 0) = true := by decide +kernel
  have hover : ∀ round ∈ ((Course.fresh farOff).run ordinary
      brokenOffAndCaught).scheduler.rounds, round.phase = .lost := fun round hround =>
    Round.lost_of_stepsLeft (beq_iff_eq.mp (List.all_eq_true.mp hsteps round hround))
  refine ⟨hover, (Course.announcesEnds_iff ordinary farOff _ hover).mpr fun id hid => ?_⟩
  rw [(Scheduler.announces_of_course ordinary farOff _).rounds.launched_iff] at hid
  have htwo : ((Course.fresh farOff).run ordinary brokenOffAndCaught).scheduler.launched = 2 := by
    decide +kernel
  have hboth : ∀ n < 2,
      (.cancelled ∈ ((Course.fresh farOff).run ordinary
        brokenOffAndCaught).scheduler.around.endings ⟨n⟩ ↔
      (⟨n⟩ : JobId) ∈ ((Course.fresh farOff).run ordinary
        brokenOffAndCaught).scheduler.roundIds) := by decide +kernel
  rw [← Course.cancelled_mem_endings_iff]
  exact (hboth id.number (htwo ▸ hid)).trans List.mem_map

/-- A job waits at a gate until a stop abandons it, and then comes to its end. -/
def lateEnd : List (Happening Backstage) :=
  [.start, .read, .launch 0, .advance ⟨0⟩ 0, .advance ⟨0⟩ 0, .advance ⟨0⟩ 0, .unwant, .announceStop,
    .endStop 1, .advance ⟨0⟩ 1000] ++ List.replicate 6 (.advance ⟨0⟩ 0)

/-- Its end is announced twice, and only the first of the two announcements is remembered. -/
theorem late_end_is_announced_twice :
    let late := ((Course.fresh closedGate).run ordinary lateEnd).scheduler
    late.rounds.length = 0 ∧ late.around.HasLaunched ⟨0⟩ ∧
      late.around.endings ⟨0⟩ = [.cancelled, .failed] ∧
      late.history.map (fun job => (job.id, job.status)) = [(⟨0⟩, .cancelled)] ∧
      ¬ late.AnnouncesEnds := by
  have hlaunched : ScheduleEvent.launched ⟨0⟩ "events" ∈
      ((Course.fresh closedGate).run ordinary lateEnd).scheduler.around.events := by decide +kernel
  have hends : ((Course.fresh closedGate).run ordinary lateEnd).scheduler.around.endings ⟨0⟩ =
      [.cancelled, .failed] := by decide +kernel
  refine ⟨by decide +kernel, ⟨_, hlaunched⟩, hends, by decide +kernel, fun hannounces => ?_⟩
  obtain ⟨status, hone, -⟩ := hannounces ⟨0⟩ ⟨_, hlaunched⟩
  rw [hends] at hone
  cases hone

end Rehearsal.Backstage

end SiteWatch
