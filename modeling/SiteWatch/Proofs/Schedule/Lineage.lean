/-
# Where rounds come from

Every round of a scheduler comes from a round that was there before, unless it was just launched for
a registration that a tick has read. This module says so for whatever is done to a scheduler,
together with the two things that a round keeps from its launch on: the site it is for, and the
count of runs that it writes back.
-/

import Mathlib.Data.List.Basic
import SiteWatch.Proofs.Schedule.Rounds

namespace SiteWatch

variable {σ : Type}

/-! ## What a round writes -/

namespace Round

/-- The count of runs that a round writes back. -/
def count (round : Round σ) : Nat :=
  round.registration.history.totalRuns + if round.isStarting then 1 else 0

/-- The count is fixed when the job is launched. -/
@[simp]
theorem count_step (services : ScheduleServices σ) (elapsed : Nat) (round : Round σ)
    (s : Surroundings σ) : (round.step services elapsed s).1.count = round.count := by
  have hregistration := (registration_step services elapsed round s).2
  simp [count, isStarting_step, hregistration]

theorem records_eq_false_of_leaving {services : ScheduleServices σ} {round : Round σ}
    (hphase : round.phase = .leaving) (world : σ) : round.records services world = false := by
  simp [records, writing?, hphase]

/-- A round that comes from another one, for the same job and with the same count to write back. -/
structure ComesFrom (view : σ → Register) (old round : Round σ) : Prop where
  job_id : round.job.id = old.job.id
  registration_id : round.registration.id = old.registration.id
  count : round.count = old.count
  quiet : old.ScrapesQuietly view → round.ScrapesQuietly view

theorem ComesFrom.rfl {view : σ → Register} {round : Round σ} : round.ComesFrom view round :=
  ⟨Eq.refl _, Eq.refl _, Eq.refl _, id⟩

theorem comesFrom_step {services : ScheduleServices σ} {view : σ → Register}
    (hstore : services.KeepsRegister view) (elapsed : Nat) (round : Round σ) (s : Surroundings σ) :
    round.ComesFrom view (round.step services elapsed s).1 where
  job_id := step_job_id services elapsed round s
  registration_id := (registration_step services elapsed round s).1
  count := count_step services elapsed round s
  quiet := fun hquiet => hquiet.step hstore.scrape elapsed s

end Round

namespace Scheduler

variable {services : ScheduleServices σ} {view : σ → Register} {s : Scheduler σ} {job : JobId}
  {round : Round σ}

theorem world_leave (services : ScheduleServices σ) (round : Round σ) (s : Scheduler σ) :
    (s.leave services round).around = s.around := by
  simp only [leave]
  split <;> rfl

theorem stepRound_eq_leave (hround : s.round? job = some round) (hphase : round.phase = .leaving)
    (elapsed : Nat) : s.stepRound services job elapsed = s.leave services round := by
  simp [stepRound, hround, hphase]

theorem stepRound_eq_step (hround : s.round? job = some round) (hphase : round.phase ≠ .leaving)
    (elapsed : Nat) : s.stepRound services job elapsed =
      { s with around := (round.step services elapsed s.around).2 }.setRound
        (round.step services elapsed s.around).1 := by
  simp only [stepRound, hround]

/-- Where no bookkeeping is written back, the step of a round leaves the register as it is. -/
theorem view_stepRound_of_not_records (hstore : services.KeepsRegister view)
    (hround : s.round? job = some round) (hquiet : round.ScrapesQuietly view) (elapsed : Nat)
    (hrecords : round.records services s.around.world = false) :
    view (s.stepRound services job elapsed).around.world = view s.around.world := by
  by_cases hphase : round.phase = .leaving
  · rw [stepRound_eq_leave hround hphase, world_leave]
  · rw [stepRound_eq_step hround hphase]
    exact Round.view_step_of_not_records hstore hquiet elapsed s.around hrecords

/-- Where bookkeeping is written back, the count of the round is on record afterwards. -/
theorem view_stepRound_of_records (hstore : services.KeepsRegister view)
    (hround : s.round? job = some round) (elapsed : Nat)
    (hrecords : round.records services s.around.world = true) :
    ∃ history : Bookkeeping, history.totalRuns = round.count ∧
      view (s.stepRound services job elapsed).around.world =
        (view s.around.world).record round.registration.id history := by
  have hphase : round.phase ≠ .leaving := by
    intro hleaving
    rw [Round.records_eq_false_of_leaving hleaving] at hrecords
    cases hrecords
  rw [stepRound_eq_step hround hphase]
  obtain ⟨history, hwriting, hview⟩ := Round.view_step_of_records hstore elapsed s.around hrecords
  exact ⟨history, Round.totalRuns_writing hwriting, hview⟩

/-- The step of a round that is not there does nothing. -/
theorem stepRound_of_none (hround : s.round? job = none) (elapsed : Nat) :
    s.stepRound services job elapsed = s := by
  simp [stepRound, hround]

/-! ## Rounds that go on -/

/-- A scheduler in which nothing was launched since another state of it: every round comes from one
that was there before. -/
structure GoesOn (view : σ → Register) (s t : Scheduler σ) : Prop where
  launched_eq : t.launched = s.launched
  rounds : ∀ round ∈ t.rounds, ∃ old ∈ s.rounds, old.ComesFrom view round

theorem GoesOn.of_eq {t : Scheduler σ} (hlaunched : t.launched = s.launched)
    (hrounds : t.rounds = s.rounds) : GoesOn view s t :=
  ⟨hlaunched, fun round hround => ⟨round, hrounds ▸ hround, .rfl⟩⟩

theorem goesOn_callOff (s : Scheduler σ) (job : JobId) : GoesOn view s (s.callOff job) where
  launched_eq := rfl
  rounds := by
    intro round hround
    obtain ⟨old, hold, rfl⟩ := List.mem_map.mp hround
    refine ⟨old, hold, ?_⟩
    split
    · exact ⟨rfl, rfl, rfl, id⟩
    · exact .rfl

theorem GoesOn.trans {t u : Scheduler σ} (hfirst : GoesOn view s t) (hsecond : GoesOn view t u) :
    GoesOn view s u where
  launched_eq := hsecond.launched_eq.trans hfirst.launched_eq
  rounds := by
    intro round hround
    obtain ⟨middle, hmiddle, hlast⟩ := hsecond.rounds round hround
    obtain ⟨old, hold, hearly⟩ := hfirst.rounds middle hmiddle
    exact ⟨old, hold, hlast.job_id.trans hearly.job_id,
      hlast.registration_id.trans hearly.registration_id, hlast.count.trans hearly.count,
      hlast.quiet ∘ hearly.quiet⟩

/-- Abandoned jobs go on. -/
theorem goesOn_endStop (services : ScheduleServices σ) (inFlight : Nat) (s : Scheduler σ) :
    GoesOn view s (s.endStop services inFlight).2 := by
  have habandoned : GoesOn view s (s.running.foldl (abandon services) s) := by
    refine List.foldlRecOn s.running (abandon services) (motive := GoesOn view s) ?_ ?_
    · exact .of_eq rfl rfl
    · exact fun t ht job _ => ht.trans ((goesOn_callOff t job.id).trans (.of_eq rfl rfl))
  exact habandoned.trans (.of_eq rfl rfl)

/-- The world does not learn that jobs are abandoned. -/
theorem world_endStop (services : ScheduleServices σ) (inFlight : Nat) (s : Scheduler σ) :
    (s.endStop services inFlight).2.around.world = s.around.world := by
  refine List.foldlRecOn s.running (abandon services)
    (motive := fun t => t.around.world = s.around.world) rfl ?_
  exact fun t hworld job _ => hworld

theorem goesOn_stepRound (hstore : services.KeepsRegister view) (s : Scheduler σ) (job : JobId)
    (elapsed : Nat) : GoesOn view s (s.stepRound services job elapsed) := by
  cases hround : s.round? job with
  | none =>
      rw [stepRound_of_none hround]
      exact .of_eq rfl rfl
  | some round =>
      have hmem : round ∈ s.rounds := List.mem_of_find?_eq_some hround
      by_cases hphase : round.phase = .leaving
      · rw [stepRound_eq_leave hround hphase]
        have hleft : (s.leave services round).launched = s.launched ∧
            (s.leave services round).rounds = s.rounds.filter (·.job.id != round.job.id) := by
          simp only [leave]
          split <;> exact ⟨rfl, rfl⟩
        refine ⟨hleft.1, fun later hlater => ⟨later, ?_, .rfl⟩⟩
        exact List.mem_of_mem_filter (hleft.2 ▸ hlater)
      · rw [stepRound_eq_step hround hphase]
        refine ⟨rfl, fun later hlater => ?_⟩
        obtain ⟨old, hold, rfl⟩ := List.mem_map.mp hlater
        split
        · exact ⟨round, hmem, Round.comesFrom_step hstore elapsed round s.around⟩
        · exact ⟨old, hold, .rfl⟩

/-! ## What a launch adds -/

/-- What launching jobs for what was due does: the world stays as it is, and every new round is for
a new job and one of the due registrations. -/
structure Launches (due : List Registration) (s t : Scheduler σ) : Prop where
  world_eq : t.around.world = s.around.world
  launched_le : s.launched ≤ t.launched
  rounds : ∀ round ∈ t.rounds, round ∈ s.rounds ∨
    ∃ job, ∃ r ∈ due, round = Round.launch job r ∧ s.launched ≤ job.id.number ∧
      job.id.number < t.launched

theorem Launches.consider {due : List Registration} {t : TickReport × Scheduler σ}
    (ht : Launches due s t.2) {registration : Registration} (hdue : registration ∈ due) :
    Launches due s (consider services t registration).2 := by
  obtain ⟨report, t⟩ := t
  obtain ⟨hworld, hle, hrounds⟩ := ht
  simp only [Scheduler.consider]
  split
  · exact ⟨hworld, hle, hrounds⟩
  · split
    · exact ⟨hworld, hle, hrounds⟩
    · refine ⟨hworld, Nat.le_succ_of_le hle, ?_⟩
      intro round hround
      rcases List.mem_append.mp hround with hround | hround
      · refine (hrounds round hround).imp_right ?_
        rintro ⟨job, r, hr, heq, hfirst, hlast⟩
        exact ⟨job, r, hr, heq, hfirst, Nat.lt_succ_of_lt hlast⟩
      · exact .inr ⟨_, registration, hdue, List.mem_singleton.mp hround, hle, Nat.lt_succ_self _⟩

theorem launches_launchDue (services : ScheduleServices σ) (due : List Registration)
    (s : Scheduler σ) : Launches due s (s.launchDue services due).2 := by
  refine List.foldlRecOn due (Scheduler.consider services)
    (motive := fun progress => Launches due s progress.2) ?_ ?_
  · exact ⟨rfl, Nat.le_refl _, fun round hround => .inl hround⟩
  · exact fun progress hprogress registration hdue => hprogress.consider hdue

end Scheduler

end SiteWatch
