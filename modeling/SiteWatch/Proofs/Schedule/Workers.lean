/-
# Workers only do happenings

A `Timeline` lets its workers take turns in one order, the order of their being woken. This module
shows that whatever is asked of a timeline, and however long it is left to itself, its scheduler is
where some course of happenings leads. So every law of courses is a law of timelines.

As long as nobody else changes the world, all happenings on the way are the scheduler's own.
-/

import SiteWatch.Proofs.Schedule.Soundness

namespace SiteWatch

variable {σ : Type}

/-- Whether a happening is the scheduler's own. -/
def Happening.isOwn : Happening σ → Bool
  | .elsewhere _ => false
  | _ => true

namespace Scheduler

/-- Happenings lead from one state of a scheduler to another, wherever its ticks stand. -/
def LeadsTo (services : ScheduleServices σ) (s t : Scheduler σ) : Prop :=
  ∀ c : Course σ, c.scheduler = s → ∃ happenings, (c.run services happenings).scheduler = t

/-- Happenings of the scheduler's own lead from one of its states to another. -/
def LeadsOn (services : ScheduleServices σ) (s t : Scheduler σ) : Prop :=
  ∀ c : Course σ, c.scheduler = s → ∃ happenings,
    (∀ happening ∈ happenings, happening.isOwn = true) ∧ (c.run services happenings).scheduler = t

theorem LeadsTo.trans {services : ScheduleServices σ} {s t u : Scheduler σ}
    (hfirst : LeadsTo services s t) (hsecond : LeadsTo services t u) : LeadsTo services s u := by
  intro c hc
  obtain ⟨first, hfirst⟩ := hfirst c hc
  obtain ⟨second, hsecond⟩ := hsecond _ hfirst
  exact ⟨first ++ second, by rw [Course.run_append, hsecond]⟩

theorem LeadsTo.onWorld (services : ScheduleServices σ) (s : Scheduler σ) (change : σ → σ) :
    LeadsTo services s (s.onWorld change) := by
  rintro c rfl
  exact ⟨[.elsewhere change], rfl⟩

namespace LeadsOn

variable {services : ScheduleServices σ} {s t u : Scheduler σ}

theorem leadsTo (hleads : LeadsOn services s t) : LeadsTo services s t := by
  intro c hc
  obtain ⟨happenings, -, hrun⟩ := hleads c hc
  exact ⟨happenings, hrun⟩

theorem refl (services : ScheduleServices σ) (s : Scheduler σ) : LeadsOn services s s :=
  fun _ hc => ⟨[], by simp, hc⟩

theorem trans (hfirst : LeadsOn services s t) (hsecond : LeadsOn services t u) :
    LeadsOn services s u := by
  intro c hc
  obtain ⟨first, hfirstOwn, hfirst⟩ := hfirst c hc
  obtain ⟨second, hsecondOwn, hsecond⟩ := hsecond _ hfirst
  refine ⟨first ++ second, fun happening hmem => ?_, by rw [Course.run_append, hsecond]⟩
  exact (List.mem_append.mp hmem).elim (hfirstOwn happening) (hsecondOwn happening)

/-- One happening that looks at nothing but the scheduler. -/
theorem single (happening : Happening σ) (hown : happening.isOwn = true)
    (hafter : ∀ c : Course σ, c.scheduler = s → (c.after services happening).scheduler = t) :
    LeadsOn services s t :=
  fun c hc => ⟨[happening], by simpa using hown, hafter c hc⟩

theorem stepRound (services : ScheduleServices σ) (s : Scheduler σ) (id : JobId) (elapsed : Nat) :
    LeadsOn services s (s.stepRound services id elapsed) :=
  single (.advance id elapsed) rfl (by rintro c rfl; rfl)

theorem callOff (services : ScheduleServices σ) (s : Scheduler σ) (id : JobId) :
    LeadsOn services s (s.callOff id) :=
  single (.callOff id) rfl (by rintro c rfl; rfl)

theorem planTick (services : ScheduleServices σ) (s : Scheduler σ) (next : Option Instant) :
    LeadsOn services s { s with nextTickAt := next } :=
  single (.planTick next) rfl (by rintro c rfl; rfl)

theorem unwant (services : ScheduleServices σ) (s : Scheduler σ) :
    LeadsOn services s { s with looping := false } :=
  single .unwant rfl (by rintro c rfl; rfl)

theorem announceStop (services : ScheduleServices σ) (s : Scheduler σ) :
    LeadsOn services s s.announceStop.2 :=
  single .announceStop rfl (by rintro c rfl; rfl)

theorem endStop (services : ScheduleServices σ) (s : Scheduler σ) (inFlight : Nat) :
    LeadsOn services s (s.endStop services inFlight).2 :=
  single (.endStop inFlight) rfl (by rintro c rfl; rfl)

theorem start (services : ScheduleServices σ) (s : Scheduler σ) :
    LeadsOn services s (s.start services).2 :=
  single .start rfl (by rintro c rfl; rfl)

/-- A tick that is not interrupted reads and launches. -/
theorem tick (services : ScheduleServices σ) (s : Scheduler σ) :
    LeadsOn services s (s.tick services).2 := by
  rintro c rfl
  unfold Scheduler.tick
  cases hdue : c.scheduler.due services with
  | error cause => exact ⟨[], by simp, rfl⟩
  | ok due =>
      refine ⟨[.read, .launch c.readings.length], by simp [Happening.isOwn], ?_⟩
      simp [Course.after, Course.read, Course.launch, hdue]

/-- The round of a job goes as far as it can. -/
theorem runRound (services : ScheduleServices σ) (id : JobId) (steps elapsed : Nat)
    (s : Scheduler σ) : LeadsOn services s (s.runRound services id steps elapsed) := by
  induction steps generalizing elapsed s with
  | zero => exact refl services s
  | succ steps ih =>
      have hstep := stepRound services s id elapsed
      simp only [Scheduler.runRound]
      split
      · exact hstep
      · split
        · exact hstep
        · exact hstep.trans (ih 0 _)

end LeadsOn

end Scheduler

namespace Timeline

open Scheduler (LeadsOn LeadsTo)

/-! ## Workers are woken without the scheduler -/

@[simp]
theorem scheduler_wake (worker : Worker) (t : Timeline σ) :
    (t.wake worker).scheduler = t.scheduler := rfl

@[simp]
theorem scheduler_setAlarm (worker : Worker) (after : Nat) (t : Timeline σ) :
    (t.setAlarm worker after).scheduler = t.scheduler := rfl

@[simp]
theorem scheduler_dropAlarms (worker : Worker) (t : Timeline σ) :
    (t.dropAlarms worker).scheduler = t.scheduler := rfl

@[simp]
theorem scheduler_moveTo (time : Nat) (t : Timeline σ) :
    (t.moveTo time).scheduler = t.scheduler := rfl

@[simp]
theorem scheduler_wakeReady (t : Timeline σ) : t.wakeReady.scheduler = t.scheduler := by
  refine List.foldlRecOn _ _ (motive := fun later : Timeline σ => later.scheduler = t.scheduler)
    rfl ?_
  intro later hlater id _
  split
  · exact hlater
  · exact hlater

@[simp]
theorem scheduler_wakeLaunched (jobs : List Job) (t : Timeline σ) :
    (t.wakeLaunched jobs).scheduler = t.scheduler :=
  List.foldlRecOn jobs _ (motive := fun later : Timeline σ => later.scheduler = t.scheduler) rfl
    fun _ hlater _ _ => hlater

@[simp]
theorem scheduler_beginWait (id : JobId) (t : Timeline σ) :
    (t.beginWait id).scheduler = t.scheduler := by
  unfold beginWait
  split
  · rfl
  · split
    · dsimp only
      split <;> rfl
    · rfl

@[simp]
theorem scheduler_sendWatch (services : ScheduleServices σ) (id : JobId) (begins : Bool)
    (t : Timeline σ) : (t.sendWatch services id begins).scheduler = t.scheduler := by
  unfold sendWatch
  split <;> rfl

@[simp]
theorem scheduler_recallWatch (id : JobId) (t : Timeline σ) :
    (t.recallWatch id).scheduler = t.scheduler := by
  unfold recallWatch
  split <;> rfl

/-! ## Turns -/

theorem leadsOn_tick (services : ScheduleServices σ) (t : Timeline σ) :
    LeadsOn services t.scheduler (t.tick services).2.scheduler := by
  have htick := LeadsOn.tick services t.scheduler
  unfold tick
  cases hoc : t.scheduler.tick services with
  | mk outcome s =>
      rw [hoc] at htick
      cases outcome <;> simpa using htick

theorem leadsOn_turnOfLoop (services : ScheduleServices σ) (t : Timeline σ) :
    LeadsOn services t.scheduler (t.turnOfLoop services).scheduler := by
  have htick := leadsOn_tick services (t.dropAlarms .loop)
  simp only [turnOfLoop]
  split
  · exact .refl services _
  · split
    · exact .refl services _
    · have hplanned := htick.trans (.planTick services _
        ((((t.dropAlarms .loop).tick services).2.scheduler.now services).plusMilliseconds?
          services.settings.intervalMs))
      split
      · exact hplanned
      · exact hplanned

theorem leadsOn_turn (services : ScheduleServices σ) (t : Timeline σ) (worker : Worker) :
    LeadsOn services t.scheduler (t.turn services worker).scheduler := by
  cases worker with
  | loop => exact leadsOn_turnOfLoop services t
  | round id =>
      simp only [turn, turnOfRound]
      split
      · exact .refl services _
      · split
        · exact .refl services _
        · simpa using LeadsOn.runRound services id _ _ t.scheduler
  | watch id =>
      simp only [turn, turnOfWatch]
      split
      · split
        · exact .refl services _
        · split
          · simpa [turnOfAlarm] using LeadsOn.callOff services t.scheduler id
          · exact .refl services _
      · exact .refl services _
  | alarm id => simpa [turn, turnOfAlarm] using LeadsOn.callOff services t.scheduler id

/-! ## Waiting -/

theorem leadsOn_settle (services : ScheduleServices σ) (turns : Nat) (t : Timeline σ) :
    LeadsOn services t.scheduler (t.settle services turns).scheduler := by
  induction turns generalizing t with
  | zero => exact .refl services _
  | succ turns ih =>
      simp only [settle]
      split
      · exact .refl services _
      · rename_i worker rest _
        exact (leadsOn_turn services { t with queue := rest } worker).trans (ih _)

theorem leadsOn_waitUntil (services : ScheduleServices σ) (holds : Timeline σ → Bool)
    (deadline moves : Nat) (t : Timeline σ) :
    LeadsOn services t.scheduler (t.waitUntil services holds deadline moves).scheduler := by
  induction moves generalizing t with
  | zero => exact .refl services _
  | succ moves ih =>
      have hsettled := leadsOn_settle services patience t
      simp only [waitUntil]
      split
      · exact hsettled
      · split
        · exact hsettled
        · rename_i time _
          split
          · exact hsettled.trans (ih ((t.settle services patience).moveTo time))
          · exact hsettled

theorem leadsOn_sleep (services : ScheduleServices σ) (milliseconds : Nat) (t : Timeline σ) :
    LeadsOn services t.scheduler (t.sleep services milliseconds).scheduler := by
  unfold sleep
  split
  · exact .refl services _
  · exact leadsOn_waitUntil services _ _ _ t

theorem leadsOn_waitIdle (services : ScheduleServices σ) (limit : Nat) (t : Timeline σ) :
    LeadsOn services t.scheduler (t.waitIdle services limit).2.scheduler := by
  unfold waitIdle
  split
  · exact .refl services _
  · exact leadsOn_waitUntil services _ _ _ t

/-! ## What may be asked of a timeline -/

theorem leadsOn_start (services : ScheduleServices σ) (t : Timeline σ) :
    LeadsOn services t.scheduler (t.start services).2.scheduler := by
  have hstart := LeadsOn.start services t.scheduler
  simp only [start]
  split
  · exact hstart
  · exact hstart

/-- The loop as a stop leaves it to itself: no longer wanted, and awake. -/
def dismissLoop (t : Timeline σ) : Timeline σ :=
  let t := { t with scheduler := { t.scheduler with looping := false } }
  if t.loop = .resting then t.wake .loop else t

theorem leadsOn_dismissLoop (services : ScheduleServices σ) (t : Timeline σ) :
    LeadsOn services t.scheduler t.dismissLoop.scheduler := by
  have hsame : t.dismissLoop.scheduler = { t.scheduler with looping := false } := by
    simp only [dismissLoop]
    split <;> rfl
  rw [hsame]
  exact .unwant services t.scheduler

theorem leadsOn_stop (services : ScheduleServices σ) (t : Timeline σ) :
    LeadsOn services t.scheduler (t.stop services).2.scheduler := by
  simp only [stop]
  split
  · exact .refl services _
  · -- The loop comes to rest, the stop is announced, and what still runs in the end is abandoned.
    have hrested := (leadsOn_dismissLoop services t).trans
      (leadsOn_settle services patience t.dismissLoop)
    have hwaited := (hrested.trans (.announceStop services _)).trans
      (leadsOn_waitIdle services services.settings.graceMs
        { t.dismissLoop.settle services patience with
          scheduler := (t.dismissLoop.settle services patience).scheduler.announceStop.2 })
    rw [scheduler_wakeReady]
    exact hwaited.trans
      (.endStop services _ (t.dismissLoop.settle services patience).scheduler.running.length)

/-! ## Work of others -/

theorem leadsTo_tick (services : ScheduleServices σ) (t : Timeline σ) :
    LeadsTo services t.scheduler (t.tick services).2.scheduler :=
  (leadsOn_tick services t).leadsTo

theorem leadsTo_settle (services : ScheduleServices σ) (turns : Nat) (t : Timeline σ) :
    LeadsTo services t.scheduler (t.settle services turns).scheduler :=
  (leadsOn_settle services turns t).leadsTo

theorem leadsTo_waitIdle (services : ScheduleServices σ) (limit : Nat) (t : Timeline σ) :
    LeadsTo services t.scheduler (t.waitIdle services limit).2.scheduler :=
  (leadsOn_waitIdle services limit t).leadsTo

theorem leadsTo_onWorld (services : ScheduleServices σ) (change : σ → σ) (t : Timeline σ) :
    LeadsTo services t.scheduler (t.onWorld change).scheduler := by
  simpa [onWorld] using LeadsTo.onWorld services t.scheduler change

/-- Work beside the workers, which take their turns while it waits. -/
theorem leadsTo_perform {α : Type} (services : ScheduleServices σ) (work : Activity σ α)
    (t : Timeline σ) {value : α} {later : Timeline σ}
    (hperform : t.perform services work = some (value, later)) :
    LeadsTo services t.scheduler later.scheduler := by
  induction work generalizing t with
  | done answer =>
      cases hperform
      exact (LeadsOn.refl services _).leadsTo
  | act update next ih =>
      exact (leadsTo_onWorld services update t).trans (ih _ _ hperform)
  | wait pause next ih =>
      simp only [perform] at hperform
      split at hperform
      · split at hperform
        · exact ih _ _ _ hperform
        · cases hperform
      · split at hperform
        · exact ih _ _ _ hperform
        · exact (leadsOn_waitUntil services _ _ _ t).leadsTo.trans (ih _ _ _ hperform)

/-- A scheduler that started new and was asked whatever a timeline is asked is sound. -/
theorem sound_of_leadsTo {services : ScheduleServices σ} {world : σ} {s : Scheduler σ}
    (hleads : LeadsTo services (Course.fresh world).scheduler s) : s.Sound services.settings := by
  obtain ⟨happenings, rfl⟩ := hleads (Course.fresh world) rfl
  exact (Scheduler.consistent_of_course services world happenings).sound

end Timeline

end SiteWatch
