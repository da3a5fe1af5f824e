/-
# What one step of a round does

A round goes through its phases one step at a time. This module says once what a step can do: to the
job of the round, to the copy of the registration that the round carries along, and to a register
that is kept in the world. Whoever reasons about many rounds at once needs nothing else about a
step.
-/

import SiteWatch.Proofs.Activity
import SiteWatch.Proofs.Schedule.Course
import SiteWatch.Schedule.Register

namespace SiteWatch

variable {σ τ : Type}

namespace Job

/-- A job that was started and has not ended. -/
structure IsUnderWay (job : Job) : Prop where
  status : job.status = .running
  startedAt : job.startedAt.isSome
  completedAt : job.completedAt = none

/-- A job that has ended, in one of the terminal states. -/
structure HasEnded (job : Job) : Prop where
  status : job.status.isTerminal = true
  completedAt : job.completedAt.isSome

theorem isUnderWay_start (job : Job) (now : Instant) (hopen : job.completedAt = none) :
    (job.start now).IsUnderWay :=
  ⟨rfl, rfl, hopen⟩

theorem hasEnded_finish (job : Job) (now : Instant) {status : JobStatus}
    (hterminal : status.isTerminal = true) : (job.finish now status).HasEnded :=
  ⟨hterminal, rfl⟩

end Job

namespace Round

/-! ## The job of a round -/

@[simp]
theorem recordIn_job_id (services : ScheduleServices σ) (round : Round σ) (s : Surroundings σ) :
    (round.recordIn services s).1.job.id = round.job.id := by
  simp only [recordIn]
  split <;> rfl

@[simp]
theorem recordIn_cancelled (services : ScheduleServices σ) (round : Round σ)
    (s : Surroundings σ) : (round.recordIn services s).1.cancelled = round.cancelled := by
  simp only [recordIn]
  split <;> rfl

/-- A step keeps a round with its job. -/
@[simp]
theorem step_job_id (services : ScheduleServices σ) (elapsed : Nat) (round : Round σ)
    (s : Surroundings σ) : (round.step services elapsed s).1.job.id = round.job.id := by
  cases hphase : round.phase with
  | choosing urls => cases urls <;> simp [step, hphase, choose, note, Job.note]
  | received url rest result =>
      simp only [step, hphase, receive, store, complain]
      split
      · split <;> rfl
      · rfl
  | concluding =>
      simp only [step, hphase, conclude]
      split <;> rfl
  | finishing =>
      simp only [step, hphase, finish]
      split <;> simp
  | starting | scraping | reporting | leaving | lost =>
      simp [step, hphase, start, proceed, report, Job.finish]

theorem isTerminal_finalStatus (round : Round σ) : round.finalStatus.isTerminal = true := by
  unfold finalStatus
  split <;> rfl

/-- A job whose round is about to leave has ended: only the report leads there. -/
theorem hasEnded_of_step_leaving {services : ScheduleServices σ} {elapsed : Nat} {round : Round σ}
    {s : Surroundings σ} (hbefore : round.phase = .leaving → round.job.HasEnded)
    (hafter : (round.step services elapsed s).1.phase = .leaving) :
    (round.step services elapsed s).1.job.HasEnded := by
  cases hphase : round.phase with
  | starting => simp [step, hphase, start] at hafter
  | choosing urls => cases urls <;> simp [step, hphase, choose] at hafter
  | scraping url rest work =>
      simp only [step, hphase, proceed] at hafter
      split at hafter <;> cases hafter
  | received url rest result => simp [step, hphase, receive] at hafter
  | concluding =>
      simp only [step, hphase, conclude] at hafter
      split at hafter <;> cases hafter
  | finishing =>
      simp only [step, hphase, finish] at hafter
      split at hafter <;> cases hafter
  | reporting =>
      simp only [step, hphase, report]
      exact Job.hasEnded_finish _ _ (isTerminal_finalStatus round)
  | leaving => simpa only [step, hphase] using hbefore hphase
  | lost => simp [step, hphase] at hafter

/-! ## The registration that a round carries along -/

/-- A round that has taken a step has its start behind it. -/
theorem isStarting_step (services : ScheduleServices σ) (elapsed : Nat) (round : Round σ)
    (s : Surroundings σ) : (round.step services elapsed s).1.isStarting = false := by
  cases hphase : round.phase with
  | starting => simp [step, hphase, start, isStarting]
  | choosing urls => cases urls <;> simp [step, hphase, choose, isStarting]
  | scraping url rest work =>
      simp only [step, hphase, proceed]
      split <;> rfl
  | received url rest result => simp [step, hphase, receive, isStarting]
  | concluding =>
      simp only [step, hphase, conclude]
      split <;> rfl
  | finishing =>
      simp only [step, hphase, finish]
      split <;> rfl
  | reporting => simp [step, hphase, report, isStarting]
  | leaving => simp [step, hphase, isStarting]
  | lost => simp [step, hphase, isStarting]

@[simp]
theorem recordIn_registration (services : ScheduleServices σ) (round : Round σ)
    (s : Surroundings σ) :
    (round.recordIn services s).1.registration = round.registration := by
  simp only [recordIn]
  split <;> rfl

@[simp]
theorem id_markStarted (now : Instant) (r : Registration) : (r.markStarted now).id = r.id := rfl

/-- The end of a round counts no run. -/
theorem markFinished?_totalRuns {now : Instant} {success : Bool} {r later : Registration}
    (hlater : r.markFinished? now success = some later) :
    later.id = r.id ∧ later.history.totalRuns = r.history.totalRuns := by
  simp only [Registration.markFinished?, Bookkeeping.finished?, Option.map_eq_some_iff] at hlater
  obtain ⟨history, ⟨next, -, rfl⟩, rfl⟩ := hlater
  refine ⟨rfl, ?_⟩
  dsimp only
  split <;> rfl

/-- What a step may write to the registration of its round: the start counts one more run of the
same site, and every other step leaves site and count as they are. -/
theorem registration_step (services : ScheduleServices σ) (elapsed : Nat) (round : Round σ)
    (s : Surroundings σ) :
    (round.step services elapsed s).1.registration.id = round.registration.id ∧
      (round.step services elapsed s).1.registration.history.totalRuns =
        round.registration.history.totalRuns + if round.isStarting then 1 else 0 := by
  cases hphase : round.phase with
  | starting =>
      simp [step, hphase, start, isStarting, Registration.markStarted, Bookkeeping.started,
        Registration.id]
  | choosing urls => cases urls <;> simp [step, hphase, choose, isStarting, note]
  | received url rest result =>
      simp only [step, hphase, receive, store, complain, isStarting]
      split
      · split <;> exact ⟨rfl, rfl⟩
      · exact ⟨rfl, rfl⟩
  | concluding =>
      simp only [step, hphase, conclude, isStarting]
      split <;> exact ⟨rfl, rfl⟩
  | finishing =>
      simp only [step, hphase, finish, isStarting]
      split
      · exact ⟨rfl, rfl⟩
      · rename_i later hlater
        simpa using markFinished?_totalRuns hlater
  | scraping | reporting | leaving | lost =>
      simp [step, hphase, proceed, report, isStarting]

/-- The bookkeeping that a step writes back counts one run more than the copy that the round carries
along, if it is that of the start, and else as many. -/
theorem totalRuns_writing {services : ScheduleServices σ} {round : Round σ} {world : σ}
    {history : Bookkeeping} (hwriting : round.writing? services world = some history) :
    history.totalRuns =
      round.registration.history.totalRuns + if round.isStarting then 1 else 0 := by
  unfold writing? at hwriting
  split at hwriting
  · rename_i hphase
    cases hwriting
    simp [isStarting, hphase, Registration.markStarted, Bookkeeping.started]
  · rename_i hphase
    obtain ⟨later, hlater, rfl⟩ := Option.map_eq_some_iff.mp hwriting
    simpa [isStarting, hphase] using (markFinished?_totalRuns hlater).2
  · cases hwriting

end Round

/-! ## A register in the world -/

/-- The world keeps a register, which a view shows: reading it gives the view, writing bookkeeping
back either is taken, and changes the bookkeeping of that site at once, or changes nothing, and
nothing else that a scheduler asks for touches it. -/
structure ScheduleServices.KeepsRegister (services : ScheduleServices σ) (view : σ → Register) :
    Prop where
  register_ok : ∀ world registrations, services.register world = .ok registrations →
    registrations = view world
  record_taken : ∀ siteId history world,
    (services.record siteId history world).1 = .ok true →
      view (services.record siteId history world).2 = (view world).record siteId history
  record_refused : ∀ siteId history world,
    (services.record siteId history world).1 ≠ .ok true →
      view (services.record siteId history world).2 = view world
  save : ∀ siteId result world, view (services.save siteId result world).2 = view world
  notify : ∀ notice world, view (services.notify notice world).2 = view world
  scrape : ∀ request, (services.scrape request).Keeps view

namespace Round

/-- The scrape that a round waits for leaves a part of the world alone. -/
def ScrapesQuietly (view : σ → τ) (round : Round σ) : Prop :=
  ∀ url rest work, round.phase = .scraping url rest work → work.Keeps view

variable {services : ScheduleServices σ} {view : σ → Register}

@[simp]
theorem recordIn_world (services : ScheduleServices σ) (round : Round σ) (s : Surroundings σ) :
    (round.recordIn services s).2.world =
      (services.record round.registration.id round.registration.history s.world).2 := by
  simp only [recordIn]
  split <;> rfl

@[simp]
theorem recordIn_events (services : ScheduleServices σ) (round : Round σ) (s : Surroundings σ) :
    (round.recordIn services s).2.events = s.events := by
  simp only [recordIn]
  split <;> rfl

@[simp]
theorem send_events (services : ScheduleServices σ) (wanted : Bool) (notice : Notice)
    (s : Surroundings σ) : (s.send services wanted notice).events = s.events := by
  simp only [Surroundings.send]
  split <;> rfl

theorem view_send {view : σ → τ}
    (hnotify : ∀ notice world, view (services.notify notice world).2 = view world) (wanted : Bool)
    (notice : Notice) (s : Surroundings σ) :
    view (s.send services wanted notice).world = view s.world := by
  unfold Surroundings.send
  split
  · exact hnotify notice s.world
  · rfl

theorem records_eq_true {round : Round σ} {world : σ}
    (hrecords : round.records services world = true) :
    ∃ history, round.writing? services world = some history ∧
      (services.record round.registration.id history world).1 = .ok true := by
  unfold records at hrecords
  split at hrecords
  · cases hrecords
  · rename_i history hwriting
    refine ⟨history, hwriting, ?_⟩
    split at hrecords
    · simp_all
    · cases hrecords

theorem records_eq_false {round : Round σ} {world : σ} {history : Bookkeeping}
    (hwriting : round.writing? services world = some history)
    (hrecords : round.records services world = false) :
    (services.record round.registration.id history world).1 ≠ .ok true := by
  intro htaken
  simp [records, hwriting, htaken] at hrecords

/-- A step that has nothing to write back, or whose writing is not taken, leaves the register as it
is. -/
theorem view_step_of_not_records (hstore : services.KeepsRegister view) {round : Round σ}
    (hquiet : round.ScrapesQuietly view) (elapsed : Nat) (s : Surroundings σ)
    (hrecords : round.records services s.world = false) :
    view (round.step services elapsed s).2.world = view s.world := by
  cases hphase : round.phase with
  | starting =>
      have hwriting : round.writing? services s.world =
          some (round.registration.markStarted (services.now s.world)).history := by
        simp [writing?, hphase]
      simpa [step, hphase, start] using
        hstore.record_refused _ _ _ (records_eq_false hwriting hrecords)
  | choosing urls => cases urls <;> simp [step, hphase, choose]
  | scraping url rest work =>
      simpa [step, hphase, proceed] using
        ((hquiet url rest work hphase).resume round.cancelled elapsed s.world).1
  | received url rest result =>
      simp only [step, hphase, receive, store, complain]
      split
      · split <;> exact hstore.save _ _ _
      · exact view_send hstore.notify _ _ _
  | concluding =>
      simp only [step, hphase, conclude]
      split
      · rfl
      · split
        · exact view_send hstore.notify _ _ _
        · rfl
  | finishing =>
      simp only [step, hphase, finish]
      split
      · rfl
      · rename_i later hlater
        have hwriting : round.writing? services s.world = some later.history := by
          simp [writing?, hphase, hlater]
        simp only [recordIn_world, (markFinished?_totalRuns hlater).1]
        exact hstore.record_refused _ _ _ (records_eq_false hwriting hrecords)
  | reporting | leaving | lost => simp [step, hphase, report, Surroundings.tell]

/-- A step whose writing is taken changes the bookkeeping of the site of its round. -/
theorem view_step_of_records (hstore : services.KeepsRegister view) {round : Round σ}
    (elapsed : Nat) (s : Surroundings σ) (hrecords : round.records services s.world = true) :
    ∃ history, round.writing? services s.world = some history ∧
      view (round.step services elapsed s).2.world =
        (view s.world).record round.registration.id history := by
  obtain ⟨history, hwriting, htaken⟩ := records_eq_true hrecords
  refine ⟨history, hwriting, ?_⟩
  cases hphase : round.phase with
  | starting =>
      simp only [writing?, hphase, Option.some.injEq] at hwriting
      subst hwriting
      simpa [step, hphase, start] using hstore.record_taken _ _ _ htaken
  | finishing =>
      simp only [writing?, hphase] at hwriting
      obtain ⟨later, hlater, rfl⟩ := Option.map_eq_some_iff.mp hwriting
      simp only [step, hphase, finish, hlater, recordIn_world, (markFinished?_totalRuns hlater).1]
      exact hstore.record_taken _ _ _ htaken
  | choosing | scraping | received | concluding | reporting | leaving | lost =>
      simp [writing?, hphase] at hwriting

/-- A round goes on scraping as quietly as before. -/
theorem ScrapesQuietly.step {view : σ → τ}
    (hscrape : ∀ request, (services.scrape request).Keeps view) {round : Round σ}
    (hquiet : round.ScrapesQuietly view) (elapsed : Nat) (s : Surroundings σ) :
    (round.step services elapsed s).1.ScrapesQuietly view := by
  intro url rest work hafter
  cases hphase : round.phase with
  | starting => simp [Round.step, hphase, start] at hafter
  | choosing urls =>
      cases urls with
      | nil => simp [Round.step, hphase, choose] at hafter
      | cons next urls =>
          simp only [Round.step, hphase, choose, Phase.scraping.injEq] at hafter
          obtain ⟨-, -, rfl⟩ := hafter
          exact hscrape _
  | scraping url' rest' work' =>
      have hkeeps := ((hquiet url' rest' work' hphase).resume round.cancelled elapsed s.world).2
      simp only [Round.step, hphase, proceed] at hafter
      split at hafter
      · cases hafter
      · simp only [Phase.scraping.injEq] at hafter
        obtain ⟨-, -, rfl⟩ := hafter
        exact hkeeps
  | received url' rest' result => simp [Round.step, hphase, receive] at hafter
  | concluding =>
      simp only [Round.step, hphase, conclude] at hafter
      split at hafter <;> cases hafter
  | finishing =>
      simp only [Round.step, hphase, finish] at hafter
      split at hafter <;> cases hafter
  | reporting | leaving | lost => simp [Round.step, hphase, report] at hafter

end Round

end SiteWatch
