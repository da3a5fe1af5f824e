/-
# What a schedule changes

Everything that a scheduler does to a world is done by its collaborators, and the only ones that may
change what is kept there are those that write bookkeeping back. So whatever good this preserves is
preserved by ticks, by the loop and by its stop, however long they take.
-/

import SiteWatch.Proofs.Schedule.Lineage
import SiteWatch.Proofs.Schedule.Workers

namespace SiteWatch

variable {σ τ : Type} {services : ScheduleServices σ} {view : σ → τ} {good : τ → Prop}

/-- A view of the world stays good: writing bookkeeping back preserves that, and nothing else that a
scheduler asks for changes what is seen. -/
structure ScheduleServices.Guards (services : ScheduleServices σ) (view : σ → τ)
    (good : τ → Prop) : Prop where
  record : ∀ siteId history world, good (view world) →
    good (view (services.record siteId history world).2)
  save : ∀ siteId result world, view (services.save siteId result world).2 = view world
  notify : ∀ notice world, view (services.notify notice world).2 = view world
  scrape : ∀ request, (services.scrape request).Keeps view

/-! ## Rounds -/

namespace Round

/-- A step of a round leaves what is seen alone, or it writes bookkeeping back. -/
theorem view_step_or_record (hguards : services.Guards view good) {round : Round σ}
    (hquiet : round.ScrapesQuietly view) (elapsed : Nat) (s : Surroundings σ) :
    view (round.step services elapsed s).2.world = view s.world ∨
      ∃ siteId history, (round.step services elapsed s).2.world =
        (services.record siteId history s.world).2 := by
  cases hphase : round.phase with
  | starting =>
      right
      simp only [step, hphase, start, recordIn_world]
      exact ⟨_, _, rfl⟩
  | choosing urls =>
      left
      cases urls <;> simp [step, hphase, choose]
  | scraping url rest work =>
      left
      simpa [step, hphase, proceed] using
        ((hquiet url rest work hphase).resume round.cancelled elapsed s.world).1
  | received url rest result =>
      left
      simp only [step, hphase, receive, store, complain]
      split
      · split <;> exact hguards.save _ _ _
      · exact view_send hguards.notify _ _ _
  | concluding =>
      left
      simp only [step, hphase, conclude]
      split
      · rfl
      · split
        · exact view_send hguards.notify _ _ _
        · rfl
  | finishing =>
      simp only [step, hphase, finish]
      split
      · exact .inl rfl
      · right
        simp only [recordIn_world]
        exact ⟨_, _, rfl⟩
  | reporting | leaving | lost => simp [step, hphase, report, Surroundings.tell]

theorem good_step (hguards : services.Guards view good) {round : Round σ}
    (hquiet : round.ScrapesQuietly view) (elapsed : Nat) {s : Surroundings σ}
    (hgood : good (view s.world)) : good (view (round.step services elapsed s).2.world) := by
  rcases view_step_or_record hguards hquiet elapsed s with hsame | ⟨siteId, history, hrecord⟩
  · rw [hsame]
    exact hgood
  · rw [hrecord]
    exact hguards.record siteId history s.world hgood

end Round

/-! ## Schedulers -/

namespace Scheduler

variable {s : Scheduler σ}

/-- A scheduler in a world that is good so far, whose rounds wait for nothing that could change
that. -/
structure IsGuarded (view : σ → τ) (good : τ → Prop) (s : Scheduler σ) : Prop where
  world : good (view s.around.world)
  rounds : ∀ round ∈ s.rounds, round.ScrapesQuietly view

theorem IsGuarded.callOff (hs : s.IsGuarded view good) (job : JobId) :
    (s.callOff job).IsGuarded view good where
  world := hs.world
  rounds := by
    intro round hround
    obtain ⟨old, hold, rfl⟩ := List.mem_map.mp hround
    split
    · exact hs.rounds old hold
    · exact hs.rounds old hold

theorem IsGuarded.endStop (hs : s.IsGuarded view good) (inFlight : Nat) :
    (s.endStop services inFlight).2.IsGuarded view good := by
  have habandoned : (s.running.foldl (abandon services) s).IsGuarded view good := by
    refine List.foldlRecOn s.running (abandon services)
      (motive := fun t : Scheduler σ => t.IsGuarded view good) hs ?_
    intro t ht job _
    exact ⟨(ht.callOff job.id).world, (ht.callOff job.id).rounds⟩
  exact ⟨habandoned.world, habandoned.rounds⟩

theorem IsGuarded.launchDue (hs : s.IsGuarded view good) (due : List Registration) :
    (s.launchDue services due).2.IsGuarded view good := by
  have hlaunches := launches_launchDue services due s
  refine ⟨hlaunches.world_eq ▸ hs.world, fun round hround => ?_⟩
  rcases hlaunches.rounds round hround with hold | ⟨job, r, -, rfl, -⟩
  · exact hs.rounds round hold
  · -- A round that was just launched waits for no scrape.
    intro url rest work hphase
    cases hphase

theorem IsGuarded.stepRound (hguards : services.Guards view good) (hs : s.IsGuarded view good)
    (job : JobId) (elapsed : Nat) : (s.stepRound services job elapsed).IsGuarded view good := by
  cases hround : s.round? job with
  | none => rwa [stepRound_of_none hround]
  | some round =>
      have hquiet := hs.rounds round (List.mem_of_find?_eq_some hround)
      by_cases hphase : round.phase = .leaving
      · rw [stepRound_eq_leave hround hphase]
        refine ⟨by rw [world_leave]; exact hs.world, fun other hother => ?_⟩
        simp only [leave, apply_ite Scheduler.rounds, remember, ite_self] at hother
        exact hs.rounds other (List.mem_of_mem_filter hother)
      · rw [stepRound_eq_step hround hphase]
        refine ⟨Round.good_step hguards hquiet elapsed hs.world, fun other hother => ?_⟩
        obtain ⟨old, hold, rfl⟩ := List.mem_map.mp hother
        split
        · exact hquiet.step hguards.scrape elapsed s.around
        · exact hs.rounds old hold

end Scheduler

/-! ## Courses -/

namespace Course

variable {c : Course σ}

theorem isGuarded_after (hguards : services.Guards view good)
    (hc : c.scheduler.IsGuarded view good) {happening : Happening σ}
    (hown : happening.isOwn = true) : (c.after services happening).scheduler.IsGuarded view good := by
  cases happening with
  | start =>
      simp only [after, Scheduler.start]
      split
      · exact hc
      · exact ⟨hc.world, hc.rounds⟩
  | endStop inFlight => exact hc.endStop inFlight
  | read =>
      simp only [after, read]
      split <;> exact hc
  | launch place =>
      simp only [after, launch]
      split
      · exact hc
      · exact hc.launchDue _
  | advance job elapsed => exact hc.stepRound hguards job elapsed
  | callOff job => exact hc.callOff job
  | unwant | announceStop | planTick => exact ⟨hc.world, hc.rounds⟩
  | elsewhere change => cases hown

theorem isGuarded_run (hguards : services.Guards view good)
    (hc : c.scheduler.IsGuarded view good) {happenings : List (Happening σ)}
    (hown : ∀ happening ∈ happenings, happening.isOwn = true) :
    (c.run services happenings).scheduler.IsGuarded view good := by
  induction happenings generalizing c with
  | nil => exact hc
  | cons happening rest ih =>
      have hafter := isGuarded_after hguards hc (hown happening List.mem_cons_self)
      exact ih hafter fun other hother => hown other (List.mem_cons_of_mem _ hother)

end Course

/-- A scheduler that is left to itself preserves what is good about its world. -/
theorem Scheduler.LeadsOn.isGuarded {s t : Scheduler σ} (hleads : LeadsOn services s t)
    (hguards : services.Guards view good) (hs : s.IsGuarded view good) : t.IsGuarded view good := by
  obtain ⟨happenings, hown, rfl⟩ := hleads { scheduler := s } rfl
  exact Course.isGuarded_run hguards hs hown

/-- A scheduler that was just built. -/
theorem Scheduler.isGuarded_new {world : σ} (hworld : good (view world)) :
    Scheduler.IsGuarded view good { around := { world } } where
  world := hworld
  rounds := by simp

end SiteWatch
