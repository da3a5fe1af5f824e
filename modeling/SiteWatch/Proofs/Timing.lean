/-
# How long activities take

When work that runs by itself comes to its end. Time only passes in waits, so work without waits is
over at once; and a deadline cuts work short where the work, left alone, would still be busy, and
does nothing to it otherwise. Work that waits for nothing without a deadline comes to an end if it is left
to itself.
-/

import SiteWatch.Proofs.Execution

namespace SiteWatch

variable {σ τ α β : Type}

namespace Activity

/-- Time does not go back. -/
theorem le_of_run {work : Activity σ α} {cancelAt : Option Nat} {clock ended : Nat} {s t : σ}
    {value : α} (hrun : work.run cancelAt clock s = some (value, ended, t)) : clock ≤ ended := by
  induction work generalizing clock s with
  | done answer =>
      cases hrun
      exact Nat.le_refl _
  | act update next ih => exact ih s hrun
  | wait pause next ih =>
      simp only [run] at hrun
      split at hrun
      · cases hrun
      · rename_i wake elapsed _
        exact Nat.le_trans (Nat.le_add_right clock elapsed) (ih wake elapsed hrun)

/-- The answer of work that runs by itself is one that it may have. -/
theorem Yields.of_run {good : α → Prop} {work : Activity σ α} (hwork : work.Yields good)
    {cancelAt : Option Nat} {clock ended : Nat} {s t : σ} {value : α}
    (hrun : work.run cancelAt clock s = some (value, ended, t)) : good value := by
  induction work generalizing clock s with
  | done answer =>
      cases hrun
      exact hwork
  | act update next ih => exact ih s (hwork s) hrun
  | wait pause next ih =>
      simp only [run] at hrun
      split at hrun
      · cases hrun
      · rename_i wake elapsed _
        exact ih wake elapsed (hwork wake elapsed) hrun

/-! ## Work that is over at once -/

/-- Work without waits. -/
def IsPrompt : Activity σ α → Prop
  | done _ => True
  | act _ next => ∀ s, (next s).IsPrompt
  | wait _ _ => False

theorem isPrompt_step (f : σ → α × σ) : (step f).IsPrompt := fun _ => trivial

theorem isPrompt_bind {first : Activity σ α} {andThen : α → Activity σ β}
    (hfirst : first.IsPrompt) (hthen : ∀ a, (andThen a).IsPrompt) :
    (first.bind andThen).IsPrompt := by
  induction first with
  | done value => exact hthen value
  | act update next ih => exact fun s => ih s (hfirst s)
  | wait pause next ih => exact hfirst.elim

theorem isPrompt_within {get : τ → σ} {set : σ → τ → τ} {work : Activity σ α}
    (hwork : work.IsPrompt) : (within get set work).IsPrompt := by
  induction work with
  | done value => trivial
  | act update next ih => exact fun t => ih (get t) (hwork (get t))
  | wait pause next ih => exact hwork

/-- Work without waits takes no time. -/
theorem IsPrompt.exists_run {work : Activity σ α} (hwork : work.IsPrompt) (cancelAt : Option Nat)
    (clock : Nat) (s : σ) : ∃ value t, work.run cancelAt clock s = some (value, clock, t) := by
  induction work generalizing s with
  | done value => exact ⟨value, s, rfl⟩
  | act update next ih => exact ih s (hwork s) (update s)
  | wait pause next ih => exact hwork.elim

/-! ## Deadlines -/

/-- What ends a wait first when the work is not called off. -/
theorem firstWake_none (pause : Pause σ) (s : σ) :
    firstWake pause none s =
      if pause.ready s then some (.ready, 0) else pause.after.map fun time => (.due, time) := by
  unfold firstWake
  split
  · rfl
  · rw [ite_self]
    cases pause.after <;> rfl

/-- How some work ends that runs by itself from a time on and is given some time: as it does without
a deadline if it is over by then, and at the deadline with another answer if it is not. -/
inductive EndsUnder (instead : α) (left clock : Nat) (s : σ) (work : Activity σ α) :
    α → Nat → Prop
  | inTime {value : α} {ended : Nat} {t : σ}
      (hrun : work.run none clock s = some (value, ended, t)) (hended : ended ≤ clock + left) :
      EndsUnder instead left clock s work value ended
  | cutShort
      (hbusy : ∀ value ended t, work.run none clock s = some (value, ended, t) →
        clock + left < ended) :
      EndsUnder instead left clock s work instead (clock + left)

theorem EndsUnder.le {instead value : α} {left clock ended : Nat} {s : σ} {work : Activity σ α}
    (hends : EndsUnder instead left clock s work value ended) : ended ≤ clock + left := by
  cases hends with
  | inTime hrun hended => exact hended
  | cutShort hbusy => exact Nat.le_refl _

/-- Once some of the time is used up, what is left of the work has what is left of the time. -/
theorem EndsUnder.of_rest {instead value : α} {left clock elapsed ended : Nat} {s t : σ}
    {work rest : Activity σ α} (hrun : work.run none clock s = rest.run none (clock + elapsed) t)
    (helapsed : elapsed ≤ left)
    (hrest : EndsUnder instead (left - elapsed) (clock + elapsed) t rest value ended) :
    EndsUnder instead left clock s work value ended := by
  have hdeadline : clock + elapsed + (left - elapsed) = clock + left := by omega
  cases hrest with
  | inTime hended hle => exact .inTime (hrun.trans hended) (hdeadline ▸ hle)
  | cutShort hbusy =>
      rw [hdeadline]
      apply EndsUnder.cutShort
      intro value ended u hended
      rw [← hdeadline]
      exact hbusy value ended u (hrun.symm.trans hended)

/-- Work under a deadline comes to an end, and ends as it does without one or is cut short. -/
theorem exists_endsUnder (instead : α) (left clock : Nat) (s : σ) (work : Activity σ α) :
    ∃ value ended t, run none clock s (work.orLate instead left) = some (value, ended, t) ∧
      EndsUnder instead left clock s work value ended := by
  induction work generalizing left clock s with
  | done value => exact ⟨value, clock, s, rfl, .inTime rfl (Nat.le_add_right clock left)⟩
  | act update next ih =>
      obtain ⟨value, ended, t, hrun, hends⟩ := ih s left clock (update s)
      have hrest : EndsUnder instead (left - 0) (clock + 0) (update s) (next s) value ended := hends
      exact ⟨value, ended, t, hrun, .of_rest rfl (Nat.zero_le left) hrest⟩
  | wait pause next ih =>
      -- A wait that ends in time ends in the same way under the deadline.
      have onTime {limited : Pause σ} {cut : Wake → Nat → Activity σ α} {wake : Wake}
          {elapsed : Nat} (hwake : firstWake pause none s = some (wake, elapsed))
          (hlimited : firstWake limited none s = some (wake, elapsed)) (hle : elapsed ≤ left)
          (hcut : cut wake elapsed = (next wake elapsed).orLate instead (left - elapsed)) :
          ∃ value ended t, run none clock s (wait limited cut) = some (value, ended, t) ∧
            EndsUnder instead left clock s (wait pause next) value ended := by
        obtain ⟨value, ended, t, hrun, hends⟩ :=
          ih wake elapsed (left - elapsed) (clock + elapsed) s
        refine ⟨value, ended, t, ?_, hends.of_rest ?_ hle⟩
        · simp only [run, Option.map_none, hlimited, hcut, hrun]
        · simp only [run, Option.map_none, hwake]
      simp only [orLate]
      by_cases hready : pause.ready s = true
      · have hwake : firstWake pause none s = some (.ready, 0) := by
          rw [firstWake_none, if_pos hready]
        by_cases hafter : pause.after.any (· ≤ left) = true
        · rw [if_pos hafter]
          exact onTime hwake hwake (Nat.zero_le left) rfl
        · rw [if_neg hafter]
          apply onTime hwake _ (Nat.zero_le left) rfl
          rw [firstWake_none]
          exact if_pos hready
      · by_cases hafter : pause.after.any (· ≤ left) = true
        · rw [if_pos hafter]
          obtain ⟨time, htime, hle⟩ := Option.any_eq_true _ _ |>.mp hafter
          have hwake : firstWake pause none s = some (.due, time) := by
            rw [firstWake_none, if_neg hready, htime]
            rfl
          exact onTime hwake hwake (of_decide_eq_true hle) rfl
        · rw [if_neg hafter]
          refine ⟨instead, clock + left, s, ?_, .cutShort ?_⟩
          · have hwake : firstWake { pause with after := some left } none s = some (.due, left) := by
              rw [firstWake_none]
              exact if_neg hready
            simp only [run, Option.map_none, hwake]
          · intro value ended t hended
            simp only [run, Option.map_none, firstWake_none, if_neg hready] at hended
            cases htime : pause.after with
            | none => simp [htime] at hended
            | some time =>
                simp only [htime, Option.map_some] at hended
                have hlate : left < time := by simpa [htime] using hafter
                have hclock := le_of_run hended
                omega

/-- Work that is not called off runs as if it could not be. -/
theorem run_orCancelled (instead : α) (clock : Nat) (s : σ) (work : Activity σ α) :
    run none clock s (work.orCancelled instead) = run none clock s work := by
  induction work generalizing clock s with
  | done value => rfl
  | act update next ih => exact ih s clock (update s)
  | wait pause next ih =>
      have hwake : firstWake { pause with heeds := true } none s = firstWake pause none s := by
        rw [firstWake_none, firstWake_none]
      simp only [orCancelled, run, Option.map_none, hwake]
      cases hends : firstWake pause none s with
      | none => rfl
      | some woken =>
          obtain ⟨wake, elapsed⟩ := woken
          cases wake with
          | due | ready => exact ih _ elapsed (clock + elapsed) s
          | cancelled =>
              rw [firstWake_none] at hends
              split at hends
              · cases hends
              · simp at hends

end Activity

namespace Attempt

variable {cancelAt : Option Nat} {clock ended : Nat} {s t : σ}

/-! ## One attempt after another -/

theorem run_bind_of_ok {first : Attempt σ α} (andThen : α → Attempt σ β) {a : α}
    (hfirst : first.run.run cancelAt clock s = some (.ok a, ended, t)) :
    (first >>= andThen).run.run cancelAt clock s = (andThen a).run.run cancelAt ended t := by
  have hbind := Activity.run_bind cancelAt clock s first.run fun outcome =>
    (ExceptT.bindCont andThen outcome : Activity σ (Outcome β))
  rw [hfirst] at hbind
  exact hbind

theorem run_bind_of_error {first : Attempt σ α} (andThen : α → Attempt σ β) {cause : Failure}
    (hfirst : first.run.run cancelAt clock s = some (.error cause, ended, t)) :
    (first >>= andThen).run.run cancelAt clock s = some (.error cause, ended, t) := by
  have hbind := Activity.run_bind cancelAt clock s first.run fun outcome =>
    (ExceptT.bindCont andThen outcome : Activity σ (Outcome β))
  rw [hfirst] at hbind
  exact hbind

theorem run_bind_of_none {first : Attempt σ α} (andThen : α → Attempt σ β)
    (hfirst : first.run.run cancelAt clock s = none) :
    (first >>= andThen).run.run cancelAt clock s = none := by
  have hbind := Activity.run_bind cancelAt clock s first.run fun outcome =>
    (ExceptT.bindCont andThen outcome : Activity σ (Outcome β))
  rw [hfirst] at hbind
  exact hbind

theorem isPrompt_bind {first : Attempt σ α} {andThen : α → Attempt σ β}
    (hfirst : first.run.IsPrompt) (hthen : ∀ a, (andThen a).run.IsPrompt) :
    (first >>= andThen).run.IsPrompt := by
  apply Activity.isPrompt_bind hfirst
  intro outcome
  cases outcome with
  | ok a => exact hthen a
  | error cause => trivial

/-- What holds of every failure and of whatever comes after the first attempt. -/
theorem yields_bind {good : Outcome β → Prop} (first : Attempt σ α) {andThen : α → Attempt σ β}
    (herror : ∀ cause, good (.error cause)) (hthen : ∀ a, (andThen a).run.Yields good) :
    (first >>= andThen).run.Yields good := by
  apply Activity.yields_bind (Activity.yields_true first.run)
  intro outcome _
  cases outcome with
  | ok a => exact hthen a
  | error cause => exact herror cause

theorem yields_bind_ofActivity {good : Outcome β → Prop} {work : Activity σ α}
    {andThen : α → Attempt σ β} (hthen : ∀ a, (andThen a).run.Yields good) :
    (ofActivity work >>= andThen).run.Yields good := by
  rw [run_bind_ofActivity]
  exact Activity.yields_bind (Activity.yields_true work) fun a _ => hthen a

theorem isPrompt_ofActivity {work : Activity σ α} (hwork : work.IsPrompt) :
    (ofActivity work).run.IsPrompt :=
  Activity.isPrompt_bind hwork fun _ => trivial

end Attempt

/-! ## Work that is left to itself -/

namespace Activity

/-- Work that comes to an end if it is left to itself, whatever state it begins in. -/
def Halts (work : Activity σ α) : Prop := ∀ s, ∃ value t, work.CanEnd Meantime.idle value t s

theorem halts_done (value : α) : (done value : Activity σ α).Halts := fun s => ⟨value, s, rfl, rfl⟩

theorem halts_step (f : σ → α × σ) : (step f).Halts := fun _ => ⟨_, _, rfl, rfl⟩

theorem halts_bind {first : Activity σ α} {andThen : α → Activity σ β} (hfirst : first.Halts)
    (hthen : ∀ a, (andThen a).Halts) : (first.bind andThen).Halts := by
  intro s
  obtain ⟨a, u, hends⟩ := hfirst s
  obtain ⟨value, t, hlast⟩ := hthen a u
  exact ⟨value, t, canEnd_bind.mpr ⟨a, u, hends, hlast⟩⟩

theorem halts_sleep (milliseconds : Nat) : (sleep milliseconds : Activity σ Unit).Halts := by
  intro s
  refine ⟨(), s, .due, milliseconds, s, ⟨?_, rfl⟩, rfl, rfl⟩
  rw [firstWake_none]
  rfl

theorem halts_of_isSome_run {work : Activity σ α}
    (hruns : ∀ s, (work.run none 0 s).isSome) : work.Halts := by
  intro s
  obtain ⟨⟨value, later, t⟩, hrun⟩ := Option.isSome_iff_exists.mp (hruns s)
  exact ⟨value, t, (canEnd_idle_iff 0).mpr ⟨later, hrun⟩⟩

theorem halts_orLate (late : α) (left : Nat) (work : Activity σ α) :
    (work.orLate late left).Halts :=
  halts_of_isSome_run fun s => isSome_run_orLate late left none 0 s work

theorem halts_within {get : τ → σ} {set : σ → τ → τ} (hget : ∀ s t, get (set s t) = s)
    (hset : ∀ s s' t, set s (set s' t) = set s t) (hsame : ∀ t, set (get t) t = t)
    {work : Activity σ α} (hwork : work.Halts) : (within get set work).Halts := by
  intro t
  obtain ⟨value, last, hends⟩ := hwork (get t)
  refine ⟨value, set last t, hends.within get set hget hset hsame ?_⟩
  rintro pause wake elapsed t - ⟨hwake, rfl⟩
  exact ⟨hwake, hsame t⟩

end Activity

namespace Attempt

theorem halts_bind {first : Attempt σ α} {andThen : α → Attempt σ β} (hfirst : first.run.Halts)
    (hthen : ∀ a, (andThen a).run.Halts) : (first >>= andThen).run.Halts := by
  apply Activity.halts_bind hfirst
  intro outcome
  cases outcome with
  | ok a => exact hthen a
  | error cause => exact Activity.halts_done _

theorem halts_bind_ofActivity {work : Activity σ α} {andThen : α → Attempt σ β}
    (hwork : work.Halts) (hthen : ∀ a, (andThen a).run.Halts) :
    (ofActivity work >>= andThen).run.Halts := by
  rw [run_bind_ofActivity]
  exact Activity.halts_bind hwork hthen

theorem halts_timeout (limit : Nat) (attempt : Attempt σ α) : (attempt.timeout limit).run.Halts :=
  Activity.halts_orLate _ limit attempt.run

theorem halts_ok? {attempt : Attempt σ α} (hattempt : attempt.run.Halts) : attempt.ok?.Halts :=
  Activity.halts_bind hattempt fun _ => Activity.halts_done _

end Attempt

end SiteWatch
