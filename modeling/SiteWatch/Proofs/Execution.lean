/-
# Executions of activities

What some work can come to, when the waits of it end as waits may and others are busy in the
meantime. An execution is one path through the tree of the work: it takes every change as it comes,
and at every wait one of the ends that the wait can have. Work after other work is executed by an
execution of the one and then of the other, so an execution of a long activity falls apart into
executions of its parts, and what each of them did can be read off one after another.

Where nobody disturbs some work, its run by itself is one of its executions.
-/

import SiteWatch.Proofs.Activity

namespace SiteWatch

variable {σ τ α β : Type}

/-- Whether a wait can end like this: because its time is up, because the state allows to go on, or,
where it heeds that, because the work is called off. -/
def Pause.endsBy (pause : Pause σ) (wake : Wake) (elapsed : Nat) (s : σ) : Bool :=
  match wake with
  | .due => pause.after.any (· ≤ elapsed)
  | .ready => pause.ready s
  | .cancelled => pause.heeds

/-- What can go on during a wait: the wait, what ends it and after how long, the state when it
begins and the state when it ends. -/
abbrev Meantime (σ : Type) := Pause σ → Wake → Nat → σ → σ → Prop

/-- Waits end as they may, and others leave alone what a view shows. -/
def Meantime.leaving (view : σ → τ) : Meantime σ :=
  fun pause wake elapsed s t => pause.endsBy wake elapsed t = true ∧ view t = view s

/-- Waits end as they may, and others do what they like. -/
abbrev Meantime.free : Meantime σ := Meantime.leaving fun _ => ()

/-- Nobody does anything, nothing is called off, and every wait ends with what ends it first. -/
def Meantime.idle : Meantime σ :=
  fun pause wake elapsed s t => Activity.firstWake pause none s = some (wake, elapsed) ∧ t = s

/-- What goes on during a wait does not depend on the ends that the wait did not have. -/
structure Meantime.IsIndifferent (meantime : Meantime σ) : Prop where
  after : ∀ (pause : Pause σ) left wake elapsed s t, wake ≠ .due →
    meantime { pause with after := some left } wake elapsed s t → meantime pause wake elapsed s t
  heeds : ∀ (pause : Pause σ) wake elapsed s t, wake ≠ .cancelled →
    meantime { pause with heeds := true } wake elapsed s t → meantime pause wake elapsed s t

theorem Meantime.isIndifferent_leaving (view : σ → τ) : (Meantime.leaving view).IsIndifferent where
  after pause left wake elapsed s t hwake hmeantime := by
    cases wake with
    | due => exact absurd rfl hwake
    | ready | cancelled => exact hmeantime
  heeds pause wake elapsed s t hwake hmeantime := by
    cases wake with
    | cancelled => exact absurd rfl hwake
    | due | ready => exact hmeantime

namespace Activity

/-- Some work, begun in a state, can end with an answer and in a state. -/
def CanEnd (meantime : Meantime σ) (value : α) (last : σ) : Activity σ α → σ → Prop
  | done answer, s => answer = value ∧ s = last
  | act update next, s => (next s).CanEnd meantime value last (update s)
  | wait pause next, s => ∃ wake elapsed t, meantime pause wake elapsed s t ∧
      (next wake elapsed).CanEnd meantime value last t

section

variable {meantime : Meantime σ} {s t : σ} {value : α}

theorem canEnd_bind {first : Activity σ α} {andThen : α → Activity σ β} {value : β} :
    (first.bind andThen).CanEnd meantime value t s ↔
      ∃ a u, first.CanEnd meantime a u s ∧ (andThen a).CanEnd meantime value t u := by
  induction first generalizing s with
  | done answer =>
      constructor
      · exact fun hends => ⟨answer, s, ⟨rfl, rfl⟩, hends⟩
      · rintro ⟨a, u, ⟨rfl, rfl⟩, hends⟩
        exact hends
  | act update next ih => exact ih s
  | wait pause next ih =>
      constructor
      · rintro ⟨wake, elapsed, v, hv, hends⟩
        obtain ⟨a, u, hfirst, hthen⟩ := (ih wake elapsed).mp hends
        exact ⟨a, u, ⟨wake, elapsed, v, hv, hfirst⟩, hthen⟩
      · rintro ⟨a, u, ⟨wake, elapsed, v, hv, hfirst⟩, hthen⟩
        exact ⟨wake, elapsed, v, hv, (ih wake elapsed).mpr ⟨a, u, hfirst, hthen⟩⟩

/-- What can be done at once is done first. -/
theorem canEnd_advance {work : Activity σ α} :
    (work.advance s).1.CanEnd meantime value t (work.advance s).2 ↔
      work.CanEnd meantime value t s := by
  induction work generalizing s with
  | done answer => exact Iff.rfl
  | act update next ih => exact ih s
  | wait pause next ih => exact Iff.rfl

/-- Work that leaves a part of the state alone changes it no more than others do in the meantime. -/
theorem Keeps.relates {view : σ → τ} {R : τ → τ → Prop} (hrefl : ∀ x, R x x)
    (htrans : ∀ {x y z}, R x y → R y z → R x z)
    (hmeantime : ∀ pause wake elapsed s t, meantime pause wake elapsed s t →
      R (view s) (view t))
    {work : Activity σ α} (hkeeps : work.Keeps view) (hends : work.CanEnd meantime value t s) :
    R (view s) (view t) := by
  induction work generalizing s with
  | done answer =>
      obtain ⟨-, rfl⟩ := hends
      exact hrefl _
  | act update next ih =>
      rw [← hkeeps.1 s]
      exact ih s (hkeeps.2 s) hends
  | wait pause next ih =>
      obtain ⟨wake, elapsed, u, hu, hends⟩ := hends
      exact htrans (hmeantime _ _ _ _ _ hu) (ih wake elapsed (hkeeps wake elapsed) hends)

/-- Work that leaves a part of the state alone leaves it as it was, where others do so too. -/
theorem Keeps.view_eq {view : σ → τ}
    (hmeantime : ∀ pause wake elapsed s t, meantime pause wake elapsed s t → view t = view s)
    {work : Activity σ α} (hkeeps : work.Keeps view) (hends : work.CanEnd meantime value t s) :
    view t = view s :=
  hkeeps.relates (R := fun x y => y = x) (fun _ => rfl) (fun hxy hyz => hyz.trans hxy) hmeantime hends

/-- An execution is one as well where more goes on during waits. -/
theorem CanEnd.mono {weaker : Meantime σ}
    (hweaker : ∀ pause wake elapsed s t, meantime pause wake elapsed s t →
      weaker pause wake elapsed s t)
    {work : Activity σ α} (hends : work.CanEnd meantime value t s) :
    work.CanEnd weaker value t s := by
  induction work generalizing s with
  | done answer => exact hends
  | act update next ih => exact ih s hends
  | wait pause next ih =>
      obtain ⟨wake, elapsed, u, hu, hends⟩ := hends
      exact ⟨wake, elapsed, u, hweaker pause wake elapsed s u hu, ih wake elapsed hends⟩

/-- Work under a deadline that is not late ends as it does without one. -/
theorem CanEnd.of_orLate (hmeantime : meantime.IsIndifferent) {late : α} (hvalue : value ≠ late)
    {work : Activity σ α} {left : Nat} (hends : (work.orLate late left).CanEnd meantime value t s) :
    work.CanEnd meantime value t s := by
  induction work generalizing left s with
  | done answer => exact hends
  | act update next ih => exact ih s hends
  | wait pause next ih =>
      simp only [orLate] at hends
      split at hends
      · obtain ⟨wake, elapsed, u, hu, hends⟩ := hends
        exact ⟨wake, elapsed, u, hu, ih wake elapsed hends⟩
      · obtain ⟨wake, elapsed, u, hu, hends⟩ := hends
        cases wake with
        | due => exact absurd hends.1.symm hvalue
        | ready =>
            have hafter := hmeantime.after pause left .ready elapsed s u (by decide) hu
            exact ⟨.ready, elapsed, u, hafter, ih .ready elapsed hends⟩
        | cancelled =>
            have hafter := hmeantime.after pause left .cancelled elapsed s u (by decide) hu
            exact ⟨.cancelled, elapsed, u, hafter, ih .cancelled elapsed hends⟩

/-- Work that could be called off and was not ends as it does where it cannot be. -/
theorem CanEnd.of_orCancelled (hmeantime : meantime.IsIndifferent) {instead : α}
    (hvalue : value ≠ instead) {work : Activity σ α}
    (hends : (work.orCancelled instead).CanEnd meantime value t s) :
    work.CanEnd meantime value t s := by
  induction work generalizing s with
  | done answer => exact hends
  | act update next ih => exact ih s hends
  | wait pause next ih =>
      simp only [orCancelled] at hends
      obtain ⟨wake, elapsed, u, hu, hends⟩ := hends
      cases wake with
      | cancelled => exact absurd hends.1.symm hvalue
      | due =>
          have hheeds := hmeantime.heeds pause .due elapsed s u (by decide) hu
          exact ⟨.due, elapsed, u, hheeds, ih .due elapsed hends⟩
      | ready =>
          have hheeds := hmeantime.heeds pause .ready elapsed s u (by decide) hu
          exact ⟨.ready, elapsed, u, hheeds, ih .ready elapsed hends⟩

/-- The answer of an execution is one that the work may have. -/
theorem Yields.of_canEnd {good : α → Prop} {work : Activity σ α} (hwork : work.Yields good)
    (hends : work.CanEnd meantime value t s) : good value := by
  induction work generalizing s with
  | done answer =>
      obtain ⟨rfl, -⟩ := hends
      exact hwork
  | act update next ih => exact ih s (hwork s) hends
  | wait pause next ih =>
      obtain ⟨wake, elapsed, u, -, hends⟩ := hends
      exact ih wake elapsed (hwork wake elapsed) hends

/-- An execution of work on a part of a state is one on that part. -/
theorem CanEnd.of_within {outer : Meantime τ} {get : τ → σ} {set : σ → τ → τ}
    (hmeantime : ∀ (pause : Pause σ) wake elapsed t u,
      outer ⟨pause.after, fun t => pause.ready (get t), pause.heeds⟩ wake elapsed t u →
        meantime pause wake elapsed (get t) (get u))
    (hset : ∀ s t, get (set s t) = s) {work : Activity σ α} {t u : τ}
    (hends : (within get set work).CanEnd outer value u t) :
    work.CanEnd meantime value (get u) (get t) := by
  induction work generalizing t with
  | done answer =>
      obtain ⟨rfl, rfl⟩ := hends
      exact ⟨rfl, rfl⟩
  | act update next ih =>
      have hnext := ih (get t) hends
      rwa [hset] at hnext
  | wait pause next ih =>
      obtain ⟨wake, elapsed, v, hv, hends⟩ := hends
      exact ⟨wake, elapsed, get v, hmeantime pause wake elapsed t v hv, ih wake elapsed hends⟩

/-- An execution of work is one of the same work on a part of a state. -/
theorem CanEnd.within {inner : Meantime σ} {outer : Meantime τ}
    (get : τ → σ) (set : σ → τ → τ) (hget : ∀ s t, get (set s t) = s)
    (hset : ∀ s s' t, set s (set s' t) = set s t) (hsame : ∀ t, set (get t) t = t)
    (hmeantime : ∀ (pause : Pause σ) wake elapsed t u, inner pause wake elapsed (get t) u →
      outer ⟨pause.after, fun t => pause.ready (get t), pause.heeds⟩ wake elapsed t (set u t))
    {work : Activity σ α} {last : σ} {t : τ}
    (hends : work.CanEnd inner value last (get t)) :
    (Activity.within get set work).CanEnd outer value (set last t) t := by
  induction work generalizing t with
  | done answer =>
      obtain ⟨rfl, rfl⟩ := hends
      exact ⟨rfl, (hsame t).symm⟩
  | act update next ih =>
      have hnext := ih (get t) (t := set (update (get t)) t) (by rw [hget]; exact hends)
      rwa [hset] at hnext
  | wait pause next ih =>
      obtain ⟨wake, elapsed, u, hu, hends⟩ := hends
      have hnext := ih wake elapsed (t := set u t) (by rw [hget]; exact hends)
      rw [hset] at hnext
      exact ⟨wake, elapsed, set u t, hmeantime pause wake elapsed t u hu, hnext⟩

/-- An execution of work with notes is one on the notes and the state, where nobody else changes the
notes. -/
theorem CanEnd.of_withNotes {inner : Meantime (τ × σ)}
    (hmeantime : ∀ (pause : Pause (τ × σ)) wake elapsed notes s t,
      meantime ⟨pause.after, fun s => pause.ready (notes, s), pause.heeds⟩ wake elapsed s t →
        inner pause wake elapsed (notes, s) (notes, t))
    {work : Activity (τ × σ) α} {notes : τ} {value : α × τ}
    (hends : (work.withNotes notes).CanEnd meantime value t s) :
    work.CanEnd inner value.1 (value.2, t) (notes, s) := by
  induction work generalizing notes s with
  | done answer =>
      obtain ⟨rfl, rfl⟩ := hends
      exact ⟨rfl, rfl⟩
  | act update next ih => exact ih (notes, s) hends
  | wait pause next ih =>
      obtain ⟨wake, elapsed, u, hu, hends⟩ := hends
      exact ⟨wake, elapsed, (notes, u), hmeantime pause wake elapsed notes s u hu,
        ih wake elapsed hends⟩

end

/-! ## Runs are executions -/

/-- What ends a wait first is an end that the wait can have. -/
theorem endsBy_of_firstWake {pause : Pause σ} {cancelIn : Option Nat} {s : σ} {wake : Wake}
    {elapsed : Nat} (hwake : firstWake pause cancelIn s = some (wake, elapsed)) :
    pause.endsBy wake elapsed s = true := by
  have heeds_of_some {moment : Nat}
      (hcancel : (if pause.heeds then cancelIn else none) = some moment) : pause.heeds = true := by
    cases hheeds : pause.heeds with
    | true => rfl
    | false => simp [hheeds] at hcancel
  unfold firstWake at hwake
  split at hwake
  · rename_i hready
    cases hwake
    exact hready
  · split at hwake
    · cases hwake
    · rename_i hafter hcancel
      cases hwake
      simp [Pause.endsBy, hafter]
    · rename_i hafter hcancel
      cases hwake
      exact heeds_of_some hcancel
    · rename_i hafter hcancel
      split at hwake
      · cases hwake
        exact heeds_of_some hcancel
      · cases hwake
        simp [Pause.endsBy, hafter]

/-- Work that runs by itself goes through one of its executions. -/
theorem canEnd_of_run {meantime : Meantime σ}
    (hidle : ∀ (pause : Pause σ) wake elapsed s, pause.endsBy wake elapsed s = true →
      meantime pause wake elapsed s s)
    {work : Activity σ α} {cancelAt : Option Nat} {clock later : Nat} {s t : σ} {value : α}
    (hrun : work.run cancelAt clock s = some (value, later, t)) :
    work.CanEnd meantime value t s := by
  induction work generalizing clock s with
  | done answer =>
      cases hrun
      exact ⟨rfl, rfl⟩
  | act update next ih => exact ih s hrun
  | wait pause next ih =>
      simp only [run] at hrun
      split at hrun
      · cases hrun
      · rename_i wake elapsed hwake
        exact ⟨wake, elapsed, s, hidle pause wake elapsed s (endsBy_of_firstWake hwake),
          ih wake elapsed hrun⟩

/-- The executions of work that is left to itself are its runs. -/
theorem canEnd_idle_iff {work : Activity σ α} {s t : σ} {value : α} (clock : Nat) :
    work.CanEnd Meantime.idle value t s ↔
      ∃ later, work.run none clock s = some (value, later, t) := by
  induction work generalizing clock s with
  | done answer =>
      constructor
      · rintro ⟨rfl, rfl⟩
        exact ⟨clock, rfl⟩
      · rintro ⟨later, hrun⟩
        cases hrun
        exact ⟨rfl, rfl⟩
  | act update next ih => exact ih s clock
  | wait pause next ih =>
      constructor
      · rintro ⟨wake, elapsed, u, ⟨hwake, rfl⟩, hends⟩
        obtain ⟨later, hrun⟩ := (ih wake elapsed (clock + elapsed)).mp hends
        refine ⟨later, ?_⟩
        simp only [run, Option.map_none, hwake, hrun]
      · rintro ⟨later, hrun⟩
        simp only [run, Option.map_none] at hrun
        split at hrun
        · cases hrun
        · rename_i wake elapsed hwake
          exact ⟨wake, elapsed, s, ⟨hwake, rfl⟩,
            (ih wake elapsed (clock + elapsed)).mpr ⟨later, hrun⟩⟩

/-! ## Noting how waits end -/

/-- Work that makes a note of the end of each of its waits. -/
def noting (note : Wake → Nat → σ → σ) : Activity σ α → Activity σ α
  | done value => done value
  | act update next => act update fun s => (next s).noting note
  | wait pause next => wait pause fun wake elapsed =>
      act (note wake elapsed) fun _ => (next wake elapsed).noting note

/-- An execution of work that notes how its waits end is one of the work in which others make these
notes. -/
theorem canEnd_noting {meantime : Meantime σ} {note : Wake → Nat → σ → σ} {work : Activity σ α}
    {s t : σ} {value : α} :
    (work.noting note).CanEnd meantime value t s ↔
      work.CanEnd (fun pause wake elapsed s t =>
        ∃ u, meantime pause wake elapsed s u ∧ note wake elapsed u = t) value t s := by
  induction work generalizing s with
  | done answer => exact Iff.rfl
  | act update next ih => exact ih s
  | wait pause next ih =>
      constructor
      · rintro ⟨wake, elapsed, u, hu, hends⟩
        exact ⟨wake, elapsed, _, ⟨u, hu, rfl⟩, (ih wake elapsed).mp hends⟩
      · rintro ⟨wake, elapsed, -, ⟨u, hu, rfl⟩, hends⟩
        exact ⟨wake, elapsed, u, hu, (ih wake elapsed).mpr hends⟩

end Activity

namespace Attempt

variable {meantime : Meantime σ} {s t : σ}

/-- An attempt after another one is the end where the first one fails. -/
theorem canEnd_bind {first : Attempt σ α} {andThen : α → Attempt σ β} {outcome : Outcome β} :
    (first >>= andThen).run.CanEnd meantime outcome t s ↔
      (∃ cause, first.run.CanEnd meantime (.error cause) t s ∧ outcome = .error cause) ∨
        ∃ a u, first.run.CanEnd meantime (.ok a) u s ∧
          (andThen a).run.CanEnd meantime outcome t u := by
  refine Activity.canEnd_bind.trans ?_
  constructor
  · rintro ⟨answer, u, hfirst, hthen⟩
    cases answer with
    | error cause =>
        obtain ⟨rfl, rfl⟩ := hthen
        exact .inl ⟨cause, hfirst, rfl⟩
    | ok a => exact .inr ⟨a, u, hfirst, hthen⟩
  · rintro (⟨cause, hfirst, rfl⟩ | ⟨a, u, hfirst, hthen⟩)
    · exact ⟨.error cause, t, hfirst, rfl, rfl⟩
    · exact ⟨.ok a, u, hfirst, hthen⟩

/-- An attempt after another one succeeds where both do. -/
theorem canEnd_bind_ok {first : Attempt σ α} {andThen : α → Attempt σ β} {b : β} :
    (first >>= andThen).run.CanEnd meantime (.ok b) t s ↔
      ∃ a u, first.run.CanEnd meantime (.ok a) u s ∧
        (andThen a).run.CanEnd meantime (.ok b) t u := by
  refine canEnd_bind.trans ?_
  constructor
  · rintro (⟨cause, -, hcause⟩ | hends)
    · cases hcause
    · exact hends
  · exact .inr

/-- Work that cannot fail, before an attempt. -/
theorem canEnd_bind_ofActivity {work : Activity σ α} {andThen : α → Attempt σ β}
    {outcome : Outcome β} :
    (ofActivity work >>= andThen).run.CanEnd meantime outcome t s ↔
      ∃ a u, work.CanEnd meantime a u s ∧ (andThen a).run.CanEnd meantime outcome t u := by
  rw [run_bind_ofActivity]
  exact Activity.canEnd_bind

/-- An attempt is followed by the rest where it succeeds. -/
theorem canEnd_bind_of_ok {first : Attempt σ α} {andThen : α → Attempt σ β} {a : α} {u : σ}
    {outcome : Outcome β} (hfirst : first.run.CanEnd meantime (.ok a) u s)
    (hthen : (andThen a).run.CanEnd meantime outcome t u) :
    (first >>= andThen).run.CanEnd meantime outcome t s :=
  canEnd_bind.mpr (.inr ⟨a, u, hfirst, hthen⟩)

/-- Work that cannot fail is followed by the rest. -/
theorem canEnd_bind_of_done {work : Activity σ α} {andThen : α → Attempt σ β} {a : α} {u : σ}
    {outcome : Outcome β} (hwork : work.CanEnd meantime a u s)
    (hthen : (andThen a).run.CanEnd meantime outcome t u) :
    (ofActivity work >>= andThen).run.CanEnd meantime outcome t s :=
  canEnd_bind_ofActivity.mpr ⟨a, u, hwork, hthen⟩

/-- An attempt that succeeds in time succeeds without a deadline. -/
theorem canEnd_of_timeout? (hmeantime : meantime.IsIndifferent) {attempt : Attempt σ α}
    {limit : Option Nat} {a : α}
    (hends : (attempt.timeout? limit).run.CanEnd meantime (.ok a) t s) :
    attempt.run.CanEnd meantime (.ok a) t s := by
  cases limit with
  | none => exact hends
  | some limit =>
      apply Activity.CanEnd.of_orLate hmeantime _ hends
      exact nofun

theorem canEnd_of_cancellable (hmeantime : meantime.IsIndifferent) {attempt : Attempt σ α}
    {what : String} {a : α}
    (hends : (attempt.cancellable what).run.CanEnd meantime (.ok a) t s) :
    attempt.run.CanEnd meantime (.ok a) t s := by
  apply Activity.CanEnd.of_orCancelled hmeantime _ hends
  exact nofun

end Attempt

end SiteWatch
