/-
# Moments of activities

Where some work can be while it is done, and not only where it ends: an execution may be stuck in a
wait that nothing ends, and what it did until then is done. A moment of work after other work is one
of the first, or one of the second from where the first has ended.

Work that adds things to a list one after another is told by the list of what it adds: at every
moment some first ones of them are there, and all of them once it has ended well.
-/

import SiteWatch.Proofs.Execution

namespace SiteWatch

variable {σ τ ι α β : Type}

namespace Activity

/-- Some work, begun in a state, can come to a moment at which the state is the given one. -/
def CanReach (meantime : Meantime σ) (moment : σ) : Activity σ α → σ → Prop
  | done _, s => s = moment
  | act update next, s => s = moment ∨ (next s).CanReach meantime moment (update s)
  | wait pause next, s => s = moment ∨ ∃ wake elapsed t, meantime pause wake elapsed s t ∧
      (next wake elapsed).CanReach meantime moment t

section

variable {meantime : Meantime σ} {s t : σ}

theorem canReach_start (work : Activity σ α) : work.CanReach meantime s s := by
  cases work with
  | done value => rfl
  | act update next => exact .inl rfl
  | wait pause next => exact .inl rfl

/-- The end is a moment. -/
theorem CanEnd.canReach {work : Activity σ α} {value : α}
    (hends : work.CanEnd meantime value t s) : work.CanReach meantime t s := by
  induction work generalizing s with
  | done answer => exact hends.2
  | act update next ih => exact .inr (ih s hends)
  | wait pause next ih =>
      obtain ⟨wake, elapsed, u, hu, hends⟩ := hends
      exact .inr ⟨wake, elapsed, u, hu, ih wake elapsed hends⟩

theorem canReach_bind {first : Activity σ α} {andThen : α → Activity σ β} :
    (first.bind andThen).CanReach meantime t s ↔
      first.CanReach meantime t s ∨
        ∃ a u, first.CanEnd meantime a u s ∧ (andThen a).CanReach meantime t u := by
  induction first generalizing s with
  | done answer =>
      constructor
      · exact fun hreaches => .inr ⟨answer, s, ⟨rfl, rfl⟩, hreaches⟩
      · rintro (rfl | ⟨a, u, ⟨rfl, rfl⟩, hreaches⟩)
        · exact canReach_start _
        · exact hreaches
  | act update next ih =>
      constructor
      · rintro (rfl | hreaches)
        · exact .inl (.inl rfl)
        · exact ((ih s).mp hreaches).imp .inr id
      · rintro ((rfl | hreaches) | hthen)
        · exact .inl rfl
        · exact .inr ((ih s).mpr (.inl hreaches))
        · exact .inr ((ih s).mpr (.inr hthen))
  | wait pause next ih =>
      constructor
      · rintro (rfl | ⟨wake, elapsed, u, hu, hreaches⟩)
        · exact .inl (.inl rfl)
        · rcases (ih wake elapsed).mp hreaches with hfirst | ⟨a, v, hends, hthen⟩
          · exact .inl (.inr ⟨wake, elapsed, u, hu, hfirst⟩)
          · exact .inr ⟨a, v, ⟨wake, elapsed, u, hu, hends⟩, hthen⟩
      · rintro ((rfl | ⟨wake, elapsed, u, hu, hfirst⟩) | ⟨a, v, ⟨wake, elapsed, u, hu, hends⟩, hthen⟩)
        · exact .inl rfl
        · exact .inr ⟨wake, elapsed, u, hu, (ih wake elapsed).mpr (.inl hfirst)⟩
        · exact .inr ⟨wake, elapsed, u, hu, (ih wake elapsed).mpr (.inr ⟨a, v, hends, hthen⟩)⟩

/-- A moment of work on a part of a state is one on that part. -/
theorem CanReach.of_within {outer : Meantime τ} {get : τ → σ} {set : σ → τ → τ}
    (hmeantime : ∀ (pause : Pause σ) wake elapsed t u,
      outer ⟨pause.after, fun t => pause.ready (get t), pause.heeds⟩ wake elapsed t u →
        meantime pause wake elapsed (get t) (get u))
    (hset : ∀ s t, get (set s t) = s) {work : Activity σ α} {t u : τ}
    (hreaches : (within get set work).CanReach outer u t) :
    work.CanReach meantime (get u) (get t) := by
  induction work generalizing t with
  | done answer => exact congrArg get hreaches
  | act update next ih =>
      rcases hreaches with rfl | hreaches
      · exact .inl rfl
      · have hnext := ih (get t) hreaches
        rw [hset] at hnext
        exact .inr hnext
  | wait pause next ih =>
      rcases hreaches with rfl | ⟨wake, elapsed, v, hv, hreaches⟩
      · exact .inl rfl
      · exact .inr ⟨wake, elapsed, get v, hmeantime pause wake elapsed t v hv,
          ih wake elapsed hreaches⟩

/-- At every moment of work with notes there are some notes beside the state. -/
theorem CanReach.of_withNotes {inner : Meantime (τ × σ)}
    (hmeantime : ∀ (pause : Pause (τ × σ)) wake elapsed notes s t,
      meantime ⟨pause.after, fun s => pause.ready (notes, s), pause.heeds⟩ wake elapsed s t →
        inner pause wake elapsed (notes, s) (notes, t))
    {work : Activity (τ × σ) α} {notes : τ}
    (hreaches : (work.withNotes notes).CanReach meantime t s) :
    ∃ later, work.CanReach inner (later, t) (notes, s) := by
  induction work generalizing notes s with
  | done answer => exact ⟨notes, congrArg (notes, ·) hreaches⟩
  | act update next ih =>
      rcases hreaches with rfl | hreaches
      · exact ⟨notes, .inl rfl⟩
      · obtain ⟨later, hnext⟩ := ih (notes, s) hreaches
        exact ⟨later, .inr hnext⟩
  | wait pause next ih =>
      rcases hreaches with rfl | ⟨wake, elapsed, u, hu, hreaches⟩
      · exact ⟨notes, .inl rfl⟩
      · obtain ⟨later, hnext⟩ := ih wake elapsed hreaches
        exact ⟨later, .inr ⟨wake, elapsed, (notes, u),
          hmeantime pause wake elapsed notes s u hu, hnext⟩⟩

end

/-! ## What shows of a state that nobody else touches -/

section

variable {meantime : Meantime σ} {view : σ → τ} {s t : σ}
  (hleaves : ∀ pause wake elapsed s t, meantime pause wake elapsed s t → view t = view s)

include hleaves

theorem Keeps.view_eq_of_canReach {work : Activity σ α} (hkeeps : work.Keeps view)
    (hreaches : work.CanReach meantime t s) : view t = view s := by
  induction work generalizing s with
  | done answer => exact congrArg view hreaches.symm
  | act update next ih =>
      rcases hreaches with rfl | hreaches
      · rfl
      · exact (ih s (hkeeps.2 s) hreaches).trans (hkeeps.1 s)
  | wait pause next ih =>
      rcases hreaches with rfl | ⟨wake, elapsed, u, hu, hreaches⟩
      · rfl
      · exact (ih wake elapsed (hkeeps wake elapsed) hreaches).trans (hleaves _ _ _ _ _ hu)

variable (hmeantime : meantime.IsIndifferent)

include hmeantime

/-- Nothing shows under a deadline that does not show without one. -/
theorem CanReach.of_orLate {late : α} {work : Activity σ α} {left : Nat}
    (hreaches : (work.orLate late left).CanReach meantime t s) :
    ∃ u, work.CanReach meantime u s ∧ view t = view u := by
  induction work generalizing left s with
  | done answer => exact ⟨t, hreaches, rfl⟩
  | act update next ih =>
      rcases hreaches with rfl | hreaches
      · exact ⟨s, .inl rfl, rfl⟩
      · obtain ⟨u, hnext, hview⟩ := ih s hreaches
        exact ⟨u, .inr hnext, hview⟩
  | wait pause next ih =>
      simp only [orLate] at hreaches
      split at hreaches
      · rcases hreaches with rfl | ⟨wake, elapsed, v, hv, hreaches⟩
        · exact ⟨s, .inl rfl, rfl⟩
        · obtain ⟨u, hnext, hview⟩ := ih wake elapsed hreaches
          exact ⟨u, .inr ⟨wake, elapsed, v, hv, hnext⟩, hview⟩
      · rcases hreaches with rfl | ⟨wake, elapsed, v, hv, hreaches⟩
        · exact ⟨s, .inl rfl, rfl⟩
        -- a wait that is cut short by the deadline leaves the state as it was when the wait began
        · cases wake with
          | due => exact ⟨s, .inl rfl, hreaches ▸ hleaves _ _ _ _ _ hv⟩
          | ready =>
              obtain ⟨u, hnext, hview⟩ := ih .ready elapsed hreaches
              have hafter := hmeantime.after pause left .ready elapsed s v (by decide) hv
              exact ⟨u, .inr ⟨.ready, elapsed, v, hafter, hnext⟩, hview⟩
          | cancelled =>
              obtain ⟨u, hnext, hview⟩ := ih .cancelled elapsed hreaches
              have hafter := hmeantime.after pause left .cancelled elapsed s v (by decide) hv
              exact ⟨u, .inr ⟨.cancelled, elapsed, v, hafter, hnext⟩, hview⟩

/-- Nothing shows of work that can be called off that does not show of work that cannot. -/
theorem CanReach.of_orCancelled {instead : α} {work : Activity σ α}
    (hreaches : (work.orCancelled instead).CanReach meantime t s) :
    ∃ u, work.CanReach meantime u s ∧ view t = view u := by
  induction work generalizing s with
  | done answer => exact ⟨t, hreaches, rfl⟩
  | act update next ih =>
      rcases hreaches with rfl | hreaches
      · exact ⟨s, .inl rfl, rfl⟩
      · obtain ⟨u, hnext, hview⟩ := ih s hreaches
        exact ⟨u, .inr hnext, hview⟩
  | wait pause next ih =>
      simp only [orCancelled] at hreaches
      rcases hreaches with rfl | ⟨wake, elapsed, v, hv, hreaches⟩
      · exact ⟨s, .inl rfl, rfl⟩
      · cases wake with
        | cancelled => exact ⟨s, .inl rfl, hreaches ▸ hleaves _ _ _ _ _ hv⟩
        | due =>
            obtain ⟨u, hnext, hview⟩ := ih .due elapsed hreaches
            have hheeds := hmeantime.heeds pause .due elapsed s v (by decide) hv
            exact ⟨u, .inr ⟨.due, elapsed, v, hheeds, hnext⟩, hview⟩
        | ready =>
            obtain ⟨u, hnext, hview⟩ := ih .ready elapsed hreaches
            have hheeds := hmeantime.heeds pause .ready elapsed s v (by decide) hv
            exact ⟨u, .inr ⟨.ready, elapsed, v, hheeds, hnext⟩, hview⟩

end

/-! ## Work that adds to a list -/

/-- Work that adds some items to a list, in order: at every moment some first ones of them have been
added, and all of them when it has ended with a good answer. -/
structure Adds (meantime : Meantime σ) (list : σ → List ι) (good : α → Prop) (items : List ι)
    (work : Activity σ α) : Prop where
  partly : ∀ {s t}, work.CanReach meantime t s →
    ∃ added, added <+: items ∧ list t = list s ++ added
  wholly : ∀ {s t a}, good a → work.CanEnd meantime a t s → list t = list s ++ items

section

variable {meantime : Meantime σ} {list : σ → List ι} {good : α → Prop} {items : List ι}
  (hleaves : ∀ pause wake elapsed s t, meantime pause wake elapsed s t → list t = list s)

include hleaves

theorem Keeps.adds (good : α → Prop) {work : Activity σ α} (hkeeps : work.Keeps list) :
    work.Adds meantime list good [] where
  partly hreaches :=
    ⟨[], List.prefix_rfl, by rw [hkeeps.view_eq_of_canReach hleaves hreaches, List.append_nil]⟩
  wholly _ hends := by rw [hkeeps.view_eq hleaves hends, List.append_nil]

/-- One item is added at once, and nothing later. -/
theorem adds_act {item : ι} {update : σ → σ} {next : σ → Activity σ α}
    (hupdate : ∀ s, list (update s) = list s ++ [item]) (hnext : ∀ s, (next s).Keeps list)
    (good : α → Prop) : (act update next).Adds meantime list good [item] where
  partly := by
    rintro s t (rfl | hreaches)
    · exact ⟨[], List.nil_prefix, (List.append_nil _).symm⟩
    · exact ⟨[item], List.prefix_rfl,
        ((hnext s).view_eq_of_canReach hleaves hreaches).trans (hupdate s)⟩
  wholly {s} _ _ _ hends := ((hnext s).view_eq hleaves hends).trans (hupdate s)

variable (hmeantime : meantime.IsIndifferent)

include hmeantime

theorem Adds.orLate {work : Activity σ α} (hwork : work.Adds meantime list good items) {late : α}
    (hlate : ¬ good late) (left : Nat) :
    (work.orLate late left).Adds meantime list good items where
  partly hreaches := by
    obtain ⟨u, hreaches, hlist⟩ := hreaches.of_orLate hleaves hmeantime
    rw [hlist]
    exact hwork.partly hreaches
  wholly hgood hends := by
    refine hwork.wholly hgood (hends.of_orLate hmeantime ?_)
    rintro rfl
    exact hlate hgood

theorem Adds.orCancelled {work : Activity σ α} (hwork : work.Adds meantime list good items)
    {instead : α} (hinstead : ¬ good instead) :
    (work.orCancelled instead).Adds meantime list good items where
  partly hreaches := by
    obtain ⟨u, hreaches, hlist⟩ := hreaches.of_orCancelled hleaves hmeantime
    rw [hlist]
    exact hwork.partly hreaches
  wholly hgood hends := by
    refine hwork.wholly hgood (hends.of_orCancelled hmeantime ?_)
    rintro rfl
    exact hinstead hgood

omit hmeantime

/-- What comes after work that has ended well adds its items behind those of that work; what comes
after work that has not ended well adds nothing, and does not end well either. -/
theorem Adds.bind_of_yields {possible : α → Prop} {better : β → Prop} {more : List ι}
    {first : Activity σ α} {andThen : α → Activity σ β}
    (hfirst : first.Adds meantime list good items) (hyields : first.Yields possible)
    (hthen : ∀ a, possible a → good a → (andThen a).Adds meantime list better more)
    (hbad : ∀ a, ¬ good a → (andThen a).Keeps list ∧ (andThen a).Yields fun b => ¬ better b) :
    (first.bind andThen).Adds meantime list better (items ++ more) where
  partly {s t} hreaches := by
    rcases canReach_bind.mp hreaches with hreaches | ⟨a, u, hends, hreaches⟩
    · obtain ⟨added, hadded, hlist⟩ := hfirst.partly hreaches
      exact ⟨added, hadded.trans (List.prefix_append _ _), hlist⟩
    by_cases hgood : good a
    · obtain ⟨added, hadded, hlist⟩ :=
        (hthen a (hyields.of_canEnd hends) hgood).partly hreaches
      refine ⟨items ++ added, (List.prefix_append_right_inj items).mpr hadded, ?_⟩
      rw [hlist, hfirst.wholly hgood hends, List.append_assoc]
    · obtain ⟨added, hadded, hlist⟩ := hfirst.partly hends.canReach
      refine ⟨added, hadded.trans (List.prefix_append _ _), ?_⟩
      rw [(hbad a hgood).1.view_eq_of_canReach hleaves hreaches, hlist]
  wholly {s t b} hbetter hends := by
    obtain ⟨a, u, hends, hafter⟩ := canEnd_bind.mp hends
    by_cases hgood : good a
    · rw [(hthen a (hyields.of_canEnd hends) hgood).wholly hbetter hafter,
        hfirst.wholly hgood hends, List.append_assoc]
    · exact absurd hbetter ((hbad a hgood).2.of_canEnd hafter)

theorem Adds.bind {better : β → Prop} {more : List ι} {first : Activity σ α}
    {andThen : α → Activity σ β} (hfirst : first.Adds meantime list good items)
    (hthen : ∀ a, good a → (andThen a).Adds meantime list better more)
    (hbad : ∀ a, ¬ good a → (andThen a).Keeps list ∧ (andThen a).Yields fun b => ¬ better b) :
    (first.bind andThen).Adds meantime list better (items ++ more) :=
  hfirst.bind_of_yields hleaves (yields_true first) (fun a _ => hthen a) hbad

end

/-- Work on a part of a state adds what it adds on that part. -/
theorem Adds.within {inner : Meantime σ} {outer : Meantime τ} {list : σ → List ι} {good : α → Prop}
    {items : List ι} {get : τ → σ} {set : σ → τ → τ}
    (hmeantime : ∀ (pause : Pause σ) wake elapsed t u,
      outer ⟨pause.after, fun t => pause.ready (get t), pause.heeds⟩ wake elapsed t u →
        inner pause wake elapsed (get t) (get u))
    (hset : ∀ s t, get (set s t) = s) {work : Activity σ α}
    (hwork : work.Adds inner list good items) :
    (within get set work).Adds outer (fun t => list (get t)) good items where
  partly hreaches := hwork.partly (hreaches.of_within hmeantime hset)
  wholly hgood hends := hwork.wholly hgood (hends.of_within hmeantime hset)

end Activity

namespace Attempt

/-- An attempt that adds some items to a list, in order, and has added all of them when it succeeds.
-/
def Adds (meantime : Meantime σ) (list : σ → List ι) (items : List ι) (attempt : Attempt σ α) :
    Prop :=
  attempt.run.Adds meantime list (fun outcome => outcome.toBool = true) items

section

variable {meantime : Meantime σ} {s t : σ}

/-- A moment of an attempt after another one is one of the first, or, where that succeeds, one of the
second. -/
theorem canReach_bind {first : Attempt σ α} {andThen : α → Attempt σ β}
    (hreaches : (first >>= andThen).run.CanReach meantime t s) :
    first.run.CanReach meantime t s ∨
      ∃ a u, first.run.CanEnd meantime (.ok a) u s ∧
        (andThen a).run.CanReach meantime t u := by
  rcases Activity.canReach_bind.mp hreaches with hreaches | ⟨cause | a, u, hends, hreaches⟩
  · exact .inl hreaches
  · obtain rfl : u = t := hreaches
    exact .inl hends.canReach
  · exact .inr ⟨a, u, hends, hreaches⟩

theorem canReach_bind_ofActivity {work : Activity σ α} {andThen : α → Attempt σ β}
    (hreaches : (ofActivity work >>= andThen).run.CanReach meantime t s) :
    work.CanReach meantime t s ∨
      ∃ a u, work.CanEnd meantime a u s ∧ (andThen a).run.CanReach meantime t u := by
  rw [run_bind_ofActivity] at hreaches
  exact Activity.canReach_bind.mp hreaches

end

variable {meantime : Meantime σ} {list : σ → List ι} {items more : List ι}
  (hleaves : ∀ pause wake elapsed s t, meantime pause wake elapsed s t → list t = list s)

include hleaves

theorem Keeps.adds {attempt : Attempt σ α} (hkeeps : Keeps list attempt) :
    Adds meantime list [] attempt :=
  Activity.Keeps.adds hleaves _ hkeeps

theorem adds_bind_of_yields {possible : α → Prop} {first : Attempt σ α}
    {andThen : α → Attempt σ β} (hfirst : Adds meantime list items first)
    (hyields : first.run.Yields fun outcome => ∀ a, outcome = .ok a → possible a)
    (hthen : ∀ a, possible a → Adds meantime list more (andThen a)) :
    Adds meantime list (items ++ more) (first >>= andThen) := by
  refine Activity.Adds.bind_of_yields hleaves hfirst hyields ?_ ?_
  · rintro (cause | a) hpossible hgood
    · cases hgood
    · exact hthen a (hpossible a rfl)
  · rintro (cause | a) hbad
    · exact ⟨trivial, hbad⟩
    · exact absurd rfl hbad

theorem adds_bind {first : Attempt σ α} {andThen : α → Attempt σ β}
    (hfirst : Adds meantime list items first)
    (hthen : ∀ a, Adds meantime list more (andThen a)) :
    Adds meantime list (items ++ more) (first >>= andThen) := by
  have hyields : first.run.Yields fun outcome => ∀ a, outcome = .ok a → True := by
    simpa using Activity.yields_true first.run
  exact adds_bind_of_yields hleaves hfirst hyields fun a _ => hthen a

/-- What is done about the outcome of an attempt adds nothing, and does not turn a failure into a
success. -/
theorem adds_bind_of_outcome {first : Attempt σ α} {andThen : Outcome α → Attempt σ β}
    (hfirst : Adds meantime list items first) (hkeeps : ∀ outcome, Keeps list (andThen outcome))
    (hfails : ∀ cause, (andThen (.error cause)).run.Yields fun outcome => ¬ outcome.toBool = true) :
    Adds meantime list items (ofActivity first.run >>= andThen) := by
  unfold Adds
  rw [run_bind_ofActivity, ← List.append_nil items]
  refine Activity.Adds.bind hleaves hfirst ?_ ?_
  · exact fun outcome _ => (hkeeps outcome).adds hleaves
  · rintro (cause | a) hbad
    · exact ⟨hkeeps _, hfails cause⟩
    · exact absurd rfl hbad

variable (hmeantime : meantime.IsIndifferent)

include hmeantime

theorem adds_timeout? {attempt : Attempt σ α} (hattempt : Adds meantime list items attempt)
    (limit : Option Nat) : Adds meantime list items (attempt.timeout? limit) := by
  cases limit with
  | none => exact hattempt
  | some limit => exact Activity.Adds.orLate hleaves hmeantime hattempt (by simp [Except.toBool]) limit

theorem adds_cancellable {attempt : Attempt σ α} (hattempt : Adds meantime list items attempt)
    (what : String) : Adds meantime list items (attempt.cancellable what) :=
  Activity.Adds.orCancelled hleaves hmeantime hattempt (by simp [Except.toBool])

end Attempt

end SiteWatch
