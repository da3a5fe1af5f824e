/-
# Laws of activities

What an activity does to the state, whatever ends its waits. An activity is a well-founded tree, so
every law is an induction on that tree with one case for the end, one for a change and one for a
wait.

There are three ways to look at an activity. It may leave a part of the state alone, whatever
happens; it may always end in a certain way, though others change the state while it waits; and it
may be run by itself, so that its end is a function of its beginning.
-/

import SiteWatch.Schedule.Round

namespace SiteWatch

namespace Activity

variable {σ τ α β : Type}

/-! ## Work that leaves a part of the state alone -/

/-- Work that leaves what a view shows of the state as it is. -/
def Keeps (view : σ → τ) : Activity σ α → Prop
  | done _ => True
  | act update next => (∀ s, view (update s) = view s) ∧ ∀ s, (next s).Keeps view
  | wait _ next => ∀ wake elapsed, (next wake elapsed).Keeps view

/-- Work that is gone on with keeps what it keeps. -/
theorem Keeps.resume {view : σ → τ} {work : Activity σ α} (hwork : work.Keeps view)
    (cancelled : Bool) (elapsed : Nat) (s : σ) :
    view (work.resume cancelled elapsed s).2 = view s ∧
      (work.resume cancelled elapsed s).1.Keeps view := by
  induction work generalizing elapsed s with
  | done value => exact ⟨rfl, trivial⟩
  | act update next ih =>
      obtain ⟨hview, hrest⟩ := ih s (hwork.2 s) elapsed (update s)
      exact ⟨hview.trans (hwork.1 s), hrest⟩
  | wait pause next ih =>
      unfold Activity.resume
      split
      · exact ih _ _ (hwork _ _) 0 s
      · exact ⟨rfl, hwork⟩

/-- What leaves a part of the state alone leaves every part of that part alone. -/
theorem Keeps.comp {ρ : Type} {view : σ → τ} {work : Activity σ α} (hwork : work.Keeps view)
    (f : τ → ρ) : work.Keeps fun s => f (view s) := by
  induction work with
  | done value => trivial
  | act update next ih =>
      exact ⟨fun s => congrArg f (hwork.1 s), fun s => ih s (hwork.2 s)⟩
  | wait pause next ih => exact fun wake elapsed => ih wake elapsed (hwork wake elapsed)

/-! The ways to put work together keep what their parts keep. -/

/-- Work all of whose answers are of some kind. -/
def Yields (good : α → Prop) : Activity σ α → Prop
  | done value => good value
  | act _ next => ∀ s, (next s).Yields good
  | wait _ next => ∀ wake elapsed, (next wake elapsed).Yields good

theorem yields_bind {good : α → Prop} {better : β → Prop} {first : Activity σ α}
    {andThen : α → Activity σ β} (hfirst : first.Yields good)
    (hthen : ∀ a, good a → (andThen a).Yields better) : (first.bind andThen).Yields better := by
  induction first with
  | done value => exact hthen value hfirst
  | act update next ih => exact fun s => ih s (hfirst s)
  | wait pause next ih => exact fun wake elapsed => ih wake elapsed (hfirst wake elapsed)

theorem yields_within {good : α → Prop} {get : τ → σ} {set : σ → τ → τ} {work : Activity σ α}
    (hwork : work.Yields good) : (within get set work).Yields good := by
  induction work with
  | done value => exact hwork
  | act update next ih => exact fun t => ih (get t) (hwork (get t))
  | wait pause next ih => exact fun wake elapsed => ih wake elapsed (hwork wake elapsed)

theorem yields_true (work : Activity σ α) : work.Yields fun _ => True := by
  induction work with
  | done value => trivial
  | act update next ih => exact ih
  | wait pause next ih => exact ih

theorem keeps_bind_of_yields {view : σ → τ} {good : α → Prop} {first : Activity σ α}
    {andThen : α → Activity σ β} (hfirst : first.Keeps view) (hgood : first.Yields good)
    (hthen : ∀ a, good a → (andThen a).Keeps view) : (first.bind andThen).Keeps view := by
  induction first with
  | done value => exact hthen value hgood
  | act update next ih => exact ⟨hfirst.1, fun s => ih s (hfirst.2 s) (hgood s)⟩
  | wait pause next ih =>
      exact fun wake elapsed => ih wake elapsed (hfirst wake elapsed) (hgood wake elapsed)

theorem keeps_bind {view : σ → τ} {first : Activity σ α} {andThen : α → Activity σ β}
    (hfirst : first.Keeps view) (hthen : ∀ a, (andThen a).Keeps view) :
    (first.bind andThen).Keeps view :=
  keeps_bind_of_yields hfirst (yields_true first) fun a _ => hthen a

theorem keeps_step {view : σ → τ} {f : σ → α × σ} (hview : ∀ s, view (f s).2 = view s) :
    (step f).Keeps view :=
  ⟨hview, fun _ => trivial⟩

theorem keeps_orLate {view : σ → τ} (late : α) {left : Nat} {work : Activity σ α}
    (hwork : work.Keeps view) : (work.orLate late left).Keeps view := by
  induction work generalizing left with
  | done value => trivial
  | act update next ih => exact ⟨hwork.1, fun s => ih s (hwork.2 s)⟩
  | wait pause next ih =>
      unfold orLate
      dsimp only
      split
      · exact fun wake elapsed => ih wake elapsed (hwork wake elapsed)
      · intro wake elapsed
        cases wake with
        | due => trivial
        | ready | cancelled => exact ih _ elapsed (hwork _ elapsed)

theorem keeps_orCancelled {view : σ → τ} (instead : α) {work : Activity σ α}
    (hwork : work.Keeps view) : (work.orCancelled instead).Keeps view := by
  induction work with
  | done value => trivial
  | act update next ih => exact ⟨hwork.1, fun s => ih s (hwork.2 s)⟩
  | wait pause next ih =>
      unfold orCancelled
      intro wake elapsed
      cases wake with
      | cancelled => trivial
      | due | ready => exact ih _ elapsed (hwork _ elapsed)

/-- Work on a part of a state keeps what it keeps of that part. -/
theorem keeps_within {ρ : Type} {view : τ → ρ} {get : τ → σ} {set : σ → τ → τ}
    {part : σ → ρ} (hpart : ∀ s t, part s = part (get t) → view (set s t) = view t)
    {work : Activity σ α} (hwork : work.Keeps part) : (within get set work).Keeps view := by
  induction work with
  | done value => trivial
  | act update next ih =>
      exact ⟨fun t => hpart _ t (hwork.1 (get t)), fun t => ih (get t) (hwork.2 (get t))⟩
  | wait pause next ih => exact fun wake elapsed => ih wake elapsed (hwork wake elapsed)

/-- Work on a part of a state leaves everything else alone. -/
theorem keeps_within_of_apart {ρ : Type} {view : τ → ρ} {get : τ → σ} {set : σ → τ → τ}
    (hapart : ∀ s t, view (set s t) = view t) (work : Activity σ α) :
    (within get set work).Keeps view := by
  induction work with
  | done value => trivial
  | act update next ih => exact ⟨fun t => hapart _ t, fun t => ih (get t)⟩
  | wait pause next ih => exact fun wake elapsed => ih wake elapsed

/-! ## Work that always ends in a certain way -/

/-- Whatever ends the waits of some work, and whatever of a certain kind others do to the state in
the meantime: if the work ends, it ends like this. -/
def Always (disturbs : σ → σ → Prop) (post : α → σ → Prop) : Activity σ α → σ → Prop
  | done value, s => post value s
  | act update next, s => (next s).Always disturbs post (update s)
  | wait _ next, s => ∀ wake elapsed t, disturbs s t → (next wake elapsed).Always disturbs post t

section

variable {disturbs : σ → σ → Prop} {post : α → σ → Prop} {s : σ}

theorem always_done {value : α} (hpost : post value s) : (done value).Always disturbs post s :=
  hpost

theorem always_act {update : σ → σ} {next : σ → Activity σ α}
    (hnext : (next s).Always disturbs post (update s)) : (act update next).Always disturbs post s :=
  hnext

theorem always_step {f : σ → α × σ} (hpost : post (f s).1 (f s).2) :
    (step f).Always disturbs post s :=
  hpost

theorem Always.mono {weaker : α → σ → Prop} {work : Activity σ α}
    (hwork : work.Always disturbs post s) (hpost : ∀ a t, post a t → weaker a t) :
    work.Always disturbs weaker s := by
  induction work generalizing s with
  | done value => exact hpost value s hwork
  | act update next ih => exact ih s hwork
  | wait pause next ih =>
      exact fun wake elapsed t ht => ih wake elapsed (hwork wake elapsed t ht)

theorem Always.bind {last : β → σ → Prop} {first : Activity σ α} {andThen : α → Activity σ β}
    (hfirst : first.Always disturbs post s)
    (hthen : ∀ a t, post a t → (andThen a).Always disturbs last t) :
    (first.bind andThen).Always disturbs last s := by
  induction first generalizing s with
  | done value => exact hthen value s hfirst
  | act update next ih => exact ih s hfirst
  | wait pause next ih =>
      exact fun wake elapsed t ht => ih wake elapsed (hfirst wake elapsed t ht)

/-- Work that leaves a part of the state alone always ends with it as it was, where others leave it
alone too. -/
theorem Keeps.always {view : σ → τ} (hdisturbs : ∀ s t, disturbs s t → view t = view s)
    {work : Activity σ α} (hwork : work.Keeps view) (s : σ) :
    work.Always disturbs (fun _ t => view t = view s) s := by
  induction work generalizing s with
  | done value => rfl
  | act update next ih =>
      exact (ih s (hwork.2 s) (update s)).mono fun a t ht => ht.trans (hwork.1 s)
  | wait pause next ih =>
      exact fun wake elapsed t hst => (ih wake elapsed (hwork wake elapsed) t).mono
        fun a u hu => hu.trans (hdisturbs s t hst)

/-- Work on a part of a state always ends as it does on that part alone. -/
theorem always_within {around : τ → τ → Prop} {get : τ → σ} {set : σ → τ → τ}
    (haround : ∀ t u, around t u → disturbs (get t) (get u)) (hset : ∀ s t, get (set s t) = s)
    {work : Activity σ α} {t : τ} (hwork : work.Always disturbs post (get t)) :
    (within get set work).Always around (fun a u => post a (get u)) t := by
  induction work generalizing t with
  | done value => exact hwork
  | act update next ih =>
      refine ih (get t) ?_
      rw [hset]
      exact hwork
  | wait pause next ih =>
      exact fun wake elapsed u hu => ih wake elapsed (hwork wake elapsed (get u) (haround t u hu))

/-- Notes are part of the answer in the end; nobody else changes them. -/
theorem always_withNotes {around : τ × σ → τ × σ → Prop}
    (haround : ∀ notes s t, disturbs s t → around (notes, s) (notes, t))
    {ending : α → τ × σ → Prop} {work : Activity (τ × σ) α} {notes : τ}
    (hwork : work.Always around ending (notes, s)) :
    (work.withNotes notes).Always disturbs (fun a t => ending a.1 (a.2, t)) s := by
  induction work generalizing notes s with
  | done value => exact hwork
  | act update next ih => exact ih (notes, s) hwork
  | wait pause next ih =>
      exact fun wake elapsed t ht => ih wake elapsed (hwork wake elapsed _ (haround notes s t ht))

/-- Where it is no disturbance that nothing happens, work that runs by itself ends as it always
does. -/
theorem Always.of_run (hrefl : ∀ s, disturbs s s) {work : Activity σ α} {cancelAt : Option Nat}
    {clock later : Nat} {t : σ} {value : α} (hwork : work.Always disturbs post s)
    (hrun : work.run cancelAt clock s = some (value, later, t)) : post value t := by
  induction work generalizing clock s with
  | done answer =>
      cases hrun
      exact hwork
  | act update next ih => exact ih s hwork hrun
  | wait pause next ih =>
      simp only [run] at hrun
      split at hrun
      · cases hrun
      · rename_i wake elapsed _
        exact ih wake elapsed (hwork wake elapsed s (hrefl s)) hrun

end

-- The laws above say all there is to say; unfolded, a long activity would swamp the unifier.
attribute [irreducible] Always

/-! ## Work that is run by itself -/

theorem bind_assoc {γ : Type} (first : Activity σ α) (andThen : α → Activity σ β)
    (last : β → Activity σ γ) :
    (first.bind andThen).bind last = first.bind fun a => (andThen a).bind last := by
  induction first with
  | done value => rfl
  | act update next ih => exact congrArg (act update) (funext ih)
  | wait pause next ih =>
      exact congrArg (wait pause) (funext fun wake => funext fun elapsed => ih wake elapsed)

theorem within_bind (get : τ → σ) (set : σ → τ → τ) (first : Activity σ α)
    (andThen : α → Activity σ β) :
    within get set (first.bind andThen) =
      (within get set first).bind fun a => within get set (andThen a) := by
  induction first with
  | done value => rfl
  | act update next ih => exact congrArg (act _) (funext fun t => ih (get t))
  | wait pause next ih =>
      exact congrArg (wait _) (funext fun wake => funext fun elapsed => ih wake elapsed)

theorem run_bind (cancelAt : Option Nat) (clock : Nat) (s : σ) (first : Activity σ α)
    (andThen : α → Activity σ β) :
    run cancelAt clock s (first.bind andThen) =
      (run cancelAt clock s first).bind fun (a, clock, s) => run cancelAt clock s (andThen a) := by
  induction first generalizing clock s with
  | done value => rfl
  | act update next ih => exact ih s clock (update s)
  | wait pause next ih =>
      simp only [Activity.bind, run]
      cases firstWake pause (cancelAt.map (· - clock)) s with
      | none => rfl
      | some woken => exact ih woken.1 woken.2 (clock + woken.2) s

theorem isSome_run_bind {cancelAt : Option Nat} {clock : Nat} {s : σ} {first : Activity σ α}
    {andThen : α → Activity σ β} (hfirst : (run cancelAt clock s first).isSome)
    (hthen : ∀ a clock s, (run cancelAt clock s (andThen a)).isSome) :
    (run cancelAt clock s (first.bind andThen)).isSome := by
  obtain ⟨ended, hended⟩ := Option.isSome_iff_exists.mp hfirst
  rw [run_bind, hended]
  exact hthen ended.1 ended.2.1 ended.2.2

/-- A wait with a time comes to an end. -/
theorem isSome_firstWake {pause : Pause σ} (hafter : pause.after.isSome) (cancelIn : Option Nat)
    (s : σ) : (firstWake pause cancelIn s).isSome := by
  obtain ⟨time, htime⟩ := Option.isSome_iff_exists.mp hafter
  unfold firstWake
  rw [htime]
  split
  · rfl
  · split
    · contradiction
    · rfl
    · contradiction
    · split <;> rfl

/-- Work under a deadline comes to an end. -/
theorem isSome_run_orLate (late : α) (left : Nat) (cancelAt : Option Nat) (clock : Nat) (s : σ)
    (work : Activity σ α) : (run cancelAt clock s (work.orLate late left)).isSome := by
  induction work generalizing left clock s with
  | done value => rfl
  | act update next ih => exact ih s left clock (update s)
  | wait pause next ih =>
      simp only [orLate]
      split
      · rename_i htime
        have hafter : pause.after.isSome := by
          cases hpause : pause.after with
          | none => simp [hpause] at htime
          | some time => rfl
        obtain ⟨⟨wake, elapsed⟩, hwoken⟩ := Option.isSome_iff_exists.mp
          (isSome_firstWake hafter (cancelAt.map (· - clock)) s)
        simp only [run, hwoken]
        exact ih wake elapsed _ _ s
      · have hends : (firstWake { pause with after := some left }
            (cancelAt.map (· - clock)) s).isSome := isSome_firstWake rfl _ s
        obtain ⟨⟨wake, elapsed⟩, hwoken⟩ := Option.isSome_iff_exists.mp hends
        simp only [run, hwoken]
        cases wake with
        | due => rfl
        | ready | cancelled => exact ih _ elapsed _ _ s

/-- Work on a part of a state runs as it does on that part alone. -/
theorem run_within {get : τ → σ} {set : σ → τ → τ} (hget : ∀ s t, get (set s t) = s)
    (hset : ∀ s s' t, set s (set s' t) = set s t) (hsame : ∀ t, set (get t) t = t)
    (cancelAt : Option Nat) (clock : Nat) (t : τ) (work : Activity σ α) :
    run cancelAt clock t (within get set work) =
      (run cancelAt clock (get t) work).map fun ended => (ended.1, ended.2.1, set ended.2.2 t) := by
  induction work generalizing clock t with
  | done value => simp [within, run, hsame]
  | act update next ih => simp [within, run, ih, hget, hset]
  | wait pause next ih =>
      have hwake : firstWake ⟨pause.after, fun t => pause.ready (get t), pause.heeds⟩
          (cancelAt.map (· - clock)) t = firstWake pause (cancelAt.map (· - clock)) (get t) := rfl
      simp only [within, run, hwake]
      cases firstWake pause (cancelAt.map (· - clock)) (get t) with
      | none => rfl
      | some woken => exact ih woken.1 woken.2 (clock + woken.2) t

/-- Notes are part of the state, and then of the answer. -/
theorem run_withNotes (cancelAt : Option Nat) (clock : Nat) (notes : τ) (s : σ)
    (work : Activity (τ × σ) α) :
    run cancelAt clock s (work.withNotes notes) =
      (run cancelAt clock (notes, s) work).map fun ended =>
        ((ended.1, ended.2.2.1), ended.2.1, ended.2.2.2) := by
  induction work generalizing clock notes s with
  | done value => rfl
  | act update next ih => exact ih (notes, s) clock _ _
  | wait pause next ih =>
      have hwake : firstWake ⟨pause.after, fun s => pause.ready (notes, s), pause.heeds⟩
          (cancelAt.map (· - clock)) s =
            firstWake pause (cancelAt.map (· - clock)) (notes, s) := rfl
      simp only [withNotes, run, hwake]
      cases firstWake pause (cancelAt.map (· - clock)) (notes, s) with
      | none => rfl
      | some woken => exact ih woken.1 woken.2 (clock + woken.2) notes s

/-- Two pieces of work that, run by themselves from the same state, either both wait forever or come
to ends that are alike. -/
def RunAlike (alike : α × σ → α × σ → Prop) (first second : Activity σ α) : Prop :=
  ∀ cancelAt clock s, Option.Rel (fun x y => alike (x.1, x.2.2) (y.1, y.2.2))
    (run cancelAt clock s first) (run cancelAt clock s second)

theorem runAlike_refl {alike : α × σ → α × σ → Prop} (halike : ∀ x, alike x x)
    (work : Activity σ α) : RunAlike alike work work := by
  intro cancelAt clock s
  cases run cancelAt clock s work with
  | none => exact .none
  | some ended => exact .some (halike _)

/-- Work that is the same up to some point, and alike from there on. -/
theorem runAlike_bind_left {alike : β × σ → β × σ → Prop} (before : Activity σ α)
    {first second : α → Activity σ β} (hafter : ∀ a, RunAlike alike (first a) (second a)) :
    RunAlike alike (before.bind first) (before.bind second) := by
  intro cancelAt clock s
  rw [run_bind, run_bind]
  cases run cancelAt clock s before with
  | none => exact .none
  | some ended => exact hafter ended.1 cancelAt ended.2.1 ended.2.2

/-- Something that is done at once after work that is alike. -/
theorem RunAlike.bind_step {alike : α × σ → α × σ → Prop} {later : β × σ → β × σ → Prop}
    {first second : Activity σ α} (hfirst : RunAlike alike first second) {f : α → σ → β × σ}
    (hlater : ∀ x y, alike x y → later (f x.1 x.2) (f y.1 y.2)) :
    RunAlike later (first.bind fun a => step (f a)) (second.bind fun a => step (f a)) := by
  intro cancelAt clock s
  have hended := hfirst cancelAt clock s
  rw [run_bind, run_bind]
  generalize run cancelAt clock s first = firstEnd at hended ⊢
  generalize run cancelAt clock s second = secondEnd at hended ⊢
  cases hended with
  | none => exact .none
  | some halike => exact .some (hlater _ _ halike)

/-- Work on a part of the state. -/
theorem RunAlike.within {alike : α × σ → α × σ → Prop} {first second : Activity σ α}
    (hfirst : RunAlike alike first second) {get : τ → σ} {set : σ → τ → τ}
    (hget : ∀ s t, get (set s t) = s) (hset : ∀ s s' t, set s (set s' t) = set s t)
    (hsame : ∀ t, set (get t) t = t) :
    RunAlike (fun x y => alike (x.1, get x.2) (y.1, get y.2)) (within get set first)
      (within get set second) := by
  intro cancelAt clock t
  have hended := hfirst cancelAt clock (get t)
  rw [run_within hget hset hsame, run_within hget hset hsame]
  generalize run cancelAt clock (get t) first = firstEnd at hended ⊢
  generalize run cancelAt clock (get t) second = secondEnd at hended ⊢
  cases hended with
  | none => exact .none
  | some halike => exact .some (by simpa only [hget] using halike)

/-- Notes become part of the answer. -/
theorem RunAlike.withNotes {alike : α × τ × σ → α × τ × σ → Prop}
    {first second : Activity (τ × σ) α} (hfirst : RunAlike alike first second) (notes : τ) :
    RunAlike (fun x y => alike (x.1.1, x.1.2, x.2) (y.1.1, y.1.2, y.2)) (first.withNotes notes)
      (second.withNotes notes) := by
  intro cancelAt clock s
  have hended := hfirst cancelAt clock (notes, s)
  rw [run_withNotes, run_withNotes]
  generalize run cancelAt clock (notes, s) first = firstEnd at hended ⊢
  generalize run cancelAt clock (notes, s) second = secondEnd at hended ⊢
  cases hended with
  | none => exact .none
  | some halike => exact .some halike

end Activity

namespace Attempt

variable {σ τ α β : Type} {view : σ → τ}

/-- An attempt that leaves a part of the state alone. -/
def Keeps (view : σ → τ) (attempt : Attempt σ α) : Prop := Activity.Keeps view attempt.run

theorem keeps_bind {first : Attempt σ α} {andThen : α → Attempt σ β} (hfirst : Keeps view first)
    (hthen : ∀ a, Keeps view (andThen a)) : Keeps view (first >>= andThen) := by
  refine Activity.keeps_bind hfirst fun outcome => ?_
  cases outcome with
  | ok a => exact hthen a
  | error cause => trivial

theorem keeps_pure (view : σ → τ) (a : α) : Keeps view (pure a : Attempt σ α) := trivial

theorem keeps_throw (view : σ → τ) (cause : Failure) : Keeps view (throw cause : Attempt σ α) :=
  trivial

theorem keeps_ofOutcome (view : σ → τ) (outcome : Outcome α) :
    Keeps view (ofOutcome outcome : Attempt σ α) := trivial

theorem keeps_ofActivity {work : Activity σ α} (hwork : work.Keeps view) :
    Keeps view (ofActivity work) :=
  Activity.keeps_bind hwork fun _ => trivial

theorem keeps_step {f : σ → Outcome α × σ} (hview : ∀ s, view (f s).2 = view s) :
    Keeps view (step f) :=
  Activity.keeps_step hview

theorem keeps_timeout {attempt : Attempt σ α} (limit : Nat) (hattempt : Keeps view attempt) :
    Keeps view (attempt.timeout limit) :=
  Activity.keeps_orLate _ hattempt

theorem keeps_timeout? {attempt : Attempt σ α} (limit : Option Nat)
    (hattempt : Keeps view attempt) : Keeps view (attempt.timeout? limit) := by
  cases limit with
  | none => exact hattempt
  | some limit => exact keeps_timeout limit hattempt

theorem keeps_cancellable {attempt : Attempt σ α} (what : String) (hattempt : Keeps view attempt) :
    Keeps view (attempt.cancellable what) :=
  Activity.keeps_orCancelled _ hattempt

theorem keeps_ok? {attempt : Attempt σ α} (hattempt : Keeps view attempt) :
    attempt.ok?.Keeps view :=
  Activity.keeps_bind hattempt fun _ => trivial

/-- An attempt is followed by another one where it succeeds, and is the end where it fails. -/
theorem always_bind {disturbs : σ → σ → Prop} {mid : Outcome α → σ → Prop}
    {post : Outcome β → σ → Prop} {first : Attempt σ α} {andThen : α → Attempt σ β} {s : σ}
    (hfirst : first.run.Always disturbs mid s)
    (herror : ∀ cause t, mid (.error cause) t → post (.error cause) t)
    (hok : ∀ a t, mid (.ok a) t → (andThen a).run.Always disturbs post t) :
    (first >>= andThen).run.Always disturbs post s := by
  refine hfirst.bind fun outcome t ht => ?_
  cases outcome with
  | error cause => exact Activity.always_done (herror cause t ht)
  | ok a => exact hok a t ht

/-- An attempt whose answer is looked at in another way. -/
theorem run_bind_pure (first : Attempt σ α) (f : α → β) :
    (first >>= fun a => pure (f a)).run = first.run.bind fun outcome => .done (outcome.map f) := by
  change first.run.bind _ = _
  congr 1
  funext outcome
  cases outcome <;> rfl

/-- Work that cannot fail, before an attempt. -/
theorem run_bind_ofActivity (work : Activity σ α) (andThen : α → Attempt σ β) :
    (ofActivity work >>= andThen).run = work.bind fun a => (andThen a).run :=
  Activity.bind_assoc work _ _

theorem always_bind_ofActivity {disturbs : σ → σ → Prop} {mid : α → σ → Prop}
    {post : Outcome β → σ → Prop} {work : Activity σ α} {andThen : α → Attempt σ β} {s : σ}
    (hwork : work.Always disturbs mid s)
    (hthen : ∀ a t, mid a t → (andThen a).run.Always disturbs post t) :
    (ofActivity work >>= andThen).run.Always disturbs post s := by
  rw [run_bind_ofActivity]
  exact hwork.bind hthen

/-- Attempts that are the same up to some point, and alike from there on. -/
theorem runAlike_bind_left {alike : Outcome β × σ → Outcome β × σ → Prop}
    (halike : ∀ x, alike x x) (before : Attempt σ α) {first second : α → Attempt σ β}
    (hafter : ∀ a, Activity.RunAlike alike (first a).run (second a).run) :
    Activity.RunAlike alike (before >>= first).run (before >>= second).run := by
  refine Activity.runAlike_bind_left before.run fun outcome => ?_
  cases outcome with
  | error cause => exact Activity.runAlike_refl halike _
  | ok a => exact hafter a

end Attempt

end SiteWatch
