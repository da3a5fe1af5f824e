/-
# How tasks end

A task of a command reads and changes the desk until a failure cuts it short. This module has one
rule for each piece that tasks are made of, so that whoever reasons about a command follows its
steps and never evaluates them.
-/

import SiteWatch.CommandLine.Run

namespace SiteWatch.CommandLine

variable {ν α β : Type} {desk : Desk ν}

/-- A task that begins at a desk ends as a condition on its outcome and the desk then says. -/
def Meets (task : Task ν α) (post : Except Completed α → Desk ν → Prop) (desk : Desk ν) : Prop :=
  post (task.run.run desk).1 (task.run.run desk).2

/-- The end of a command that could not do what it was asked for. -/
def Completed.HasFailed (completed : Completed) : Prop :=
  ∃ causes, completed.ending = .failed causes

@[simp]
theorem Completed.hasFailed_ofFailure (cause : Failure) : (Completed.ofFailure cause).HasFailed :=
  ⟨_, rfl⟩

@[simp]
theorem Completed.hasFailed_ofContext (context : String) (cause : Failure) :
    (Completed.ofContext context cause).HasFailed :=
  ⟨_, rfl⟩

/-! ## Sequences -/

theorem run_bind (first : Task ν α) (next : α → Task ν β) (desk : Desk ν) :
    (first >>= next).run.run desk =
      match first.run.run desk with
      | (.ok a, later) => (next a).run.run later
      | (.error completed, later) => (.error completed, later) := by
  rw [ExceptT.run_bind, StateT.run_bind]
  cases first.run.run desk with
  | mk outcome later => cases outcome <;> rfl

section

variable {first : Task ν α} {next : α → Task ν β} {mid : Except Completed α → Desk ν → Prop}
  {post : Except Completed β → Desk ν → Prop}

theorem Meets.bind (hfirst : Meets first mid desk)
    (hok : ∀ a later, mid (.ok a) later → Meets (next a) post later)
    (herror : ∀ completed later, mid (.error completed) later → post (.error completed) later) :
    Meets (first >>= next) post desk := by
  rw [Meets, run_bind]
  rw [Meets] at hfirst
  cases hrun : first.run.run desk with
  | mk outcome later =>
      rw [hrun] at hfirst
      cases outcome with
      | ok a => exact hok a later hfirst
      | error completed => exact herror completed later hfirst

theorem Meets.mono {weaker : Except Completed α → Desk ν → Prop} (hfirst : Meets first mid desk)
    (hweaker : ∀ outcome later, mid outcome later → weaker outcome later) :
    Meets first weaker desk :=
  hweaker _ _ hfirst

end

/-! ## Tasks that only look -/

/-- A task that leaves the desk as it is, and fails if it is cut short. -/
def OnlyLooks (task : Task ν α) : Prop :=
  ∀ desk, Meets task (fun outcome later => later = desk ∧
    ∀ completed, outcome = .error completed → completed.HasFailed) desk

namespace OnlyLooks

theorem pure (a : α) : OnlyLooks (ν := ν) (Pure.pure a : Task ν α) :=
  fun _ => ⟨rfl, fun _ hfailed => nomatch hfailed⟩

theorem throw {completed : Completed} (hfailed : completed.HasFailed) :
    OnlyLooks (throw completed : Task ν α) :=
  fun _ => ⟨rfl, by rintro _ ⟨⟩; exact hfailed⟩

theorem get : OnlyLooks (MonadState.get : Task ν (Desk ν)) :=
  fun _ => ⟨rfl, fun _ hfailed => nomatch hfailed⟩

theorem files : OnlyLooks (Invocation.files : Task ν Files) :=
  fun _ => ⟨rfl, fun _ hfailed => nomatch hfailed⟩

theorem orEnd {ending : Failure → Completed} (hending : ∀ cause, (ending cause).HasFailed)
    (outcome : Outcome α) : OnlyLooks (ν := ν) (Invocation.orEnd ending outcome) := by
  cases outcome with
  | ok a => exact pure a
  | error cause => exact throw (hending cause)

variable {first : Task ν α} {next : α → Task ν β}

theorem bind (hfirst : OnlyLooks first) (hnext : ∀ a, OnlyLooks (next a)) :
    OnlyLooks (first >>= next) := by
  intro desk
  apply (hfirst desk).bind
  · rintro a _ ⟨rfl, -⟩
    exact hnext a _
  · rintro completed _ ⟨rfl, hfailed⟩
    exact ⟨rfl, fun _ hsame => Except.error.inj hsame ▸ hfailed completed rfl⟩

/-- What comes after a look begins where the look began. -/
theorem meets_bind {post : Except Completed β → Desk ν → Prop} (hfirst : OnlyLooks first)
    (hok : ∀ a, first.run.run desk = (.ok a, desk) → Meets (next a) post desk)
    (herror : ∀ completed, completed.HasFailed → post (.error completed) desk) :
    Meets (first >>= next) post desk := by
  have hlooked := hfirst desk
  rw [Meets] at hlooked
  rw [Meets, run_bind]
  cases hrun : first.run.run desk with
  | mk outcome later =>
      rw [hrun] at hlooked
      obtain ⟨rfl, hfailed⟩ := hlooked
      cases outcome with
      | ok a => exact hok a hrun
      | error completed => exact herror completed (hfailed completed rfl)

end OnlyLooks

/-! ## Single steps -/

section

variable {next : α → Task ν β} {post : Except Completed β → Desk ν → Prop}

theorem meets_orEnd_bind {ending : Failure → Completed} {outcome : Outcome α}
    (hok : ∀ a, outcome = .ok a → Meets (next a) post desk)
    (herror : ∀ cause, outcome = .error cause → post (.error (ending cause)) desk) :
    Meets (Invocation.orEnd ending outcome >>= next) post desk := by
  rw [Meets, run_bind]
  cases outcome with
  | ok a => exact hok a rfl
  | error cause => exact herror cause rfl

theorem meets_files_bind {next : Files → Task ν β} (hnext : Meets (next desk.world.files) post desk) :
    Meets (Invocation.files >>= next) post desk := by
  rw [Meets, run_bind]
  exact hnext

theorem meets_get_bind {next : Desk ν → Task ν β} (hnext : Meets (next desk) post desk) :
    Meets (MonadState.get >>= next) post desk := by
  rw [Meets, run_bind]
  exact hnext

theorem meets_set_bind {next : PUnit → Task ν β} {later : Desk ν}
    (hnext : Meets (next ⟨⟩) post later) : Meets (set later >>= next) post desk := by
  rw [Meets, run_bind]
  exact hnext

theorem meets_modify_bind {next : PUnit → Task ν β} {change : Desk ν → Desk ν}
    (hnext : Meets (next ⟨⟩) post (change desk)) : Meets (modify change >>= next) post desk := by
  rw [Meets, run_bind]
  exact hnext

/-- The desk with other files. -/
def Desk.withFiles (desk : Desk ν) (files : Files) : Desk ν :=
  { desk with world := { desk.world with files } }

theorem meets_onFiles_bind {next : Outcome α → Task ν β} {change : Files → Outcome α × Files}
    (hnext : Meets (next (change desk.world.files).1) post
      (Desk.withFiles desk (change desk.world.files).2)) :
    Meets (Invocation.onFiles change >>= next) post desk := by
  rw [Meets, run_bind]
  exact hnext

end

end SiteWatch.CommandLine
