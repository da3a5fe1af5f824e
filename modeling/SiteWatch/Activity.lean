/-
# Activities

Work that takes time: a program that changes a shared state at once, or waits. A wait ends when its
time is up, when the state allows it to go on, or, where the waiter heeds it, when the work is called
off. An activity is a well-founded tree, so it waits only finitely often; what may never end is a
single wait. Deadlines and cancellation are transformations of activities, defined by structural
recursion: they change waits and nothing else, and so bound an activity without touching what it
does to the state between its waits.
-/

import SiteWatch.Failure

namespace SiteWatch

/-- What ends a wait. -/
inductive Wake where
  /-- The time is up. -/
  | due
  /-- The state allows to go on. -/
  | ready
  /-- The work is called off. -/
  | cancelled
deriving DecidableEq, Repr, Inhabited

/-- A wait. -/
structure Pause (σ : Type) where
  /-- The time after which the wait is over, in milliseconds; absent, it is never over. -/
  after : Option Nat := none
  /-- When the state allows to go on. -/
  ready : σ → Bool := fun _ => false
  /-- Whether the wait ends when the work is called off. -/
  heeds : Bool := false

/-- Work over a shared state. -/
inductive Activity (σ α : Type) where
  /-- The work is over. -/
  | done (value : α)
  /-- Change the state, and go on as the state before the change asks. -/
  | act (update : σ → σ) (next : σ → Activity σ α)
  /-- Wait, and go on as the end of the wait and the time it took ask. -/
  | wait (pause : Pause σ) (next : Wake → Nat → Activity σ α)

/-- Work over a shared state that may fail. -/
abbrev Attempt (σ : Type) := ExceptT Failure (Activity σ)

namespace Activity

variable {σ α β τ : Type}

/-- One piece of work after another. -/
def bind (first : Activity σ α) (andThen : α → Activity σ β) : Activity σ β :=
  match first with
  | done value => andThen value
  | act update next => act update fun s => (next s).bind andThen
  | wait pause next => wait pause fun wake elapsed => (next wake elapsed).bind andThen

instance : Monad (Activity σ) where
  pure := done
  bind := bind

/-- Read the state and change it, at once. -/
def step (f : σ → α × σ) : Activity σ α := act (fun s => (f s).2) fun s => done (f s).1

/-- Change the state. -/
def modify (f : σ → σ) : Activity σ Unit := act f fun _ => done ()

/-- Wait for a time that nothing cuts short. -/
def sleep (milliseconds : Nat) : Activity σ Unit :=
  wait { after := some milliseconds } fun _ _ => done ()

/-- A wait that nothing ends. -/
def never : Activity σ α → Activity σ α := fun rest => wait {} fun _ _ => rest

/-- The time that a wait took, taken off what is left. -/
def remaining (left elapsed : Nat) : Nat := left - elapsed

/-- Work under a deadline: what is done in time is kept, and otherwise `late` is the answer. A wait
that ends at the deadline itself still ends in time. -/
def orLate (late : α) (left : Nat) : Activity σ α → Activity σ α
  | done value => done value
  | act update next => act update fun s => orLate late left (next s)
  | wait pause next =>
    let onTime (wake : Wake) (elapsed : Nat) := orLate late (remaining left elapsed) (next wake elapsed)
    if pause.after.any (· ≤ left) then wait pause onTime
    else wait { pause with after := some left } fun wake elapsed =>
      match wake with
      | .due => done late
      | other => onTime other elapsed

/-- Work that ends with `instead` at the first wait during which it is called off. -/
def orCancelled (instead : α) : Activity σ α → Activity σ α
  | done value => done value
  | act update next => act update fun s => orCancelled instead (next s)
  | wait pause next => wait { pause with heeds := true } fun wake elapsed =>
      match wake with
      | .cancelled => done instead
      | other => orCancelled instead (next other elapsed)

/-- Work on a part of a larger state. -/
def within (get : τ → σ) (set : σ → τ → τ) : Activity σ α → Activity τ α
  | done value => done value
  | act update next => act (fun t => set (update (get t)) t) fun t => within get set (next (get t))
  | wait pause next => wait ⟨pause.after, fun t => pause.ready (get t), pause.heeds⟩
      fun wake elapsed => within get set (next wake elapsed)

/-- Work with notes of its own beside the shared state: the notes start as `notes`, and their last
state is part of the answer. -/
def withNotes (notes : τ) : Activity (τ × σ) α → Activity σ (α × τ)
  | done value => done (value, notes)
  | act update next =>
    act (fun s => (update (notes, s)).2) fun s => withNotes (update (notes, s)).1 (next (notes, s))
  | wait pause next => wait ⟨pause.after, fun s => pause.ready (notes, s), pause.heeds⟩
      fun wake elapsed => withNotes notes (next wake elapsed)

/-- Do what can be done at once: the work is over, or waits. -/
def advance : Activity σ α → σ → Activity σ α × σ
  | act update next, s => (next s).advance (update s)
  | other, s => (other, s)

/-- What ends a wait first when nothing but time passes, and after how long: the state may already
allow to go on; else the work may be called off, `cancelIn` milliseconds from now, before the time is
up. `none` if nothing ever ends the wait. -/
def firstWake (pause : Pause σ) (cancelIn : Option Nat) (s : σ) : Option (Wake × Nat) :=
  if pause.ready s then some (.ready, 0)
  else
    match pause.after, (if pause.heeds then cancelIn else none) with
    | none, none => none
    | some time, none => some (.due, time)
    | none, some moment => some (.cancelled, moment)
    | some time, some moment => if moment < time then some (.cancelled, moment) else some (.due, time)

/-- Run work that nothing else disturbs, from a time on, to its answer, the time of that and the
state then. `cancelAt` is the time at which the work is called off. `none` if it waits forever. -/
def run (cancelAt : Option Nat) (clock : Nat) (s : σ) : Activity σ α → Option (α × Nat × σ)
  | done value => some (value, clock, s)
  | act update next => run cancelAt clock (update s) (next s)
  | wait pause next =>
    match firstWake pause (cancelAt.map (· - clock)) s with
    | none => none
    | some (wake, elapsed) => run cancelAt (clock + elapsed) s (next wake elapsed)

end Activity

namespace Attempt

variable {σ α τ : Type}

/-- Work that cannot fail, as an attempt. -/
def ofActivity (activity : Activity σ α) : Attempt σ α := ExceptT.mk (activity.bind fun a => .done (.ok a))

/-- An attempt that is over. -/
def ofOutcome (outcome : Outcome α) : Attempt σ α := ExceptT.mk (.done outcome)

/-- Read the state and change it, at once, with an answer that may be a failure. -/
def step (f : σ → Outcome α × σ) : Attempt σ α := ExceptT.mk (Activity.step f)

/-- The attempt with a deadline, in milliseconds from now. -/
def timeout (limit : Nat) (attempt : Attempt σ α) : Attempt σ α :=
  ExceptT.mk (Activity.orLate (.error (.timedOut limit)) limit attempt.run)

/-- The attempt with a deadline, if there is one. -/
def timeout? (limit : Option Nat) (attempt : Attempt σ α) : Attempt σ α :=
  match limit with
  | none => attempt
  | some limit => attempt.timeout limit

/-- The attempt, failing as cancelled when it is called off. -/
def cancellable (what : String) (attempt : Attempt σ α) : Attempt σ α :=
  ExceptT.mk (Activity.orCancelled (.error (.cancelled what)) attempt.run)

/-- The answer of an attempt; none if it fails. -/
def ok? (attempt : Attempt σ α) : Activity σ (Option α) :=
  attempt.run.bind fun outcome => .done outcome.toOption

end Attempt

end SiteWatch
