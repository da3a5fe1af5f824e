/-
# Steps are over in time

Every call of a step on its page has a deadline, so a step is over in time whatever the page does:
it may answer, fail, take any time or never return. Most steps make one call. A click that is to
lead to another page makes two, a step that only pauses makes none and takes the time that it
spells, and a mark takes no time at all. What a step comes to is told by whether it is optional.
-/

import Mathlib.Algebra.GroupWithZero.Nat
import SiteWatch.Proofs.Activity
import SiteWatch.Scrape.Step

namespace SiteWatch

variable {σ F α β : Type}

/-! ## How long work takes -/

namespace Activity

/-- Work that comes to an end by itself after a time of some kind, from whatever state it begins in
and whether or not it is called off. -/
def Spans (time : Nat → Prop) (work : Activity σ α) : Prop :=
  ∀ cancelAt clock s, ∃ value elapsed t,
    work.run cancelAt clock s = some (value, clock + elapsed, t) ∧ time elapsed

variable {time more whole : Nat → Prop}

theorem Spans.mono {work : Activity σ α} (hwork : work.Spans time)
    (hmore : ∀ elapsed, time elapsed → more elapsed) : work.Spans more := by
  intro cancelAt clock s
  obtain ⟨value, elapsed, t, hrun, htime⟩ := hwork cancelAt clock s
  exact ⟨value, elapsed, t, hrun, hmore elapsed htime⟩

theorem spans_done (value : α) : (done value : Activity σ α).Spans (· = 0) :=
  fun _ _ s => ⟨value, 0, s, rfl, rfl⟩

theorem spans_step (f : σ → α × σ) : (step f).Spans (· = 0) :=
  fun _ _ s => ⟨(f s).1, 0, (f s).2, rfl, rfl⟩

/-- A wait that heeds nothing takes its time exactly. -/
theorem spans_sleep (milliseconds : Nat) :
    (sleep milliseconds : Activity σ Unit).Spans (· = milliseconds) :=
  fun _ _ s => ⟨(), milliseconds, s, rfl, rfl⟩

theorem Spans.bind {first : Activity σ α} {andThen : α → Activity σ β} (hfirst : first.Spans time)
    (hthen : ∀ a, (andThen a).Spans more)
    (hwhole : ∀ m n, time m → more n → whole (m + n)) : (first.bind andThen).Spans whole := by
  intro cancelAt clock s
  obtain ⟨a, m, u, hrun, hm⟩ := hfirst cancelAt clock s
  obtain ⟨value, n, t, hlast, hn⟩ := hthen a cancelAt (clock + m) u
  refine ⟨value, m + n, t, ?_, hwhole m n hm hn⟩
  rw [run_bind, hrun, ← Nat.add_assoc]
  exact hlast

/-- What comes at once after some work adds no time. -/
theorem Spans.bind_done {first : Activity σ α} (hfirst : first.Spans time) (f : α → β) :
    (first.bind fun a => done (f a)).Spans time :=
  hfirst.bind (fun a => spans_done (f a)) fun m n hm hn => by rwa [hn, Nat.add_zero]

/-- A wait with a time is over by then, whatever ends it. -/
theorem exists_firstWake_le {pause : Pause σ} {limit : Nat} (hafter : pause.after = some limit)
    (cancelIn : Option Nat) (s : σ) :
    ∃ wake elapsed, firstWake pause cancelIn s = some (wake, elapsed) ∧ elapsed ≤ limit := by
  unfold firstWake
  rw [hafter]
  split
  · exact ⟨.ready, 0, rfl, Nat.zero_le limit⟩
  · generalize (if pause.heeds then cancelIn else none) = cancelIn
    cases cancelIn with
    | none => exact ⟨.due, limit, rfl, Nat.le_refl limit⟩
    | some moment =>
        by_cases hmoment : moment < limit
        · exact ⟨.cancelled, moment, if_pos hmoment, Nat.le_of_lt hmoment⟩
        · exact ⟨.due, limit, if_neg hmoment, Nat.le_refl limit⟩

/-- Work under a deadline is over by then. -/
theorem spans_orLate (late : α) (left : Nat) (work : Activity σ α) :
    (work.orLate late left).Spans (· ≤ left) := by
  induction work generalizing left with
  | done value => exact (spans_done value).mono fun elapsed helapsed => by omega
  | act update next ih => exact fun cancelAt clock s => ih s left cancelAt clock (update s)
  | wait pause next ih =>
      intro cancelAt clock s
      -- What is left of the work has what is left of the time.
      have hrest (wake : Wake) {elapsed : Nat} (hle : elapsed ≤ left) :
          ∃ value whole t, run cancelAt (clock + elapsed) s
              ((next wake elapsed).orLate late (left - elapsed)) = some (value, clock + whole, t) ∧
            whole ≤ left := by
        obtain ⟨value, more, t, hrun, hmore⟩ :=
          ih wake elapsed (left - elapsed) cancelAt (clock + elapsed) s
        refine ⟨value, elapsed + more, t, ?_, by omega⟩
        rw [hrun, Nat.add_assoc]
      simp only [orLate]
      split
      · rename_i hshort
        obtain ⟨limit, hafter, hlimit⟩ := (Option.any_eq_true _ _).mp hshort
        obtain ⟨wake, elapsed, hwake, hle⟩ :=
          exists_firstWake_le hafter (cancelAt.map (· - clock)) s
        simp only [run, hwake]
        exact hrest wake (Nat.le_trans hle (of_decide_eq_true hlimit))
      · have hafter : ({ pause with after := some left } : Pause σ).after = some left := rfl
        obtain ⟨wake, elapsed, hwake, hle⟩ :=
          exists_firstWake_le hafter (cancelAt.map (· - clock)) s
        simp only [run, hwake]
        cases wake with
        | due => exact ⟨late, elapsed, s, rfl, hle⟩
        | ready => exact hrest .ready hle
        | cancelled => exact hrest .cancelled hle

end Activity

namespace Attempt

variable {time more whole : Nat → Prop}

theorem spans_timeout (limit : Nat) (attempt : Attempt σ α) :
    (attempt.timeout limit).run.Spans (· ≤ limit) :=
  Activity.spans_orLate _ limit attempt.run

/-- An attempt after another one takes no time where the first one fails. -/
theorem spans_bind {first : Attempt σ α} {andThen : α → Attempt σ β}
    (hfirst : first.run.Spans time) (hthen : ∀ a, (andThen a).run.Spans more) (hzero : more 0)
    (hwhole : ∀ m n, time m → more n → whole (m + n)) : (first >>= andThen).run.Spans whole := by
  refine Activity.Spans.bind hfirst (fun outcome => ?_) hwhole
  cases outcome with
  | ok a => exact hthen a
  | error cause => exact (Activity.spans_done _).mono fun elapsed helapsed => by rwa [helapsed]

/-- What follows an attempt at once adds no time. -/
theorem spans_bind_of_prompt {first : Attempt σ α} {andThen : α → Attempt σ β}
    (hfirst : first.run.Spans time) (hthen : ∀ a, (andThen a).run.Spans (· = 0)) :
    (first >>= andThen).run.Spans time :=
  spans_bind hfirst hthen rfl fun m n hm hn => by rwa [hn, Nat.add_zero]

end Attempt

/-! ## Pauses that are spelled -/

namespace Text

/-- A text spells a number, blanks around it aside: in decimal digits, perhaps with a plus sign in
front of them, and it has no more than 64 bits. -/
structure Spells (text : String) (n : Nat) : Prop where
  digits : ∃ sign digits, trimmed text.toList = sign ++ digits ∧ (sign = [] ∨ sign = ['+']) ∧
    digits ≠ [] ∧ (∀ c ∈ digits, c.isDigit = true) ∧ Nat.ofDigitChars 10 digits 0 = n
  bounded : n < 2 ^ 64

end Text

namespace Environment

theorem start_le_ofDigitChars (digits : List Char) (start : Nat) :
    start ≤ Nat.ofDigitChars 10 digits start := by
  rw [Nat.ofDigitChars_eq_ofDigitChars_zero]
  have hscaled := Nat.le_mul_of_pos_left start (Nat.pow_pos (n := digits.length) (a := 10) (by decide))
  omega

/-- Digits are read as the number that they are the digits of, if it is not beyond the limit. -/
theorem readDigits_eq_ok {limit start n : Nat} {chars : List Char} (hstart : start ≤ limit) :
    readDigits limit start chars = .ok n ↔
      (∀ c ∈ chars, c.isDigit = true) ∧ Nat.ofDigitChars 10 chars start = n ∧ n ≤ limit := by
  induction chars generalizing start with
  | nil =>
      rw [readDigits, Nat.ofDigitChars_nil, Except.ok.injEq]
      constructor
      · rintro rfl
        exact ⟨by simp, rfl, hstart⟩
      · exact fun hn => hn.2.1
  | cons c rest ih =>
      have hnext : 10 * start + (c.toNat - '0'.toNat) = start * 10 + (c.toNat - 48) := by
        rw [Nat.mul_comm]
        rfl
      rw [readDigits, List.forall_mem_cons, Nat.ofDigitChars_cons, hnext]
      by_cases hdigit : c.isDigit = true
      · rw [if_pos hdigit]
        dsimp only
        by_cases hlarge : start * 10 + (c.toNat - 48) > limit
        · rw [if_pos hlarge]
          -- The number only grows with the digits that follow.
          have hgrows := start_le_ofDigitChars rest (start * 10 + (c.toNat - 48))
          constructor
          · exact nofun
          · rintro ⟨-, rfl, hle⟩
            omega
        · rw [if_neg hlarge, ih (by omega)]
          simp [hdigit]
      · rw [if_neg hdigit]
        exact ⟨nofun, fun hn => absurd hn.1.1 hdigit⟩

/-- Numbers are read with or without a plus sign. -/
theorem readNumber_eq_ok {limit n : Nat} {chars : List Char} :
    readNumber limit chars = .ok n ↔
      ∃ sign digits, chars = sign ++ digits ∧ (sign = [] ∨ sign = ['+']) ∧ digits ≠ [] ∧
        (∀ c ∈ digits, c.isDigit = true) ∧ Nat.ofDigitChars 10 digits 0 = n ∧ n ≤ limit := by
  unfold readNumber
  split
  · refine ⟨nofun, ?_⟩
    rintro ⟨sign, digits, hchars, -, hsome, -⟩
    exact absurd (List.append_eq_nil_iff.mp hchars.symm).2 hsome
  · rename_i c rest
    rw [readDigits_eq_ok (Nat.zero_le limit)]
    constructor
    · exact fun hn => ⟨['+'], c :: rest, rfl, .inr rfl, nofun, hn⟩
    · rintro ⟨sign, digits, hchars, rfl | rfl, -, hdigits, hn⟩
      · rw [List.nil_append] at hchars
        exact absurd (hdigits '+' (hchars ▸ List.mem_cons_self)) (by decide)
      · obtain rfl : c :: rest = digits := List.tail_eq_of_cons_eq hchars
        exact ⟨hdigits, hn⟩
  · rename_i hsome hunsigned
    rw [readDigits_eq_ok (Nat.zero_le limit)]
    constructor
    · exact fun hn => ⟨[], chars, rfl, .inl rfl, hsome, hn⟩
    · rintro ⟨sign, digits, hchars, rfl | rfl, hdigits, hn⟩
      · exact hchars ▸ hn
      · obtain ⟨c, rest, rfl⟩ := List.exists_cons_of_ne_nil hdigits
        exact absurd hchars (hunsigned c rest)

end Environment

namespace Text

theorem spells_iff {text : String} {n : Nat} :
    Spells text n ↔
      Environment.readNumber Environment.max64 (trimmed text.toList) = .ok n := by
  have hmax : n < 2 ^ 64 ↔ n ≤ Environment.max64 := by
    unfold Environment.max64
    omega
  rw [Environment.readNumber_eq_ok]
  constructor
  · rintro ⟨⟨sign, digits, htext, hsign, hsome, hdigits, hn⟩, hbounded⟩
    exact ⟨sign, digits, htext, hsign, hsome, hdigits, hn, hmax.mp hbounded⟩
  · rintro ⟨sign, digits, htext, hsign, hsome, hdigits, hn, hbounded⟩
    exact ⟨⟨sign, digits, htext, hsign, hsome, hdigits, hn⟩, hmax.mpr hbounded⟩

end Text

namespace Instruction

/-- The time of a step that only pauses: as many milliseconds as its value spells, or else its
deadline. -/
def IsPause (value : Option String) (limit elapsed : Nat) : Prop :=
  (∃ text, value = some text ∧ Text.Spells text elapsed) ∨
    (∀ text, value = some text → ∀ n, ¬ Text.Spells text n) ∧ elapsed = limit

theorem isPause_iff {value : Option String} {limit elapsed : Nat} :
    IsPause value limit elapsed ↔ elapsed = pauseMs value limit := by
  unfold IsPause pauseMs
  cases value with
  | none => simp
  | some text =>
      simp only [Text.spells_iff, Option.some.injEq, exists_eq_left', forall_eq']
      cases hread : Environment.readNumber Environment.max64 (Text.trimmed text.toList) with
      | ok n => simp [eq_comm]
      | error reason => simp

/-- Whether a step that waits waits for the page, and does not only pause. -/
def AwaitsPage (condition : Option WaitCondition) (selector : Option String) : Prop :=
  condition = some .navigation ∨ condition = some .networkIdle ∨
    ((condition = some .selector ∨ condition = none) ∧ selector.isSome = true)

/-- Whether a step that takes so long and has such a deadline is over in time. -/
def InTime (i : Instruction) (limit elapsed : Nat) : Prop :=
  match i.action with
  | .extract => elapsed = 0
  | .click _ =>
      (i.waitFor = some .navigation → elapsed ≤ 2 * limit) ∧
        (i.waitFor ≠ some .navigation → elapsed ≤ limit)
  | .wait selector value =>
      (AwaitsPage i.waitFor selector → elapsed ≤ limit) ∧
        (¬ AwaitsPage i.waitFor selector → IsPause value limit elapsed)
  | .navigate _ | .enter _ _ | .scroll _ | .screenshot _ => elapsed ≤ limit

end Instruction

/-! ## Steps -/

variable {page : Page σ F} {album : Album σ}

/-- A picture is saved at once when it is there. -/
theorem Page.spans_capture (page : Page σ F) (album : Album σ) (name : String) (limit : Nat) :
    (page.capture album name limit).run.Spans (· ≤ limit) := by
  apply Attempt.spans_bind_of_prompt (Attempt.spans_timeout limit page.screenshot)
  intro picture
  apply Attempt.spans_bind_of_prompt (Activity.spans_step _)
  exact fun _ => Activity.spans_done _

namespace Instruction

/-- Waiting for the page is over at the deadline, and a pause just when it is meant to be. -/
theorem spans_await (page : Page σ F) (condition : Option WaitCondition)
    (selector value : Option String) (limit : Nat) :
    (await page condition selector value limit).run.Spans fun elapsed =>
      (AwaitsPage condition selector → elapsed ≤ limit) ∧
        (¬ AwaitsPage condition selector → IsPause value limit elapsed) := by
  have hawaited {attempt : Attempt σ Unit} (hpage : AwaitsPage condition selector) :
      (attempt.timeout limit).run.Spans fun elapsed =>
        (AwaitsPage condition selector → elapsed ≤ limit) ∧
          (¬ AwaitsPage condition selector → IsPause value limit elapsed) :=
    (Attempt.spans_timeout limit attempt).mono fun elapsed hle =>
      ⟨fun _ => hle, fun hpause => absurd hpage hpause⟩
  have hpause (hpage : ¬ AwaitsPage condition selector) :
      (Attempt.ofActivity (Activity.sleep (pauseMs value limit)) :
          Attempt σ Unit).run.Spans fun elapsed =>
        (AwaitsPage condition selector → elapsed ≤ limit) ∧
          (¬ AwaitsPage condition selector → IsPause value limit elapsed) := by
    apply ((Activity.spans_sleep (pauseMs value limit)).bind_done _).mono
    exact fun elapsed hslept => ⟨fun h => absurd h hpage, fun _ => isPause_iff.mpr hslept⟩
  unfold await
  split
  · exact hawaited (.inl rfl)
  · exact hawaited (.inr (.inl rfl))
  · exact hawaited (.inr (.inr ⟨.inl rfl, rfl⟩))
  · exact hawaited (.inr (.inr ⟨.inr rfl, rfl⟩))
  · rename_i hnavigation hidle hselector hnone
    apply hpause
    rintro (hcondition | hcondition | ⟨hcondition | hcondition, hsome⟩)
    · exact hnavigation hcondition
    · exact hidle hcondition
    · obtain ⟨selector, rfl⟩ := Option.isSome_iff_exists.mp hsome
      exact hselector selector hcondition rfl
    · obtain ⟨selector, rfl⟩ := Option.isSome_iff_exists.mp hsome
      exact hnone selector hcondition rfl

/-- A click is one call, or two where another page is waited for. -/
theorem spans_click (page : Page σ F) (selector : String) (condition : Option WaitCondition)
    (limit : Nat) :
    (do
      (page.click selector).timeout limit
      if condition = some .navigation then page.awaitNavigation.timeout limit :
        Attempt σ Unit).run.Spans fun elapsed =>
      (condition = some .navigation → elapsed ≤ 2 * limit) ∧
        (condition ≠ some .navigation → elapsed ≤ limit) := by
  have hclick := Attempt.spans_timeout limit (page.click selector)
  by_cases hcondition : condition = some .navigation
  · simp only [if_pos hcondition]
    apply Attempt.spans_bind hclick
      (fun _ => Attempt.spans_timeout limit page.awaitNavigation) (Nat.zero_le limit)
    exact fun m n hm hn => ⟨fun _ => by omega, fun hother => absurd hcondition hother⟩
  · simp only [if_neg hcondition]
    have hend (_ : Unit) : (pure () : Attempt σ Unit).run.Spans (· = 0) := Activity.spans_done _
    apply (Attempt.spans_bind_of_prompt hclick hend).mono
    exact fun elapsed hle => ⟨fun hnavigation => absurd hnavigation hcondition, fun _ => hle⟩

/-- Every step is over in time, whatever the page does. -/
theorem spans_perform (i : Instruction) (page : Page σ F) (album : Album σ) (limit : Nat) :
    (i.perform page album limit).run.Spans (i.InTime limit) := by
  unfold perform InTime
  cases i.action with
  | navigate target =>
      cases target with
      | none =>
          exact (Activity.spans_done _).mono fun elapsed hnone => hnone ▸ Nat.zero_le limit
      | some url => exact Attempt.spans_timeout limit (page.goto url)
  | click selector => exact spans_click page selector i.waitFor limit
  | wait selector value => exact spans_await page i.waitFor selector value limit
  | enter selector text => exact Attempt.spans_timeout limit (page.enter selector text)
  | scroll selector => exact Attempt.spans_timeout limit (page.scroll selector)
  | extract => exact Activity.spans_done _
  | screenshot name =>
      apply Attempt.spans_bind_of_prompt (page.spans_capture album _ limit)
      exact fun _ => Activity.spans_done _

/-- An optional step fails without a failure, and a required one with one. -/
theorem settle_eq_iff {i : Instruction} {outcome : Outcome Unit} :
    (i.settle outcome = .ok false ↔ i.optional = true ∧ ∃ cause, outcome = .error cause) ∧
      ∀ failure, i.settle outcome = .error failure ↔
        i.optional = false ∧ ∃ cause, outcome = .error cause ∧ i.blame cause = failure := by
  cases outcome with
  | ok done => simp [settle]
  | error cause => cases hoptional : i.optional <;> simp [settle, hoptional]

/-- Every step comes to an end in time by itself, from any state and whether or not it is called
off, whatever the calls of the page do: none of them has to return. Only an optional step tells that
it failed without failing, and only a required one fails. -/
theorem exists_run_execute (i : Instruction) (page : Page σ F) (album : Album σ)
    (options : PageOptions) (cancelAt : Option Nat) (clock : Nat) (s : σ) :
    ∃ outcome elapsed t,
      (i.execute page album options).run.run cancelAt clock s = some (outcome, clock + elapsed, t) ∧
      i.InTime (i.timeoutMs.getD options.timeoutMs) elapsed ∧
      (outcome = .ok false → i.optional = true) ∧
      ∀ failure, outcome = .error failure → i.optional = false := by
  obtain ⟨done, elapsed, t, hrun, htime⟩ :=
    i.spans_perform page album (i.limitMs options) cancelAt clock s
  refine ⟨i.settle done, elapsed, t, ?_, htime, ?_, ?_⟩
  · rw [execute, ExceptT.run_mk, Activity.run_bind, hrun]
    rfl
  · exact fun hfalse => (settle_eq_iff.1.mp hfalse).1
  · exact fun failure hfailure => ((settle_eq_iff.2 failure).mp hfailure).1

end Instruction

end SiteWatch
