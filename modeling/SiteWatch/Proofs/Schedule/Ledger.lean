/-
# The ledger of a world

Of all that rounds do in the world, others can see three things: the register, the results that were
to be stored, and the notices that were to be sent. The ledger holds these, and the share of a site
is what the ledger holds of it, with all times of day left out. Where the answers of those whom a
round asks depend on nothing but the site and the page at hand, the ledger says all there is to say
about a call, and a call for one site leaves the shares of all others alone.
-/

import SiteWatch.Proofs.Schedule.Proceedings
import SiteWatch.Proofs.Schedule.RunCount

namespace SiteWatch

variable {σ α : Type}

/-! ## Work that is not called off -/

namespace Activity

/-- Work that, as long as it is not called off, can only end with one answer. -/
def Answers (value : α) : Activity σ α → Prop
  | done answer => answer = value
  | act _ next => ∀ s, (next s).Answers value
  | wait _ next => ∀ wake elapsed, wake ≠ .cancelled → (next wake elapsed).Answers value

/-- Only calling off ends a wait as called off. -/
theorem wakeNow?_ne_cancelled (pause : Pause σ) (elapsed : Nat) (s : σ) :
    wakeNow? pause false elapsed s ≠ some .cancelled := by
  unfold wakeNow?
  rw [Bool.and_false, if_neg Bool.false_ne_true]
  split
  · simp
  · split <;> simp

theorem Answers.resume {value : α} {work : Activity σ α} (hwork : work.Answers value)
    (elapsed : Nat) (s : σ) : (work.resume false elapsed s).1.Answers value := by
  induction work generalizing elapsed s with
  | done answer => exact hwork
  | act update next ih => exact ih s (hwork s) elapsed (update s)
  | wait pause next ih =>
      cases hwake : wakeNow? pause false elapsed s with
      | none =>
          rw [Activity.resume, hwake]
          exact hwork
      | some wake =>
          rw [Activity.resume, hwake]
          have hnot : wake ≠ .cancelled := by
            rintro rfl
            exact wakeNow?_ne_cancelled pause elapsed s hwake
          exact ih wake elapsed (hwork wake elapsed hnot) 0 s

/-- Writing the answer down does not change it. -/
theorem Answers.answering {result : ScrapeResult} {work : Activity σ ScrapeResult}
    (hwork : work.Answers result) : work.answering.Answers result := by
  induction work with
  | done answer => exact fun _ => hwork
  | act update next ih => exact fun w => ih w.2 (hwork w.2)
  | wait pause next ih =>
      intro wake elapsed hnot
      exact ih wake elapsed (hwork wake elapsed hnot)

end Activity

/-! ## Without times of day -/

namespace Bookkeeping

/-- Bookkeeping in which only stands whether something ever happened, and not when. -/
def timeless (b : Bookkeeping) : Bookkeeping :=
  { b with
    lastCheckedAt := b.lastCheckedAt.map fun _ => default
    nextCheckAt := b.nextCheckAt.map fun _ => default
    lastSuccessAt := b.lastSuccessAt.map fun _ => default }

@[simp]
theorem timeless_timeless (b : Bookkeeping) : b.timeless.timeless = b.timeless := by
  simp [timeless, Function.comp_def]

end Bookkeeping

namespace Registration

/-- A registration without the times of its bookkeeping. -/
def timeless (r : Registration) : Registration := { r with history := r.history.timeless }

@[simp]
theorem timeless_timeless (r : Registration) : r.timeless.timeless = r.timeless := by
  simp [timeless]

@[simp]
theorem timeless_withHistory (r : Registration) (history : Bookkeeping) :
    (r.withHistory history).timeless = r.timeless.withHistory history.timeless := rfl

@[simp]
theorem id_withHistory (r : Registration) (history : Bookkeeping) :
    (r.withHistory history).id = r.id := rfl

end Registration

/-! ## What went wrong -/

namespace Failure

/-- What went wrong, if anything did. -/
def of? : Outcome α → Option Failure
  | .ok _ => none
  | .error cause => some cause

/-- The answer where something went wrong, or nothing. -/
def answer (fault : Option Failure) (value : α) : Outcome α :=
  match fault with
  | some cause => .error cause
  | none => .ok value

end Failure

/-- The site that a notice is about. -/
def Notice.siteId : Notice → String
  | .newContent siteId .. => siteId
  | .error siteId .. => siteId

/-! ## What a world holds -/

/-- How those that a round works with answer, as far as a round cares. -/
structure Habits where
  /-- What the scrape of a page brings. -/
  answer : (url : String) → ScrapeResult
  /-- What goes wrong when bookkeeping of a site is written back. -/
  recordFault : (siteId : String) → Option Failure
  /-- What goes wrong when a result of a site is stored. -/
  saveFault : (siteId : String) → ScrapeResult → Option Failure
  /-- What goes wrong when something is told. -/
  notifyFault : Notice → Option Failure

/-- What rounds leave in the world: the register, and what they wanted stored and told, in order,
each with what went wrong. -/
structure Ledger where
  register : Register
  saved : List (String × ScrapeResult × Option Failure)
  told : List (Notice × Option Failure)

/-- What is left of one site. -/
structure Share where
  entry : Option Registration
  saved : List (ScrapeResult × Option Failure)
  told : List (Notice × Option Failure)

/-- The services of a site by itself. -/
def Habits.services (habits : Habits) : ScheduleServices Share where
  settings := {}
  now _ := default
  register share := .ok share.entry.toList
  record siteId history share :=
    (Failure.answer (habits.recordFault siteId) share.entry.isSome,
      if (habits.recordFault siteId).isSome then share
      else { share with entry := share.entry.map (·.withHistory history.timeless) })
  scrape request := .done (habits.answer request.url)
  save siteId result share :=
    (Failure.answer (habits.saveFault siteId result) "",
      { share with saved := share.saved ++ [(result, habits.saveFault siteId result)] })
  notify notice share :=
    (Failure.answer (habits.notifyFault notice) (),
      { share with told := share.told ++ [(notice, habits.notifyFault notice)] })

namespace Register

variable {register : Register} {siteId other : String}

theorem record_of_not_has (history : Bookkeeping) (hmissing : register.has siteId = false) :
    register.record siteId history = register := by
  induction register with
  | nil => rfl
  | cons r rest ih =>
      simp only [has, List.any_cons, Bool.or_eq_false_iff] at hmissing
      simp only [record, amend, hmissing.1, Bool.false_eq_true, if_false]
      exact congrArg (r :: ·) (ih hmissing.2)

theorem get?_record_self (register : Register) (siteId : String) (history : Bookkeeping) :
    (register.record siteId history).get? siteId =
      (register.get? siteId).map (·.withHistory history) := by
  induction register with
  | nil => rfl
  | cons r rest ih =>
      simp only [record, amend, get?, List.find?_cons]
      cases hid : r.id == siteId with
      | true => simp [hid]
      | false =>
          simp only [Bool.false_eq_true, if_false, List.find?_cons, hid]
          exact ih

theorem get?_record_of_ne (history : Bookkeeping) (hother : other ≠ siteId) :
    (register.record siteId history).get? other = register.get? other := by
  induction register with
  | nil => rfl
  | cons r rest ih =>
      simp only [record, amend, get?, List.find?_cons]
      cases hid : r.id == siteId with
      | true =>
          have hne : (r.id == other) = false := by
            rw [beq_iff_eq.mp hid]
            exact beq_false_of_ne hother.symm
          simp [hne]
      | false =>
          simp only [Bool.false_eq_true, if_false, List.find?_cons]
          split
          · rfl
          · exact ih

end Register

namespace Ledger

variable {habits : Habits} {ledger : Ledger} {siteId other : String}

/-- Bookkeeping is written back. -/
def record (habits : Habits) (siteId : String) (history : Bookkeeping) (ledger : Ledger) : Ledger :=
  if (habits.recordFault siteId).isSome then ledger
  else { ledger with register := ledger.register.record siteId history }

/-- A result is to be stored. -/
def save (habits : Habits) (siteId : String) (result : ScrapeResult) (ledger : Ledger) : Ledger :=
  { ledger with saved := ledger.saved ++ [(siteId, result, habits.saveFault siteId result)] }

/-- Something is to be told. -/
def notify (habits : Habits) (notice : Notice) (ledger : Ledger) : Ledger :=
  { ledger with told := ledger.told ++ [(notice, habits.notifyFault notice)] }

/-- The share of a site, without times of day. -/
def share (siteId : String) (ledger : Ledger) : Share where
  entry := (ledger.register.get? siteId).map Registration.timeless
  saved := (ledger.saved.filter (·.1 == siteId)).map Prod.snd
  told := ledger.told.filter (·.1.siteId == siteId)

theorem share_record_of_ne (history : Bookkeeping) (hother : other ≠ siteId) :
    (ledger.record habits siteId history).share other = ledger.share other := by
  unfold record
  split
  · rfl
  · simp only [share, Register.get?_record_of_ne history hother]

theorem share_record_self (habits : Habits) (siteId : String) (history : Bookkeeping)
    (ledger : Ledger) :
    (ledger.record habits siteId history).share siteId =
      (habits.services.record siteId history (ledger.share siteId)).2 := by
  simp only [record, Habits.services]
  split
  · rfl
  · simp [share, Register.get?_record_self, Function.comp_def]

theorem share_save_of_ne (result : ScrapeResult) (hother : other ≠ siteId) :
    (ledger.save habits siteId result).share other = ledger.share other := by
  simp [share, save, beq_false_of_ne hother.symm]

theorem services_record_timeless (habits : Habits) (siteId : String) (history : Bookkeeping)
    (share : Share) : habits.services.record siteId history.timeless share =
      habits.services.record siteId history share := by
  simp [Habits.services]

theorem share_save_self (habits : Habits) (siteId : String) (result : ScrapeResult)
    (ledger : Ledger) :
    (ledger.save habits siteId result).share siteId =
      (habits.services.save siteId result (ledger.share siteId)).2 := by
  simp [share, save, Habits.services]

theorem share_notify_self (habits : Habits) {notice : Notice} (hsite : notice.siteId = siteId)
    (ledger : Ledger) :
    (ledger.notify habits notice).share siteId =
      (habits.services.notify notice (ledger.share siteId)).2 := by
  simp [share, notify, Habits.services, hsite]

theorem share_notify_of_ne {notice : Notice} (hother : other ≠ notice.siteId) :
    (ledger.notify habits notice).share other = ledger.share other := by
  simp [share, notify, beq_false_of_ne hother.symm]

/-- What stands in a ledger later is what stood there before, but for the share of one site. -/
structure ChangesOnly (siteId : String) (before after : Ledger) : Prop where
  share_eq : ∀ other, other ≠ siteId → after.share other = before.share other
  ids_eq : after.register.map Registration.id = before.register.map Registration.id

theorem ChangesOnly.rfl : ChangesOnly siteId ledger ledger := ⟨fun _ _ => Eq.refl _, Eq.refl _⟩

theorem changesOnly_record (habits : Habits) (siteId : String) (history : Bookkeeping)
    (ledger : Ledger) : ChangesOnly siteId ledger (ledger.record habits siteId history) where
  share_eq := fun _ => share_record_of_ne history
  ids_eq := by
    unfold record
    split
    · rfl
    · exact Register.map_id_record ..

theorem changesOnly_save (habits : Habits) (siteId : String) (result : ScrapeResult)
    (ledger : Ledger) : ChangesOnly siteId ledger (ledger.save habits siteId result) :=
  ⟨fun _ => share_save_of_ne result, Eq.refl _⟩

theorem changesOnly_notify (habits : Habits) {notice : Notice} (hsite : notice.siteId = siteId)
    (ledger : Ledger) : ChangesOnly siteId ledger (ledger.notify habits notice) :=
  ⟨fun _ hother => share_notify_of_ne (hsite ▸ hother), Eq.refl _⟩

end Ledger

/-! ## Services that have habits -/

/-- Around one register that is changed at once, services whose answers depend on the site and the
page at hand alone: whatever the world is like, a scrape that is not called off can only end in one
way, and the same goes wrong in storing, telling and writing back. -/
structure ScheduleServices.HasHabits (services : ScheduleServices σ) (view : σ → Register)
    (habits : Habits) : Prop extends services.KeepsRegister view where
  scrape_answers : ∀ url,
    (services.scrape { url : ScrapeRequest }.withoutCache).Answers (habits.answer url)
  record_answer : ∀ siteId history world, (services.record siteId history world).1 =
    Failure.answer (habits.recordFault siteId) ((view world).has siteId)
  save_fault : ∀ siteId result world,
    Failure.of? (services.save siteId result world).1 = habits.saveFault siteId result
  notify_fault : ∀ notice world,
    Failure.of? (services.notify notice world).1 = habits.notifyFault notice

/-- What a world, with the calls so far written down beside it, holds of the work of rounds. -/
def ledger (view : σ → Register) (w : Logged σ) : Ledger where
  register := view w.2
  saved := w.1.filterMap fun
    | .save siteId result outcome => some (siteId, result, Failure.of? outcome)
    | _ => none
  told := w.1.filterMap fun
    | .notify notice outcome => some (notice, Failure.of? outcome)
    | _ => none

section

variable {services : ScheduleServices σ} {view : σ → Register} {habits : Habits}

theorem ledger_record (hservices : services.HasHabits view habits) (siteId : String)
    (history : Bookkeeping) (w : Logged σ) :
    ledger view (services.logged.record siteId history w).2 =
      (ledger view w).record habits siteId history := by
  have hanswer := hservices.record_answer siteId history w.2
  have hview : view (services.record siteId history w.2).2 =
      if (habits.recordFault siteId).isSome then view w.2
      else (view w.2).record siteId history := by
    cases hfault : habits.recordFault siteId with
    | some cause =>
        rw [hfault] at hanswer
        exact hservices.record_refused siteId history w.2 (by simp [hanswer, Failure.answer])
    | none =>
        rw [hfault] at hanswer
        cases hhas : (view w.2).has siteId with
        | true =>
            rw [hhas] at hanswer
            exact hservices.record_taken siteId history w.2 hanswer
        | false =>
            rw [hhas] at hanswer
            rw [hservices.record_refused siteId history w.2 (by simp [hanswer, Failure.answer])]
            exact (Register.record_of_not_has history hhas).symm
  simp only [ledger, ScheduleServices.logged, Ledger.record, hview, List.filterMap_append]
  split <;> simp

theorem ledger_save (hservices : services.HasHabits view habits) (siteId : String)
    (result : ScrapeResult) (w : Logged σ) :
    ledger view (services.logged.save siteId result w).2 =
      (ledger view w).save habits siteId result := by
  simp [ledger, ScheduleServices.logged, Ledger.save, hservices.save,
    hservices.save_fault siteId result w.2]

theorem ledger_notify (hservices : services.HasHabits view habits) (notice : Notice)
    (w : Logged σ) :
    ledger view (services.logged.notify notice w).2 = (ledger view w).notify habits notice := by
  simp [ledger, ScheduleServices.logged, Ledger.notify, hservices.notify,
    hservices.notify_fault notice w.2]

/-- The answer of a scrape is nothing that the ledger shows. -/
theorem keeps_ledger_answering {work : Activity σ ScrapeResult} (hwork : work.Keeps view) :
    work.answering.Keeps (ledger view) := by
  induction work with
  | done result => exact ⟨fun w => by simp [ledger, Logged.write], fun _ => trivial⟩
  | act update next ih =>
      refine ⟨fun w => ?_, fun w => ih w.2 (hwork.2 w.2)⟩
      simp only [ledger, hwork.1]
  | wait pause next ih => exact fun wake elapsed => ih wake elapsed (hwork wake elapsed)

theorem keeps_ledger_scrape (hservices : services.HasHabits view habits)
    (request : ScrapeRequest) : (services.logged.scrape request).Keeps (ledger view) :=
  ⟨fun w => by simp [ledger, Logged.write],
    fun _ => keeps_ledger_answering (hservices.scrape request)⟩

theorem answers_scrape (hservices : services.HasHabits view habits) (url : String) :
    (services.logged.scrape { url : ScrapeRequest }.withoutCache).Answers (habits.answer url) :=
  fun _ => (hservices.scrape_answers url).answering

end

end SiteWatch
