/-
# A round by itself

What a round does is decided by its registration, by what it has brought so far, and by the answers
of those it works with. Where these answers depend on nothing but the site and the page at hand, a
round in a world that it shares with others goes the same way as in a world of its own: one that
holds nothing but the share of its site, where every scrape is answered at once and the clock stands
still. The round by itself is the program again, with other services; a step in the shared world is
a step of it, or no step of it at all while a scrape waits.
-/

import Mathlib.Logic.Function.Iterate
import SiteWatch.Proofs.Schedule.Ledger

namespace SiteWatch

variable {σ : Type}

/-! ## A round by itself -/

/-- A job without its times and notes. -/
def Job.plain (job : Job) : Job :=
  { job with
    createdAt := default
    startedAt := job.startedAt.map fun _ => default
    completedAt := job.completedAt.map fun _ => default
    logs := [] }

@[simp]
theorem Job.plain_plain (job : Job) : job.plain.plain = job.plain := by
  simp [plain, Function.comp_def]

namespace Registration

/-- A registration without times. The day of the next round is one, so its distance is left out. -/
def plain (r : Registration) : Registration := { r.timeless with checkIntervalDays := 0 }

@[simp]
theorem plain_plain (r : Registration) : r.plain.plain = r.plain := by
  simp [plain, timeless]

theorem plusDays?_zero : (default : Instant).plusDays? 0 = some default := rfl

/-- On a clock that stands still there is always a day for the next round. -/
theorem exists_markFinished?_plain (r : Registration) (success : Bool) :
    ∃ later, r.plain.markFinished? default success = some later := by
  simp [markFinished?, Bookkeeping.finished?, plain, plusDays?_zero]

/-- A round that ends at some time of day ends so on a clock that stands still. -/
theorem markFinished?_plain {now : Instant} {success : Bool} {r later : Registration}
    (hlater : r.markFinished? now success = some later) :
    r.plain.markFinished? default success = some later.plain := by
  simp only [markFinished?, Bookkeeping.finished?, Option.map_eq_some_iff] at hlater
  obtain ⟨history, ⟨next, -, rfl⟩, rfl⟩ := hlater
  cases success <;>
    simp [markFinished?, Bookkeeping.finished?, plain, timeless, plusDays?_zero,
      Bookkeeping.timeless]

end Registration

/-- A phase without the work of a scrape: the answer is there already. -/
def Phase.plain (habits : Habits) : Phase σ → Phase Share
  | .starting => .starting
  | .choosing urls => .choosing urls
  | .scraping url rest _ => .scraping url rest (.done (habits.answer url))
  | .received url rest result => .received url rest result
  | .concluding => .concluding
  | .finishing => .finishing
  | .reporting => .reporting
  | .leaving => .leaving
  | .lost => .lost

@[simp]
theorem Phase.plain_plain (habits : Habits) (phase : Phase σ) :
    (phase.plain habits).plain habits = phase.plain habits := by
  cases phase <;> rfl

namespace Round

/-- A round without its times and notes, and without the work of its scrape. -/
def plain (habits : Habits) (round : Round σ) : Round Share where
  job := round.job.plain
  registration := round.registration.plain
  harvest := round.harvest
  phase := round.phase.plain habits

/-- One step of a round by itself, with the share of its site. -/
def next (habits : Habits) (alone : Round Share × Share) : Round Share × Share :=
  let (round, s) := alone.1.step habits.services 0 { world := alone.2 }
  (round.plain habits, s.world)

/-- A round and the share of its site, taken out of the world. -/
def alone (view : σ → Register) (habits : Habits) (round : Round (Logged σ)) (w : Logged σ) :
    Round Share × Share :=
  (round.plain habits, (ledger view w).share round.registration.id)

@[simp]
theorem plain_plain (habits : Habits) (round : Round σ) :
    (round.plain habits).plain habits = round.plain habits := by
  simp [plain]

/-- A round by itself stands where a round in the world stands. -/
structure Mirrors (view : σ → Register) (habits : Habits) (alone : Round Share × Surroundings Share)
    (shared : Round (Logged σ) × Surroundings (Logged σ)) : Prop where
  round : alone.1.plain habits = shared.1.plain habits
  world : alone.2.world = (ledger view shared.2.world).share shared.1.registration.id

section

variable {services : ScheduleServices σ} {view : σ → Register} {habits : Habits}

theorem Mirrors.setPhase {alone : Round Share × Surroundings Share}
    {shared : Round (Logged σ) × Surroundings (Logged σ)}
    (hmirrors : Mirrors view habits alone shared) (phase : Phase (Logged σ)) :
    Mirrors view habits ({ alone.1 with phase := phase.plain habits }, alone.2)
      ({ shared.1 with phase }, shared.2) where
  round := by
    have hround := congrArg (fun r : Round Share => { r with phase := phase.plain habits })
      hmirrors.round
    simpa [plain] using hround
  world := hmirrors.world

variable {round : Round (Logged σ)} {s : Surroundings (Logged σ)} {t : Surroundings Share}

theorem Mirrors.addError {alone : Round Share × Surroundings Share}
    {shared : Round (Logged σ) × Surroundings (Logged σ)}
    (hmirrors : Mirrors view habits alone shared) (text : String) :
    Mirrors view habits (alone.1.addError text, alone.2) (shared.1.addError text, shared.2) where
  round := congrArg (fun r : Round Share => r.addError text) hmirrors.round
  world := hmirrors.world

theorem Mirrors.setHarvest {alone : Round Share × Surroundings Share}
    {shared : Round (Logged σ) × Surroundings (Logged σ)}
    (hmirrors : Mirrors view habits alone shared) (harvest : Harvest) :
    Mirrors view habits ({ alone.1 with harvest }, alone.2) ({ shared.1 with harvest }, shared.2)
    where
  round := congrArg (fun r : Round Share => { r with harvest }) hmirrors.round
  world := hmirrors.world

theorem Mirrors.note {alone : Round Share × Surroundings Share}
    {shared : Round (Logged σ) × Surroundings (Logged σ)}
    (hmirrors : Mirrors view habits alone shared) (moment now : Instant) (early late : String) :
    Mirrors view habits (alone.1.note moment early, alone.2) (shared.1.note now late, shared.2) :=
  ⟨hmirrors.round, hmirrors.world⟩

theorem mirrors_plain (round : Round (Logged σ))
    (hworld : t.world = (ledger view s.world).share round.registration.id) :
    Mirrors view habits (round.plain habits, t) (round, s) :=
  ⟨plain_plain habits round, hworld⟩

/-- A round that writes bookkeeping back. -/
theorem mirrors_recordIn (hservices : services.HasHabits view habits) (round : Round (Logged σ))
    (hworld : t.world = (ledger view s.world).share round.registration.id) :
    Mirrors view habits ((round.plain habits).recordIn habits.services t)
      (round.recordIn services.logged s) := by
  have hid : (round.plain habits).registration.id = round.registration.id := rfl
  have hhistory : (round.plain habits).registration.history = round.registration.history.timeless :=
    rfl
  have hkept : Mirrors view habits
      (round.plain habits, { t with world := (habits.services.record round.registration.id
        round.registration.history.timeless t.world).2 })
      (round, { s with world := (services.logged.record round.registration.id
        round.registration.history s.world).2 }) := by
    apply mirrors_plain
    rw [hworld, Ledger.services_record_timeless, ← Ledger.share_record_self,
      ledger_record hservices]
  have hanswer : (services.logged.record round.registration.id round.registration.history
      s.world).1 = Failure.answer (habits.recordFault round.registration.id) _ :=
    hservices.record_answer _ _ _
  have halone : (habits.services.record round.registration.id round.registration.history.timeless
      t.world).1 = Failure.answer (habits.recordFault round.registration.id) _ := rfl
  simp only [recordIn, hid, hhistory, hanswer, halone]
  cases habits.recordFault round.registration.id with
  | none => exact hkept
  | some cause => exact hkept.addError s!"registration update failed: {cause.message}"

theorem mirrors_start (hservices : services.HasHabits view habits)
    (hworld : t.world = (ledger view s.world).share round.registration.id) :
    Mirrors view habits ((round.plain habits).start habits.services t)
      (round.start services.logged s) :=
  (mirrors_recordIn hservices { round with
    registration := round.registration.markStarted (services.logged.now s.world) }
    hworld).setPhase (.choosing round.registration.urls)

theorem mirrors_choose (hworld : t.world = (ledger view s.world).share round.registration.id)
    (urls : List String) :
    Mirrors view habits ((round.plain habits).choose habits.services t urls)
      (round.choose services.logged s urls) := by
  cases urls with
  | nil => exact (mirrors_plain round hworld).setPhase .concluding
  | cons url rest =>
      exact ((mirrors_plain round hworld).note default (services.logged.now s.world)
        s!"scraping {url}" s!"scraping {url}").setPhase (.scraping url rest
          (services.logged.scrape { url : ScrapeRequest }.withoutCache))

/-- A page that was scraped. -/
theorem mirrors_store (hservices : services.HasHabits view habits) (url : String)
    (result : ScrapeResult)
    (hworld : t.world = (ledger view s.world).share round.registration.id) :
    Mirrors view habits ((round.plain habits).store habits.services url result t)
      (round.store services.logged url result s) := by
  have hid : (round.plain habits).registration.id = round.registration.id := rfl
  have hfault : Failure.of? (services.logged.save round.registration.id result s.world).1 =
      habits.saveFault round.registration.id result := hservices.save_fault _ _ _
  have hkept : Mirrors view habits
      (round.plain habits,
        { t with world := (habits.services.save round.registration.id result t.world).2 })
      (round,
        { s with world := (services.logged.save round.registration.id result s.world).2 }) := by
    apply mirrors_plain
    rw [hworld, ← Ledger.share_save_self, ledger_save hservices]
  simp only [store, hid]
  cases houtcome : (services.logged.save round.registration.id result s.world).1 with
  | ok file =>
      have halone : (habits.services.save round.registration.id result t.world).1 = .ok "" := by
        simp only [Habits.services, ← hfault, houtcome, Failure.of?, Failure.answer]
      simp only [halone]
      exact (hkept.setHarvest (round.harvest.gain url result)).note _ _ _ _
  | error cause =>
      have halone : (habits.services.save round.registration.id result t.world).1 =
          .error cause := by
        simp only [Habits.services, ← hfault, houtcome, Failure.of?, Failure.answer]
      simp only [halone]
      exact (hkept.setHarvest (round.harvest.gain url result).fault).addError
        s!"{url}: {cause.message}"

/-- A notice about the site of a round. -/
theorem world_send_alone (hservices : services.HasHabits view habits) (wanted : Bool)
    {notice : Notice} {siteId : String} (hsite : notice.siteId = siteId)
    (hworld : t.world = (ledger view s.world).share siteId) :
    (t.send habits.services wanted notice).world =
      (ledger view (s.send services.logged wanted notice).world).share siteId := by
  cases wanted with
  | false => exact hworld
  | true =>
      simp only [Surroundings.send, if_true]
      rw [ledger_notify hservices, Ledger.share_notify_self habits hsite, hworld]

/-- A page that was not scraped. -/
theorem mirrors_complain (hservices : services.HasHabits view habits) (url : String)
    (result : ScrapeResult)
    (hworld : t.world = (ledger view s.world).share round.registration.id) :
    Mirrors view habits ((round.plain habits).complain habits.services url result t)
      (round.complain services.logged url result s) := by
  let error := "; ".intercalate result.errors
  let event : ScheduleEvent := .urlFailed round.job.id url error
  let notice : Notice := .error round.registration.id url error
  have hsent : ((t.tell event).send habits.services round.registration.notifications.onError
      notice).world = _ :=
    world_send_alone hservices _ (s := s.tell event) rfl hworld
  exact (mirrors_plain { round with harvest := round.harvest.miss } hsent).addError
    s!"{url}: {error}"

theorem mirrors_receive (hservices : services.HasHabits view habits) (url : String)
    (rest : List String) (result : ScrapeResult)
    (hworld : t.world = (ledger view s.world).share round.registration.id) :
    Mirrors view habits ((round.plain habits).receive habits.services url rest result t)
      (round.receive services.logged url rest result s) := by
  unfold receive
  cases result.success with
  | true => exact (mirrors_store hservices url result hworld).setPhase (.choosing rest)
  | false => exact (mirrors_complain hservices url result hworld).setPhase (.choosing rest)

theorem mirrors_conclude (hservices : services.HasHabits view habits)
    (hworld : t.world = (ledger view s.world).share round.registration.id) :
    Mirrors view habits ((round.plain habits).conclude habits.services t)
      (round.conclude services.logged s) := by
  have hfirst : (round.plain habits).harvest.firstSuccess = round.harvest.firstSuccess := rfl
  have hnew : (round.plain habits).isNew = round.isNew := rfl
  simp only [conclude, hfirst, hnew]
  cases round.harvest.firstSuccess with
  | none => exact (mirrors_plain round hworld).setPhase .finishing
  | some url =>
      refine (mirrors_plain round.compared ?_).setPhase .finishing
      cases round.isNew with
      | true =>
          exact world_send_alone hservices round.registration.notifications.onNewContent
            (s := s.tell (.newContent round.registration.id round.harvest.digest)) rfl hworld
      | false => exact hworld

theorem mirrors_finish (hservices : services.HasHabits view habits)
    (hworld : t.world = (ledger view s.world).share round.registration.id)
    (hends : (round.finish services.logged s).1.phase ≠ .lost) :
    Mirrors view habits ((round.plain habits).finish habits.services t)
      (round.finish services.logged s) := by
  unfold finish at hends ⊢
  cases hlater : round.registration.markFinished? (services.logged.now s.world)
      round.succeeded with
  | none =>
      rw [hlater] at hends
      exact absurd rfl hends
  | some later =>
      have halone : (round.plain habits).registration.markFinished? (habits.services.now t.world)
          (round.plain habits).succeeded = some later.plain :=
        Registration.markFinished?_plain hlater
      rw [halone]
      have hsame : t.world = (ledger view s.world).share later.id := by
        rw [(markFinished?_totalRuns hlater).1, hworld]
      exact (mirrors_recordIn hservices { round with registration := later } hsame).setPhase
        .reporting

theorem changesOnly_send (hservices : services.HasHabits view habits) (wanted : Bool)
    {notice : Notice} {siteId : String} (hsite : notice.siteId = siteId)
    (s : Surroundings (Logged σ)) :
    Ledger.ChangesOnly siteId (ledger view s.world)
      (ledger view (s.send services.logged wanted notice).world) := by
  cases wanted with
  | false => exact .rfl
  | true =>
      simp only [Surroundings.send, if_true, ledger_notify hservices]
      exact Ledger.changesOnly_notify habits hsite _

theorem mirrors_report (hworld : t.world = (ledger view s.world).share round.registration.id) :
    Mirrors view habits ((round.plain habits).report habits.services t)
      (round.report services.logged s) :=
  ⟨by
    have hstatus : (round.plain habits).finalStatus = round.finalStatus := rfl
    simp only [report, hstatus]
    simp [plain, Job.finish, Job.plain, Phase.plain, Function.comp_def], hworld⟩

/-! ## A step in the shared world -/

/-- A round that is not called off, and whose scrape can only bring what such a scrape brings and
writes nothing into the ledger. -/
structure IsOrderly (view : σ → Register) (habits : Habits) (round : Round (Logged σ)) : Prop where
  cancelled : round.cancelled = false
  answers : ∀ url rest work, round.phase = .scraping url rest work →
    work.Answers (habits.answer url)
  keeps : ∀ url rest work, round.phase = .scraping url rest work → work.Keeps (ledger view)

/-- A scrape that is gone on with is over, or waits. -/
theorem step_of_scraping (services : ScheduleServices σ) {round : Round σ} {url : String}
    {rest : List String} {work : Activity σ ScrapeResult}
    (hphase : round.phase = .scraping url rest work) (elapsed : Nat) (s : Surroundings σ) :
    (round.step services elapsed s).2.world = (work.resume round.cancelled elapsed s.world).2 ∧
      ((∃ result, (work.resume round.cancelled elapsed s.world).1 = .done result ∧
          (round.step services elapsed s).1 = { round with phase := .received url rest result }) ∨
        (∀ result, (work.resume round.cancelled elapsed s.world).1 ≠ .done result) ∧
          (round.step services elapsed s).1 = { round with
            phase := .scraping url rest (work.resume round.cancelled elapsed s.world).1 }) := by
  have hstep : round.step services elapsed s = round.proceed url rest work elapsed s := by
    simp only [step, hphase]
  rw [hstep, proceed]
  cases work.resume round.cancelled elapsed s.world with
  | mk left world =>
      cases left with
      | done result => exact ⟨rfl, .inl ⟨result, rfl, rfl⟩⟩
      | act update next => exact ⟨rfl, .inr ⟨by simp, rfl⟩⟩
      | wait pause next => exact ⟨rfl, .inr ⟨by simp, rfl⟩⟩

/-- A step of a round that waits for no scrape is a step of the round by itself, unless the round
breaks off for want of a day for the next one. -/
theorem alone_step (hservices : services.HasHabits view habits) {round : Round (Logged σ)}
    (hmoves : ∀ url rest work, round.phase ≠ .scraping url rest work) (elapsed : Nat)
    (s : Surroundings (Logged σ))
    (hends : (round.step services.logged elapsed s).1.phase ≠ .lost) :
    (round.step services.logged elapsed s).1.alone view habits
        (round.step services.logged elapsed s).2.world =
      next habits (round.alone view habits s.world) := by
  -- The round by itself is in the phase of the round, so both sides unfold to the same function.
  have hmirrors : Mirrors view habits
      ((round.plain habits).step habits.services 0
        { world := (ledger view s.world).share round.registration.id })
      (round.step services.logged elapsed s) := by
    have hplain : (round.plain habits).phase = round.phase.plain habits := rfl
    cases hphase : round.phase with
    | starting =>
        simp only [step, hplain, hphase, Phase.plain]
        exact mirrors_start hservices rfl
    | choosing urls =>
        simp only [step, hplain, hphase, Phase.plain]
        exact mirrors_choose rfl urls
    | scraping url rest work => exact absurd hphase (hmoves url rest work)
    | received url rest result =>
        simp only [step, hplain, hphase, Phase.plain]
        exact mirrors_receive hservices url rest result rfl
    | concluding =>
        simp only [step, hplain, hphase, Phase.plain]
        exact mirrors_conclude hservices rfl
    | finishing =>
        simp only [step, hphase] at hends
        simp only [step, hplain, hphase, Phase.plain]
        exact mirrors_finish hservices rfl hends
    | reporting =>
        simp only [step, hplain, hphase, Phase.plain]
        exact mirrors_report rfl
    | leaving =>
        simp only [step, hplain, hphase, Phase.plain]
        exact mirrors_plain round rfl
    | lost =>
        simp only [step, hplain, hphase, Phase.plain]
        exact mirrors_plain round rfl
  exact Prod.ext hmirrors.round.symm hmirrors.world.symm

/-- A step of a round that waits for a scrape is no step of the round by itself, or the one in which
the scrape is answered. -/
theorem alone_step_of_scraping (services : ScheduleServices σ) {round : Round (Logged σ)}
    (hround : round.IsOrderly view habits)
    {url : String} {rest : List String} {work : Activity (Logged σ) ScrapeResult}
    (hphase : round.phase = .scraping url rest work) (elapsed : Nat)
    (s : Surroundings (Logged σ)) :
    (round.step services.logged elapsed s).1.alone view habits
          (round.step services.logged elapsed s).2.world =
        next habits (round.alone view habits s.world) ∨
      ((∀ result, (work.resume false elapsed s.world).1 ≠ .done result) ∧
          (round.step services.logged elapsed s).1.phase =
            .scraping url rest (work.resume false elapsed s.world).1) ∧
        (round.step services.logged elapsed s).1.alone view habits
          (round.step services.logged elapsed s).2.world = round.alone view habits s.world := by
  have hplain : (round.plain habits).phase = .scraping url rest (.done (habits.answer url)) := by
    simp only [plain, hphase, Phase.plain]
  have hresumed : work.resume round.cancelled elapsed s.world =
      work.resume false elapsed s.world := by rw [hround.cancelled]
  have hledger := ((hround.keeps url rest work hphase).resume false elapsed s.world).1
  obtain ⟨hworld, ⟨result, hdone, hafter⟩ | ⟨hwaits, hafter⟩⟩ :=
    step_of_scraping services.logged hphase elapsed s
  · rw [hresumed] at hworld hdone
    have hanswer := (hround.answers url rest work hphase).resume elapsed s.world
    rw [hdone] at hanswer
    refine .inl ?_
    rw [hworld, hafter, alone, hledger, hanswer]
    simp only [next, alone, step, hplain, proceed, Activity.resume]
    simp [plain, Phase.plain]
  · rw [hresumed] at hworld hwaits hafter
    refine .inr ⟨⟨hwaits, congrArg Round.phase hafter⟩, ?_⟩
    rw [hworld, hafter, alone, hledger]
    simp [alone, plain, hphase, Phase.plain]

/-- A step of an orderly round is a step of the round by itself or none, unless the round breaks
off. -/
theorem alone_step_or_stay (hservices : services.HasHabits view habits) {round : Round (Logged σ)}
    (hround : round.IsOrderly view habits) (elapsed : Nat) (s : Surroundings (Logged σ))
    (hends : (round.step services.logged elapsed s).1.phase ≠ .lost) :
    (round.step services.logged elapsed s).1.alone view habits
          (round.step services.logged elapsed s).2.world =
        next habits (round.alone view habits s.world) ∨
      (round.step services.logged elapsed s).1.alone view habits
          (round.step services.logged elapsed s).2.world = round.alone view habits s.world := by
  by_cases hscraping : ∃ url rest work, round.phase = .scraping url rest work
  · obtain ⟨url, rest, work, hphase⟩ := hscraping
    exact (alone_step_of_scraping services hround hphase elapsed s).imp_right And.right
  · refine .inl (alone_step hservices ?_ elapsed s hends)
    intro url rest work hphase
    exact hscraping ⟨url, rest, work, hphase⟩

/-- A step writes into the share of its own site alone. -/
theorem changesOnly_step (hservices : services.HasHabits view habits) {round : Round (Logged σ)}
    (hround : round.IsOrderly view habits) (elapsed : Nat) (s : Surroundings (Logged σ)) :
    Ledger.ChangesOnly round.registration.id (ledger view s.world)
      (ledger view (round.step services.logged elapsed s).2.world) := by
  cases hphase : round.phase with
  | starting =>
      simp only [step, hphase, start, recordIn_world, ledger_record hservices]
      exact Ledger.changesOnly_record ..
  | choosing urls =>
      cases urls <;> simp only [step, hphase, choose] <;> exact .rfl
  | scraping url rest work =>
      rw [(step_of_scraping services.logged hphase elapsed s).1,
        ((hround.keeps url rest work hphase).resume round.cancelled elapsed s.world).1]
      exact .rfl
  | received url rest result =>
      simp only [step, hphase, receive, store, complain]
      split
      · split <;> (simp only [ledger_save hservices]; exact Ledger.changesOnly_save ..)
      · refine changesOnly_send hservices _ ?_ (s.tell _)
        rfl
  | concluding =>
      simp only [step, hphase, conclude]
      split
      · exact .rfl
      · split
        · refine changesOnly_send hservices _ ?_ (s.tell _)
          rfl
        · exact .rfl
  | finishing =>
      simp only [step, hphase, finish]
      split
      · exact .rfl
      · rename_i later hlater
        simp only [recordIn_world, ledger_record hservices, (markFinished?_totalRuns hlater).1]
        exact Ledger.changesOnly_record ..
  | reporting => simp only [step, hphase, report]; exact .rfl
  | leaving => simp only [step, hphase]; exact .rfl
  | lost => simp only [step, hphase]; exact .rfl

theorem checkIntervalDays_of_markFinished? {now : Instant} {success : Bool}
    {r later : Registration} (hlater : r.markFinished? now success = some later) :
    later.checkIntervalDays = r.checkIntervalDays := by
  simp only [Registration.markFinished?, Option.map_eq_some_iff] at hlater
  obtain ⟨history, -, rfl⟩ := hlater
  rfl

/-- No step calls its round off, and none changes the distance of the rounds. -/
theorem fixed_step (services : ScheduleServices σ) (elapsed : Nat) (round : Round σ)
    (s : Surroundings σ) :
    (round.step services elapsed s).1.cancelled = round.cancelled ∧
      (round.step services elapsed s).1.registration.checkIntervalDays =
        round.registration.checkIntervalDays := by
  cases hphase : round.phase with
  | starting => simp [step, hphase, start, Registration.markStarted]
  | choosing urls => cases urls <;> simp [step, hphase, choose, note]
  | received url rest result =>
      simp only [step, hphase, receive, store, complain]
      split
      · split <;> exact ⟨rfl, rfl⟩
      · exact ⟨rfl, rfl⟩
  | concluding =>
      simp only [step, hphase, conclude]
      split <;> exact ⟨rfl, rfl⟩
  | finishing =>
      simp only [step, hphase, finish]
      split
      · exact ⟨rfl, rfl⟩
      · rename_i later hlater
        simpa using checkIntervalDays_of_markFinished? hlater
  | scraping | reporting | leaving | lost => simp [step, hphase, proceed, report]

/-- A scrape is begun by choosing its page, and otherwise only gone on with. -/
theorem scraping_step {services : ScheduleServices σ} {elapsed : Nat} {round : Round σ}
    {s : Surroundings σ} {url : String} {rest : List String} {work : Activity σ ScrapeResult}
    (hafter : (round.step services elapsed s).1.phase = .scraping url rest work) :
    work = services.scrape { url : ScrapeRequest }.withoutCache ∨
      ∃ before, round.phase = .scraping url rest before ∧
        work = (before.resume round.cancelled elapsed s.world).1 := by
  cases hphase : round.phase with
  | starting => simp [step, hphase, start] at hafter
  | choosing urls =>
      cases urls with
      | nil => simp [step, hphase, choose] at hafter
      | cons next urls =>
          simp only [step, hphase, choose, Phase.scraping.injEq] at hafter
          obtain ⟨rfl, -, rfl⟩ := hafter
          exact .inl rfl
  | scraping url' rest' before =>
      obtain ⟨-, ⟨result, -, hstep⟩ | ⟨-, hstep⟩⟩ := step_of_scraping services hphase elapsed
        s
      · rw [hstep] at hafter
        cases hafter
      · rw [hstep] at hafter
        simp only [Phase.scraping.injEq] at hafter
        obtain ⟨rfl, rfl, rfl⟩ := hafter
        exact .inr ⟨before, rfl, rfl⟩
  | received url' rest' result => simp [step, hphase, receive] at hafter
  | concluding =>
      simp only [step, hphase, conclude] at hafter
      split at hafter <;> cases hafter
  | finishing =>
      simp only [step, hphase, finish] at hafter
      split at hafter <;> cases hafter
  | reporting | leaving | lost => simp [step, hphase, report] at hafter

/-- A round stays orderly. -/
theorem IsOrderly.step (hservices : services.HasHabits view habits) {round : Round (Logged σ)}
    (hround : round.IsOrderly view habits) (elapsed : Nat) (s : Surroundings (Logged σ)) :
    (round.step services.logged elapsed s).1.IsOrderly view habits where
  cancelled := (fixed_step ..).1.trans hround.cancelled
  answers := by
    intro url rest work hafter
    obtain rfl | ⟨before, hphase, rfl⟩ := scraping_step hafter
    · exact answers_scrape hservices url
    · rw [hround.cancelled]
      exact (hround.answers url rest before hphase).resume elapsed s.world
  keeps := by
    intro url rest work hafter
    obtain rfl | ⟨before, hphase, rfl⟩ := scraping_step hafter
    · exact keeps_ledger_scrape hservices _
    · exact ((hround.keeps url rest before hphase).resume round.cancelled elapsed s.world).2

end

/-! ## The end of a round by itself -/

section

variable {habits : Habits} {alone : Round Share × Share}

theorem plain_next (habits : Habits) (alone : Round Share × Share) :
    (next habits alone).1.plain habits = (next habits alone).1 :=
  plain_plain habits _

theorem plain_iterate (hplain : alone.1.plain habits = alone.1) (steps : Nat) :
    ((next habits)^[steps] alone).1.plain habits = ((next habits)^[steps] alone).1 := by
  cases steps with
  | zero => exact hplain
  | succ steps =>
      rw [Function.iterate_succ_apply']
      exact plain_next habits _

/-- A round by itself that is about to leave does nothing more. -/
theorem next_of_leaving (hplain : alone.1.plain habits = alone.1)
    (hleaving : alone.1.phase = .leaving) : next habits alone = alone := by
  simp only [next, step, hleaving]
  exact Prod.ext hplain rfl

/-- A round by itself comes to one end only. -/
theorem iterate_eq_of_leaving (hplain : alone.1.plain habits = alone.1) {first second : Nat}
    (hfirst : ((next habits)^[first] alone).1.phase = .leaving)
    (hsecond : ((next habits)^[second] alone).1.phase = .leaving) :
    (next habits)^[first] alone = (next habits)^[second] alone := by
  wlog hle : first ≤ second generalizing first second
  · exact (this hsecond hfirst (Nat.le_of_not_le hle)).symm
  · obtain ⟨more, rfl⟩ := Nat.exists_eq_add_of_le hle
    rw [Nat.add_comm, Function.iterate_add_apply]
    exact (Function.iterate_fixed (next_of_leaving (plain_iterate hplain first) hfirst) more).symm

/-- On a clock that stands still there is a day for the next round, so no round breaks off, and
every step brings a round by itself nearer to its end. -/
theorem stepsLeft_next_lt (hplain : alone.1.plain habits = alone.1) (hends : alone.1.phase ≠ .lost)
    (hmoves : alone.1.phase ≠ .leaving) :
    (next habits alone).1.phase ≠ .lost ∧
      (next habits alone).1.stepsLeft < alone.1.stepsLeft := by
  cases hphase : alone.1.phase with
  | starting =>
      have hurls : ∀ now, (alone.1.registration.markStarted now).urls = alone.1.registration.urls :=
        fun _ => rfl
      simp [next, step, hphase, start, plain, Phase.plain, stepsLeft, hurls]
  | choosing urls =>
      cases urls with
      | nil => simp [next, step, hphase, choose, plain, Phase.plain, stepsLeft]
      | cons url rest =>
          simp only [next, step, hphase, choose, plain, Phase.plain, stepsLeft, List.length_cons]
          exact ⟨by simp, by omega⟩
  | scraping url rest work =>
      have hwork := congrArg Round.phase hplain
      simp only [plain, hphase, Phase.plain, Phase.scraping.injEq, true_and] at hwork
      subst hwork
      simp [next, step, hphase, proceed, Activity.resume, plain, Phase.plain, stepsLeft]
  | received url rest result =>
      simp [next, step, hphase, receive, plain, Phase.plain, stepsLeft]
  | concluding =>
      simp only [next, step, hphase, conclude]
      split <;> simp [plain, Phase.plain, stepsLeft, hphase]
  | finishing =>
      have hdate : ∃ later, alone.1.registration.markFinished? (habits.services.now alone.2)
          alone.1.succeeded = some later := by
        rw [← congrArg Round.registration hplain]
        exact Registration.exists_markFinished?_plain ..
      obtain ⟨later, hlater⟩ := hdate
      simp [next, step, hphase, finish, hlater, plain, Phase.plain, stepsLeft]
  | reporting =>
      simp [next, step, hphase, report, plain, Phase.plain, stepsLeft]
  | leaving => exact absurd hphase hmoves
  | lost => exact absurd hphase hends

/-- A round by itself comes to its end. -/
theorem exists_leaving (hplain : alone.1.plain habits = alone.1) (hends : alone.1.phase ≠ .lost) :
    ∃ steps, ((next habits)^[steps] alone).1.phase = .leaving := by
  induction hsteps : alone.1.stepsLeft using Nat.strongRecOn generalizing alone with
  | _ n ih =>
      by_cases hleaving : alone.1.phase = .leaving
      · exact ⟨0, hleaving⟩
      · obtain ⟨hgoes, hfewer⟩ := stepsLeft_next_lt hplain hends hleaving
        obtain ⟨steps, hsteps⟩ := ih _ (hsteps ▸ hfewer) (plain_next habits alone) hgoes rfl
        exact ⟨steps + 1, hsteps⟩

end

end Round

end SiteWatch
