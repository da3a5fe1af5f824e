/-
# The outcome of a round

Whatever pages a registration has, whatever their scrapes answer and however storing, telling and
recording go wrong: a round asks for every page once and in order, counts what it gets, and comes to
its end, with everything it has asked for accounted for by the pages it has visited. The invariant
says for each phase of a round which calls it has made until then; each step of a round moves it on
by one phase, and a scrape that is answered some time moves the round on to the next page.
-/

import Mathlib.Data.List.Basic
import SiteWatch.Proofs.Schedule.Proceedings
import SiteWatch.Proofs.Schedule.Rounds
import SiteWatch.Rehearsal.Schedule

namespace SiteWatch

variable {σ : Type}

/-! ## Scrapes whose answers are written down -/

namespace Activity

/-- A scrape goes on as if nobody wrote its answer down; only with the answer itself does the log
grow. -/
theorem resume_answering (work : Activity σ ScrapeResult) (cancelled : Bool) (elapsed : Nat)
    (w : Logged σ) :
    work.answering.resume cancelled elapsed w =
      match work.resume cancelled elapsed w.2 with
      | (.done result, s) => (.done result, (w.1 ++ [.answer result], s))
      | (rest, s) => (rest.answering, (w.1, s)) := by
  induction work generalizing elapsed w with
  | done result => rfl
  | act update next ih => exact ih w.2 elapsed (w.1, update w.2)
  | wait pause next ih =>
      have hlater : (wait pause next).answering =
          wait ⟨pause.after, fun t => pause.ready t.2, pause.heeds⟩
            fun wake elapsed => (next wake elapsed).answering := rfl
      have hwake : wakeNow? ⟨pause.after, fun t : Logged σ => pause.ready t.2, pause.heeds⟩
          cancelled elapsed w = wakeNow? pause cancelled elapsed w.2 := rfl
      rw [hlater, resume, resume, hwake]
      cases wakeNow? pause cancelled elapsed w.2 with
      | none => rfl
      | some wake => exact ih wake elapsed 0 w

end Activity

/-! ## What pages bring -/

namespace PageVisit

/-- What a round has when it has visited some pages. -/
def harvest (visits : List PageVisit) : Harvest where
  summary := {
    urlsScraped := visits.length
    itemsExtracted := ((successes visits).map (·.result.itemCount)).sum
    errorsEncountered := faults visits }
  payload := payload visits
  firstSuccess := (successes visits).head?.map PageVisit.url

@[simp]
theorem harvest_nil : harvest [] = {} := rfl

@[simp]
theorem faults_nil : faults [] = 0 := rfl

/-- A page that was scraped and stored. -/
theorem harvest_concat_saved {visits : List PageVisit} {visit : PageVisit} {file : String}
    (hsuccess : visit.result.success = true) (hsaved : visit.saved = some (.ok file)) :
    harvest (visits ++ [visit]) = (harvest visits).gain visit.url visit.result := by
  simp [harvest, Harvest.gain, successes, faults, payload, isLost, hsuccess, hsaved,
    List.head?_append]

/-- A page that was scraped and could not be stored. -/
theorem harvest_concat_lost {visits : List PageVisit} {visit : PageVisit} {cause : Failure}
    (hsuccess : visit.result.success = true) (hsaved : visit.saved = some (.error cause)) :
    harvest (visits ++ [visit]) = ((harvest visits).gain visit.url visit.result).fault := by
  simp [harvest, Harvest.gain, Harvest.fault, successes, faults, payload, isLost, hsuccess, hsaved,
    List.head?_append]
  omega

/-- A page that was not scraped. -/
theorem harvest_concat_missed {visits : List PageVisit} {visit : PageVisit}
    (hsuccess : visit.result.success = false) (hsaved : visit.saved = none) :
    harvest (visits ++ [visit]) = (harvest visits).miss := by
  simp [harvest, Harvest.miss, successes, faults, payload, isLost, hsuccess, hsaved]
  omega

end PageVisit

/-! ## Where a round stands -/

namespace Hearing

/-- A round that has visited some pages: their calls are made, apart from those that are pending for
the first of the pages that are left. -/
structure HasVisited (registration : Registration) (startedAt : Instant)
    (startWritten : Outcome Bool) (visits : List PageVisit) (pending : List Call)
    (left : List String) (h : Hearing σ) : Prop where
  urls : visits.map PageVisit.url ++ left = registration.urls
  proper : ∀ visit ∈ visits, visit.IsProper registration.notifications
  log : h.log =
    [.record startedAt registration.id (registration.history.started startedAt) startWritten]
      ++ visits.flatMap (PageVisit.calls registration.id) ++ pending
  registration_eq : h.round.registration = registration.markStarted startedAt
  harvest : h.round.harvest = PageVisit.harvest visits
  errors : h.round.job.errors.length = PageVisit.faults visits + if startWritten.isOk then 0 else 1

/-- A round that has compared what it has got: all calls are made but the one for the end. -/
structure HasCompared (registration : Registration) (p : Proceedings) (h : Hearing σ) : Prop where
  urls : p.visits.map PageVisit.url = registration.urls
  proper : ∀ visit ∈ p.visits, visit.IsProper registration.notifications
  log : h.log = p.callsBeforeEnd registration
  registration_eq : h.round.registration = { registration.markStarted p.startedAt with
    history := { registration.history.started p.startedAt with
      lastContentHash := (PageVisit.hash? p.visits).or registration.history.lastContentHash } }
  summary : h.round.harvest.summary = p.summary registration
  succeeded : h.round.succeeded = !(PageVisit.successes p.visits).isEmpty
  errors : h.round.job.errors.length =
    PageVisit.faults p.visits + if p.startWritten.isOk then 0 else 1

/-- A round whose end is recorded: it has made all its calls. -/
structure HasRecorded (registration : Registration) (p : Proceedings) (h : Hearing σ) : Prop where
  urls : p.visits.map PageVisit.url = registration.urls
  proper : ∀ visit ∈ p.visits, visit.IsProper registration.notifications
  log : h.log = p.calls registration
  nextCheckAt : p.endedAt.plusDays? registration.checkIntervalDays = some p.nextCheckAt
  summary : h.round.harvest.summary = p.summary registration
  succeeded : h.round.succeeded = !(PageVisit.successes p.visits).isEmpty
  errors : h.round.job.errors.length = PageVisit.faults p.visits + p.unwritten

/-- A round that has come to its end, with its job as it will be remembered. -/
structure HasEnded (registration : Registration) (p : Proceedings) (h : Hearing σ) : Prop where
  urls : p.visits.map PageVisit.url = registration.urls
  proper : ∀ visit ∈ p.visits, visit.IsProper registration.notifications
  log : h.log = p.calls registration
  nextCheckAt : p.endedAt.plusDays? registration.checkIntervalDays = some p.nextCheckAt
  results : h.round.job.results = some (p.summary registration)
  errors : h.round.job.errors.length = PageVisit.faults p.visits + p.unwritten
  status : h.round.job.status =
    if (PageVisit.successes p.visits).isEmpty then .failed else .completed
  completed : h.round.job.completedAt.isSome

/-- The scrape of a page, with what it still has to do and the calls that it has made already. -/
inductive IsScraping (services : ScheduleServices σ) (url : String) :
    Activity (Logged σ) ScrapeResult → Activity σ ScrapeResult → List Call → Prop where
  /-- Nothing is done yet. -/
  | fresh : IsScraping services url (services.logged.scrape { url : ScrapeRequest }.withoutCache)
      (services.scrape { url : ScrapeRequest }.withoutCache) []
  | begun (inner : Activity σ ScrapeResult) : IsScraping services url inner.answering inner
      [.scrape { url : ScrapeRequest }.withoutCache]

/-- Where a round of a registration stands in each of its phases. -/
def Stands (services : ScheduleServices σ) (registration : Registration) (h : Hearing σ) : Prop :=
  match h.round.phase with
  | .starting =>
    h.log = [] ∧ h.round.registration = registration ∧ h.round.harvest = {} ∧
      h.round.job.errors = []
  | .choosing left => ∃ startedAt startWritten visits,
    h.HasVisited registration startedAt startWritten visits [] left
  | .scraping url rest work => ∃ startedAt startWritten visits inner pending,
    IsScraping services url work inner pending ∧
      h.HasVisited registration startedAt startWritten visits pending (url :: rest)
  | .received url rest result => ∃ startedAt startWritten visits,
    h.HasVisited registration startedAt startWritten visits
      [.scrape { url : ScrapeRequest }.withoutCache, .answer result] (url :: rest)
  | .concluding => ∃ startedAt startWritten visits,
    h.HasVisited registration startedAt startWritten visits [] []
  | .finishing => ∃ p : Proceedings, h.HasCompared registration p
  | .reporting => ∃ p : Proceedings, h.HasRecorded registration p
  | .leaving => ∃ p : Proceedings, h.HasEnded registration p
  | .lost => False

/-! ## What a step does -/

section

variable {services : ScheduleServices σ} {registration : Registration} {startedAt : Instant}
  {startWritten : Outcome Bool} {visits : List PageVisit} {pending : List Call} {left : List String}
  {h : Hearing σ}

/-- What a round has brought about changes with its log alone. -/
theorem HasVisited.goOn {later : Hearing σ} (more : List Call)
    (hvisited : h.HasVisited registration startedAt startWritten visits pending left)
    (hlog : later.log = h.log ++ more)
    (hregistration : later.round.registration = h.round.registration)
    (hharvest : later.round.harvest = h.round.harvest)
    (herrors : later.round.job.errors = h.round.job.errors) :
    later.HasVisited registration startedAt startWritten visits (pending ++ more) left where
  urls := hvisited.urls
  proper := hvisited.proper
  log := by rw [hlog, hvisited.log, List.append_assoc]
  registration_eq := hregistration.trans hvisited.registration_eq
  harvest := hharvest.trans hvisited.harvest
  errors := herrors ▸ hvisited.errors

theorem HasVisited.id_eq
    (hvisited : h.HasVisited registration startedAt startWritten visits pending left) :
    h.round.registration.id = registration.id := by
  rw [hvisited.registration_eq]
  rfl

theorem HasVisited.notifications_eq
    (hvisited : h.HasVisited registration startedAt startWritten visits pending left) :
    h.round.registration.notifications = registration.notifications := by
  rw [hvisited.registration_eq]
  rfl

theorem HasVisited.firstSuccess_eq
    (hvisited : h.HasVisited registration startedAt startWritten visits pending left) :
    h.round.harvest.firstSuccess = (PageVisit.successes visits).head?.map PageVisit.url := by
  rw [hvisited.harvest]
  rfl

theorem HasVisited.hash?_eq {first : PageVisit}
    (hvisited : h.HasVisited registration startedAt startWritten visits pending left)
    (hhead : (PageVisit.successes visits).head? = some first) :
    PageVisit.hash? visits = some h.round.harvest.digest := by
  rw [PageVisit.hash?, hhead, hvisited.harvest]
  rfl

/-- A notice that is wanted is one call, and one that is not is none. -/
theorem log_send_logged (services : ScheduleServices σ) (wanted : Bool) (notice : Notice)
    (s : Surroundings (Logged σ)) :
    (s.send services.logged wanted notice).world.1 = s.world.1 ++
      if wanted then [.notify notice (services.notify notice s.world.2).1] else [] := by
  cases wanted with
  | false => simp [Surroundings.send]
  | true => simp [Surroundings.send, ScheduleServices.logged]

/-- Writing bookkeeping back is one call; that it fails is one error of the job. -/
theorem recordIn_logged (services : ScheduleServices σ) (round : Round (Logged σ))
    (s : Surroundings (Logged σ)) :
    ∃ outcome : Outcome Bool,
      (round.recordIn services.logged s).2.world.1 = s.world.1 ++
        [.record (services.now s.world.2) round.registration.id round.registration.history
          outcome] ∧
      (round.recordIn services.logged s).1.harvest = round.harvest ∧
      (round.recordIn services.logged s).1.job.errors.length =
        round.job.errors.length + if outcome.isOk then 0 else 1 := by
  refine ⟨(services.record round.registration.id round.registration.history s.world.2).1, ?_⟩
  simp only [Round.recordIn, ScheduleServices.logged]
  cases (services.record round.registration.id round.registration.history s.world.2).1 with
  | ok found => exact ⟨rfl, rfl, rfl⟩
  | error cause => exact ⟨rfl, rfl, by simp [Round.addError, Except.isOk, Except.toBool]⟩

/-- The start is recorded. -/
theorem stands_proceed_of_starting (hphase : h.round.phase = .starting)
    (hstands : h.Stands services registration) (elapsed : Nat) :
    (h.proceed services elapsed).round.phase = .choosing registration.urls ∧
      (h.proceed services elapsed).Stands services registration := by
  simp only [Stands, hphase] at hstands
  obtain ⟨hlog, rfl, hharvest, herrors⟩ := hstands
  obtain ⟨outcome, hwritten, hkept, hcounted⟩ := recordIn_logged services
    { h.round with
      registration := h.round.registration.markStarted (services.now h.around.world.2) }
    h.around
  have hnext : (h.proceed services elapsed).round.phase = .choosing h.round.registration.urls := by
    simp only [proceed, Round.step, hphase, Round.start]
    rfl
  refine ⟨hnext, ?_⟩
  simp only [Stands, hnext]
  refine ⟨services.now h.around.world.2, outcome, [], rfl, by simp, ?_, ?_, ?_, ?_⟩
  · have hempty : h.around.world.1 = [] := hlog
    simpa [proceed, Round.step, hphase, Round.start, log, hempty, Registration.markStarted,
      Registration.id] using hwritten
  · simp [proceed, Round.step, hphase, Round.start]
  · simpa [proceed, Round.step, hphase, Round.start, hharvest] using hkept
  · simpa [proceed, Round.step, hphase, Round.start, herrors] using hcounted

/-- The next page is chosen. -/
theorem stands_proceed_of_choosing_cons {url : String} {rest : List String}
    (hphase : h.round.phase = .choosing (url :: rest)) (hstands : h.Stands services registration)
    (elapsed : Nat) :
    (h.proceed services elapsed).round.phase =
        .scraping url rest (services.logged.scrape { url : ScrapeRequest }.withoutCache) ∧
      (h.proceed services elapsed).Stands services registration := by
  simp only [Stands, hphase] at hstands
  obtain ⟨startedAt, startWritten, visits, hvisited⟩ := hstands
  have hnext : (h.proceed services elapsed).round.phase =
      .scraping url rest (services.logged.scrape { url : ScrapeRequest }.withoutCache) := by
    simp only [proceed, Round.step, hphase, Round.choose]
  refine ⟨hnext, ?_⟩
  simp only [Stands, hnext]
  refine ⟨startedAt, startWritten, visits, _, [], .fresh, hvisited.goOn [] ?_ ?_ ?_ ?_⟩
  all_goals simp [proceed, Round.step, hphase, Round.choose, Round.note, Job.note, log]

/-- No page is left. -/
theorem stands_proceed_of_choosing_nil (hphase : h.round.phase = .choosing [])
    (hstands : h.Stands services registration) (elapsed : Nat) :
    (h.proceed services elapsed).round.phase = .concluding ∧
      (h.proceed services elapsed).Stands services registration := by
  simp only [Stands, hphase] at hstands
  obtain ⟨startedAt, startWritten, visits, hvisited⟩ := hstands
  have hnext : (h.proceed services elapsed).round.phase = .concluding := by
    simp only [proceed, Round.step, hphase, Round.choose]
  refine ⟨hnext, ?_⟩
  simp only [Stands, hnext]
  refine ⟨startedAt, startWritten, visits, hvisited.goOn [] ?_ ?_ ?_ ?_⟩
  all_goals simp [proceed, Round.step, hphase, Round.choose, log]

/-- Whether it was begun or not, a scrape makes its request once and then goes on by itself. -/
theorem IsScraping.resume {url : String} {work : Activity (Logged σ) ScrapeResult}
    {inner : Activity σ ScrapeResult} (hscraping : IsScraping services url work inner pending)
    (cancelled : Bool) (elapsed : Nat) (w : Logged σ) :
    ∃ more, pending ++ more = [.scrape { url : ScrapeRequest }.withoutCache] ∧
      work.resume cancelled elapsed w =
        match inner.resume cancelled elapsed w.2 with
        | (.done result, s) => (.done result, (w.1 ++ more ++ [.answer result], s))
        | (rest, s) => (rest.answering, (w.1 ++ more, s)) := by
  cases hscraping with
  | fresh =>
      exact ⟨_, rfl, Activity.resume_answering _ cancelled elapsed
        (Logged.write (.scrape { url : ScrapeRequest }.withoutCache) w)⟩
  | begun inner =>
      refine ⟨[], rfl, ?_⟩
      rw [Activity.resume_answering, List.append_nil]

/-- The phase of a round whose scrape has come this far. -/
def phaseOf (url : String) (rest : List String) : Activity σ ScrapeResult → Phase (Logged σ)
  | .done result => .received url rest result
  | inner => .scraping url rest inner.answering

/-- A round that scrapes goes on with the scrape: it has the result, or waits. -/
theorem proceed_of_scraping {url : String} {rest : List String}
    {work : Activity (Logged σ) ScrapeResult} (hphase : h.round.phase = .scraping url rest work)
    {inner : Activity σ ScrapeResult} (hscraping : IsScraping services url work inner pending)
    (elapsed : Nat) :
    h.proceed services elapsed =
      { round := { h.round with
          phase := phaseOf url rest (inner.resume h.round.cancelled elapsed h.around.world.2).1 }
        around := { h.around with
          world := (work.resume h.round.cancelled elapsed h.around.world).2 } } := by
  obtain ⟨more, -, hresume⟩ := hscraping.resume h.round.cancelled elapsed h.around.world
  simp only [proceed, Round.step, hphase, Round.proceed, hresume]
  cases inner.resume h.round.cancelled elapsed h.around.world.2 with
  | mk later s => cases later <;> rfl

/-- Only with its request, and with its answer, does a scrape add to the calls of the round. -/
theorem stands_proceed_of_scraping {url : String} {rest : List String}
    {work : Activity (Logged σ) ScrapeResult} (hphase : h.round.phase = .scraping url rest work)
    (hstands : h.Stands services registration) (elapsed : Nat) :
    (h.proceed services elapsed).Stands services registration := by
  simp only [Stands, hphase] at hstands
  obtain ⟨startedAt, startWritten, visits, inner, pending, hscraping, hvisited⟩ := hstands
  obtain ⟨more, hpending, hresume⟩ := hscraping.resume h.round.cancelled elapsed h.around.world
  have hwaiting : pending ++ (more ++ []) = [.scrape { url : ScrapeRequest }.withoutCache] := by
    rw [List.append_nil, hpending]
  rw [proceed_of_scraping hphase hscraping, hresume]
  cases inner.resume h.round.cancelled elapsed h.around.world.2 with
  | mk later s =>
      cases later with
      | done result =>
          have hanswered : pending ++ (more ++ [.answer result]) =
              [.scrape { url : ScrapeRequest }.withoutCache, .answer result] := by
            rw [← List.append_assoc, hpending]
            rfl
          refine ⟨startedAt, startWritten, visits, ?_⟩
          rw [← hanswered]
          exact hvisited.goOn _ (List.append_assoc _ _ _) rfl rfl rfl
      | act update next =>
          refine ⟨startedAt, startWritten, visits, _, _, .begun (.act update next), ?_⟩
          rw [← hwaiting]
          exact hvisited.goOn _ (by simp [log]) rfl rfl rfl
      | wait pause next =>
          refine ⟨startedAt, startWritten, visits, _, _, .begun (.wait pause next), ?_⟩
          rw [← hwaiting]
          exact hvisited.goOn _ (by simp [log]) rfl rfl rfl

/-- One more page is visited. -/
theorem HasVisited.visit {later : Hearing σ} {url : String} {rest : List String}
    {result : ScrapeResult} (visit : PageVisit) (more : List Call)
    (hvisited : h.HasVisited registration startedAt startWritten visits
      [.scrape { url : ScrapeRequest }.withoutCache, .answer result] (url :: rest))
    (hurl : visit.url = url) (hproper : visit.IsProper registration.notifications)
    (hcalls : visit.calls registration.id =
      [.scrape { url : ScrapeRequest }.withoutCache, .answer result] ++ more)
    (hlog : later.log = h.log ++ more)
    (hregistration : later.round.registration = h.round.registration)
    (hharvest : later.round.harvest = PageVisit.harvest (visits ++ [visit]))
    (herrors : later.round.job.errors.length + PageVisit.faults visits =
      h.round.job.errors.length + PageVisit.faults (visits ++ [visit])) :
    later.HasVisited registration startedAt startWritten (visits ++ [visit]) [] rest where
  urls := by simpa [hurl] using hvisited.urls
  proper := by
    intro other hother
    rcases List.mem_append.mp hother with hother | hother
    · exact hvisited.proper other hother
    · rwa [List.mem_singleton.mp hother]
  log := by
    rw [hlog, hvisited.log, List.flatMap_append, List.flatMap_singleton, hcalls]
    simp only [List.append_assoc, List.append_nil]
  registration_eq := hregistration.trans hvisited.registration_eq
  harvest := hharvest
  errors := by
    have hbefore := hvisited.errors
    omega

/-- The page was scraped, and its result is to be stored. -/
theorem HasVisited.store {url : String} {rest : List String} {result : ScrapeResult}
    (hvisited : h.HasVisited registration startedAt startWritten visits
      [.scrape { url : ScrapeRequest }.withoutCache, .answer result] (url :: rest))
    (hsuccess : result.success = true) (phase : Phase (Logged σ)) :
    ∃ visit, HasVisited registration startedAt startWritten (visits ++ [visit]) [] rest
      { round := { (h.round.store services.logged url result h.around).1 with phase }
        around := (h.round.store services.logged url result h.around).2 } := by
  simp only [Round.store, hvisited.id_eq, ScheduleServices.logged]
  cases (services.save registration.id result h.around.world.2).1 with
  | ok file =>
      refine ⟨_, hvisited.visit { url, result, saved := some (.ok file) }
        [.save registration.id result (.ok file)] rfl
        ⟨by simp [hsuccess], by simp [hsuccess]⟩ rfl rfl rfl ?_ ?_⟩
      · rw [PageVisit.harvest_concat_saved hsuccess rfl, ← hvisited.harvest]
        rfl
      · simp [Round.note, Job.note, PageVisit.faults, PageVisit.isLost, hsuccess]
  | error cause =>
      refine ⟨_, hvisited.visit { url, result, saved := some (.error cause) }
        [.save registration.id result (.error cause)] rfl
        ⟨by simp [hsuccess], by simp [hsuccess]⟩ rfl rfl rfl ?_ ?_⟩
      · rw [PageVisit.harvest_concat_lost hsuccess rfl, ← hvisited.harvest]
        rfl
      · simp [Round.addError, PageVisit.faults, PageVisit.isLost, hsuccess]
        omega

/-- The page was not scraped, which is to be told if that is wanted. -/
theorem HasVisited.complain {url : String} {rest : List String} {result : ScrapeResult}
    (hvisited : h.HasVisited registration startedAt startWritten visits
      [.scrape { url : ScrapeRequest }.withoutCache, .answer result] (url :: rest))
    (hsuccess : result.success = false) (phase : Phase (Logged σ)) :
    ∃ visit, HasVisited registration startedAt startWritten (visits ++ [visit]) [] rest
      { round := { (h.round.complain services.logged url result h.around).1 with phase }
        around := (h.round.complain services.logged url result h.around).2 } := by
  let notice := Notice.error registration.id url ("; ".intercalate result.errors)
  let told : Option (Outcome Unit) :=
    if registration.notifications.onError then some (services.notify notice h.around.world.2).1
    else none
  refine ⟨_, hvisited.visit { url, result, told } (told.toList.map (.notify notice)) rfl
    ⟨by simp [hsuccess], ?_⟩ rfl ?_ rfl ?_ ?_⟩
  · cases hwanted : registration.notifications.onError <;> simp [told, hsuccess, hwanted]
  · simp only [Round.complain, Hearing.log, log_send_logged, hvisited.id_eq,
      hvisited.notifications_eq]
    cases hwanted : registration.notifications.onError <;>
      simp [told, notice, hwanted, Surroundings.tell]
  · rw [PageVisit.harvest_concat_missed hsuccess rfl, ← hvisited.harvest]
    rfl
  · simp [Round.complain, Round.addError, PageVisit.faults, PageVisit.isLost, hsuccess]
    omega

/-- The result of a page is dealt with. -/
theorem stands_proceed_of_received {url : String} {rest : List String} {result : ScrapeResult}
    (hphase : h.round.phase = .received url rest result)
    (hstands : h.Stands services registration) (elapsed : Nat) :
    (h.proceed services elapsed).round.phase = .choosing rest ∧
      (h.proceed services elapsed).Stands services registration := by
  simp only [Stands, hphase] at hstands
  obtain ⟨startedAt, startWritten, visits, hvisited⟩ := hstands
  have hnext : (h.proceed services elapsed).round.phase = .choosing rest := by
    simp only [proceed, Round.step, hphase, Round.receive]
  refine ⟨hnext, ?_⟩
  simp only [Stands, hnext]
  simp only [proceed, Round.step, hphase, Round.receive]
  cases hsuccess : result.success with
  | true =>
      obtain ⟨visit, hstored⟩ := hvisited.store hsuccess (.choosing rest)
      exact ⟨startedAt, startWritten, _, hstored⟩
  | false =>
      obtain ⟨visit, htold⟩ := hvisited.complain hsuccess (.choosing rest)
      exact ⟨startedAt, startWritten, _, htold⟩

/-- No page was scraped, so there is nothing to compare. -/
theorem HasVisited.conclude_of_none
    (hvisited : h.HasVisited registration startedAt startWritten visits [] [])
    (hhead : (PageVisit.successes visits).head? = none) (phase : Phase (Logged σ)) :
    ∃ p, HasCompared registration p { h with round := { h.round with phase } } := by
  have hempty : PageVisit.successes visits = [] := List.head?_eq_none_iff.mp hhead
  refine ⟨⟨startedAt, startWritten, visits, .ok (), startedAt, startedAt, .ok true⟩,
    by simpa using hvisited.urls, hvisited.proper, ?_, ?_, ?_, ?_, hvisited.errors⟩
  · exact hvisited.log.trans
      (by simp [Proceedings.callsBeforeEnd, Proceedings.announcement?, hhead])
  · simp only [PageVisit.hash?, hhead, hvisited.registration_eq]
    rfl
  · simp [hvisited.harvest, PageVisit.harvest, Proceedings.summary, Proceedings.isNews,
      PageVisit.hash?, hhead]
  · simp [Round.succeeded, hvisited.firstSuccess_eq, hempty]

/-- Some page was scraped, so what was got is compared with what was there before. -/
theorem HasVisited.conclude_of_some (services : ScheduleServices σ) {first : PageVisit}
    (hvisited : h.HasVisited registration startedAt startWritten visits [] [])
    (hhead : (PageVisit.successes visits).head? = some first) (phase : Phase (Logged σ))
    {around : Surroundings (Logged σ)}
    (haround : around.world.1 = h.log ++
      if h.round.isNew && registration.notifications.onNewContent then
        [.notify (.newContent registration.id first.url h.round.harvest.digest)
          (services.notify (.newContent registration.id first.url h.round.harvest.digest)
            h.around.world.2).1]
      else []) :
    ∃ p, HasCompared registration p { round := { h.round.compared with phase }, around } := by
  have hhash := hvisited.hash?_eq hhead
  have hdigest : h.round.harvest.digest = (Json.object (PageVisit.payload visits)).digest := by
    simpa [PageVisit.hash?, hhead] using hhash.symm
  let p : Proceedings := {
    startedAt, startWritten, visits
    announced := (services.notify (.newContent registration.id first.url h.round.harvest.digest)
      h.around.world.2).1
    endedAt := startedAt, nextCheckAt := startedAt, endWritten := .ok true }
  have hnews : h.round.isNew = p.isNews registration := by
    simp [Round.isNew, Proceedings.isNews, p, hhash, hvisited.registration_eq,
      Registration.markStarted, Bookkeeping.started]
  have hannounced : p.announcement? registration =
      if h.round.isNew && registration.notifications.onNewContent then
        some (.newContent registration.id first.url h.round.harvest.digest)
      else none := by
    rw [Proceedings.announcement?, ← hnews, hdigest]
    simp only [p, hhead, Option.map_some]
  refine ⟨p, by simpa using hvisited.urls, hvisited.proper, ?_, ?_, ?_, ?_, hvisited.errors⟩
  · refine haround.trans ?_
    rw [hvisited.log, Proceedings.callsBeforeEnd, hannounced]
    cases h.round.isNew && registration.notifications.onNewContent <;> simp [p]
  · simp [Round.compared, hhash, hvisited.registration_eq, p, Registration.markStarted]
  · simp [Round.compared, hvisited.harvest, PageVisit.harvest, Proceedings.summary, hnews, hhash, p]
  · have hnonempty : PageVisit.successes visits ≠ [] := by
      intro hempty
      rw [hempty] at hhead
      cases hhead
    simp [Round.succeeded, Round.compared, hvisited.firstSuccess_eq, hhead, p, hnonempty]

/-- What was got is compared with what was there before, and told if it is new. -/
theorem stands_proceed_of_concluding (hphase : h.round.phase = .concluding)
    (hstands : h.Stands services registration) (elapsed : Nat) :
    (h.proceed services elapsed).round.phase = .finishing ∧
      (h.proceed services elapsed).Stands services registration := by
  simp only [Stands, hphase] at hstands
  obtain ⟨startedAt, startWritten, visits, hvisited⟩ := hstands
  have hnext : (h.proceed services elapsed).round.phase = .finishing := by
    simp only [proceed, Round.step, hphase, Round.conclude]
    split <;> rfl
  refine ⟨hnext, ?_⟩
  simp only [Stands, hnext]
  simp only [proceed, Round.step, hphase, Round.conclude, hvisited.firstSuccess_eq]
  cases hhead : (PageVisit.successes visits).head? with
  | none => exact hvisited.conclude_of_none hhead .finishing
  | some first =>
      refine hvisited.conclude_of_some services hhead .finishing ?_
      cases hisNew : h.round.isNew with
      | false => simp [log]
      | true =>
          simp [log, log_send_logged, hvisited.id_eq, hvisited.notifications_eq,
            Surroundings.tell]

/-- The bookkeeping of a round that has compared what it got, when its end is recorded. -/
theorem HasCompared.markFinished? {p : Proceedings} (hcompared : h.HasCompared registration p)
    {endedAt nextCheckAt : Instant}
    (hnext : endedAt.plusDays? registration.checkIntervalDays = some nextCheckAt) :
    h.round.registration.markFinished? endedAt h.round.succeeded =
      some { h.round.registration with
        history := { p with endedAt, nextCheckAt : Proceedings }.bookkeeping
          registration.history } := by
  have hdays : h.round.registration.checkIntervalDays = registration.checkIntervalDays := by
    rw [hcompared.registration_eq]
    rfl
  rw [Registration.markFinished?, Bookkeeping.finished?, hdays, hnext, hcompared.succeeded,
    hcompared.registration_eq]
  cases hempty : (PageVisit.successes p.visits).isEmpty with
  | true => simp [Proceedings.bookkeeping, Registration.markStarted, Bookkeeping.started, hempty]
  | false => simp [Proceedings.bookkeeping, Registration.markStarted, Bookkeeping.started, hempty]

/-- The end is recorded, with the next round at a moment that there is. -/
theorem stands_proceed_of_finishing (hphase : h.round.phase = .finishing)
    (hdate : ((services.now h.around.world.2).plusDays? registration.checkIntervalDays).isSome)
    (hstands : h.Stands services registration) (elapsed : Nat) :
    (h.proceed services elapsed).round.phase = .reporting ∧
      (h.proceed services elapsed).Stands services registration := by
  simp only [Stands, hphase] at hstands
  obtain ⟨p, hcompared⟩ := hstands
  obtain ⟨nextCheckAt, hnextCheckAt⟩ := Option.isSome_iff_exists.mp hdate
  let ready : Round (Logged σ) := { h.round with registration := { h.round.registration with
    history := { p with endedAt := services.now h.around.world.2, nextCheckAt }.bookkeeping
      registration.history } }
  obtain ⟨outcome, hwritten, hkept, hcounted⟩ := recordIn_logged services ready h.around
  have hafter : h.proceed services elapsed =
      { round := { (ready.recordIn services.logged h.around).1 with phase := .reporting }
        around := (ready.recordIn services.logged h.around).2 } := by
    simp [proceed, Round.step, hphase, Round.finish, hcompared.markFinished? hnextCheckAt, ready]
  have hid : ready.registration.id = registration.id := by
    change h.round.registration.id = registration.id
    rw [hcompared.registration_eq]
    rfl
  have hlog : h.around.world.1 = p.callsBeforeEnd registration := hcompared.log
  rw [hafter]
  refine ⟨rfl, { p with
      endedAt := services.now h.around.world.2, nextCheckAt, endWritten := outcome },
    hcompared.urls, hcompared.proper, ?_, hnextCheckAt, ?_, ?_, ?_⟩
  · refine hwritten.trans ?_
    rw [hid, hlog]
    rfl
  · exact (congrArg Harvest.summary hkept).trans hcompared.summary
  · exact (congrArg (·.firstSuccess.isSome) hkept).trans hcompared.succeeded
  · refine hcounted.trans ?_
    have herrors : ready.job.errors.length =
        PageVisit.faults p.visits + if p.startWritten.isOk then 0 else 1 := hcompared.errors
    rw [herrors]
    cases hstart : p.startWritten.isOk <;> cases hend : outcome.isOk <;>
      simp [Proceedings.unwritten, hstart, hend]

/-- The job is given its end. -/
theorem stands_proceed_of_reporting (hphase : h.round.phase = .reporting)
    (hstands : h.Stands services registration) (elapsed : Nat) :
    (h.proceed services elapsed).round.phase = .leaving ∧
      (h.proceed services elapsed).Stands services registration := by
  simp only [Stands, hphase] at hstands
  obtain ⟨p, hrecorded⟩ := hstands
  have hnext : (h.proceed services elapsed).round.phase = .leaving := by
    simp only [proceed, Round.step, hphase, Round.report]
  refine ⟨hnext, ?_⟩
  simp only [Stands, hnext]
  refine ⟨p, hrecorded.urls, hrecorded.proper, ?_, hrecorded.nextCheckAt, ?_, ?_, ?_, ?_⟩
  · simpa [proceed, Round.step, hphase, Round.report, log, Surroundings.tell] using hrecorded.log
  · simpa [proceed, Round.step, hphase, Round.report, Job.finish] using hrecorded.summary
  · simpa [proceed, Round.step, hphase, Round.report, Job.finish] using hrecorded.errors
  · simp [proceed, Round.step, hphase, Round.report, Job.finish, Round.finalStatus,
      hrecorded.succeeded]
  · simp [proceed, Round.step, hphase, Round.report, Job.finish]

theorem HasVisited.await (hvisited : h.HasVisited registration startedAt startWritten visits pending
    left) (turn : Turn σ) :
    (h.await turn).HasVisited registration startedAt startWritten visits pending left :=
  ⟨hvisited.urls, hvisited.proper, hvisited.log, hvisited.registration_eq, hvisited.harvest,
    hvisited.errors⟩

/-- What goes on between two steps of a round changes nothing of what it has brought about. -/
theorem Stands.await (hstands : h.Stands services registration) (turn : Turn σ) :
    (h.await turn).Stands services registration := by
  have hphases : (h.await turn).round.phase = h.round.phase := rfl
  cases hphase : h.round.phase with
  | starting =>
      simp only [Stands, hphases, hphase] at hstands ⊢
      exact hstands
  | choosing urls | received url rest result | concluding =>
      simp only [Stands, hphases, hphase] at hstands ⊢
      obtain ⟨startedAt, startWritten, visits, hvisited⟩ := hstands
      exact ⟨startedAt, startWritten, visits, hvisited.await turn⟩
  | scraping url rest work =>
      simp only [Stands, hphases, hphase] at hstands ⊢
      obtain ⟨startedAt, startWritten, visits, inner, pending, hscraping, hvisited⟩ := hstands
      exact ⟨startedAt, startWritten, visits, inner, pending, hscraping, hvisited.await turn⟩
  | finishing =>
      simp only [Stands, hphases, hphase] at hstands ⊢
      obtain ⟨p, hurls, hproper, hlog, hregistration, hsummary, hsucceeded, herrors⟩ := hstands
      exact ⟨p, hurls, hproper, hlog, hregistration, hsummary, hsucceeded, herrors⟩
  | reporting =>
      simp only [Stands, hphases, hphase] at hstands ⊢
      obtain ⟨p, hurls, hproper, hlog, hnext, hsummary, hsucceeded, herrors⟩ := hstands
      exact ⟨p, hurls, hproper, hlog, hnext, hsummary, hsucceeded, herrors⟩
  | leaving =>
      simp only [Stands, hphases, hphase] at hstands ⊢
      obtain ⟨p, hurls, hproper, hlog, hnext, hresults, herrors, hstatus, hcompleted⟩ := hstands
      exact ⟨p, hurls, hproper, hlog, hnext, hresults, herrors, hstatus, hcompleted⟩
  | lost => simp only [Stands, hphase] at hstands

/-- Every turn of a round preserves the invariant. -/
theorem Stands.turn (hstands : h.Stands services registration) (turn : Turn σ)
    (hdate : (h.await turn).round.phase = .finishing →
      ((services.now (h.await turn).around.world.2).plusDays?
        registration.checkIntervalDays).isSome) :
    (h.turn services turn).Stands services registration := by
  have hawaited := hstands.await turn
  cases hphase : (h.await turn).round.phase with
  | starting => exact (stands_proceed_of_starting hphase hawaited _).2
  | choosing urls =>
      cases urls with
      | nil => exact (stands_proceed_of_choosing_nil hphase hawaited _).2
      | cons url rest => exact (stands_proceed_of_choosing_cons hphase hawaited _).2
  | scraping url rest work => exact stands_proceed_of_scraping hphase hawaited _
  | received url rest result => exact (stands_proceed_of_received hphase hawaited _).2
  | concluding => exact (stands_proceed_of_concluding hphase hawaited _).2
  | finishing => exact (stands_proceed_of_finishing hphase (hdate hphase) hawaited _).2
  | reporting => exact (stands_proceed_of_reporting hphase hawaited _).2
  | leaving =>
      have hstays : h.turn services turn = h.await turn := by
        simp [Hearing.turn, proceed, Round.step, hphase]
      rwa [hstays]
  | lost =>
      simp only [Stands, hphase] at hawaited

theorem stands_opening (services : ScheduleServices σ) (registration : Registration) (id : JobId)
    (moment : Instant) (world : σ) :
    (opening ((Job.create id registration.id moment).start moment) registration world).Stands
      services registration :=
  ⟨rfl, rfl, rfl, rfl⟩

/-- Along all turns of a round the invariant holds. -/
theorem stands_after {turns : Nat → Turn σ} (hstands : h.Stands services registration)
    (hdates : h.HasDates services turns registration.checkIntervalDays) (n : Nat) :
    (h.after services turns n).Stands services registration := by
  induction n with
  | zero => exact hstands
  | succ n ih => exact ih.turn (turns n) (hdates n)

/-- A round that is about to leave stays so. -/
theorem leaving_after {turns : Nat → Turn σ} {n : Nat}
    (hleaving : (h.after services turns n).round.phase = .leaving) (later : Nat) :
    (h.after services turns (n + later)).round.phase = .leaving := by
  induction later with
  | zero => exact hleaving
  | succ later ih =>
      have hawaited : (h.awaited services turns (n + later)).round.phase = .leaving := ih
      change ((h.awaited services turns (n + later)).proceed services _).round.phase = .leaving
      simp only [proceed, Round.step, hawaited]

/-- The phase of a round that has one step left. -/
theorem leaving_of_stepsLeft {round : Round σ} (hsteps : round.stepsLeft = 1) :
    round.phase = .leaving := by
  cases hphase : round.phase <;> simp [Round.stepsLeft, hphase] at hsteps ⊢

/-- A round that comes to its end without a wait is never stuck. -/
theorem neverStuck_of_leaving {turns : Nat → Turn σ} {n : Nat}
    (hleaving : (h.after services turns n).round.phase = .leaving)
    (hrests : ∀ m < n, (h.after services turns m).round.rests = false) :
    h.NeverStuck services turns := by
  intro m url rest pause next hphase
  rcases Nat.lt_or_ge m n with hm | hm
  · have hmoving := hrests m hm
    simp [Round.rests, hphase] at hmoving
  · obtain ⟨later, rfl⟩ := Nat.exists_eq_add_of_le hm
    rw [leaving_after hleaving later] at hphase
    cases hphase

/-! ## A round comes to its end -/

/-- How far a turn brings a scrape. -/
theorem phase_after_succ_of_scraping {turns : Nat → Turn σ} {n : Nat} {url : String}
    {rest : List String} {work : Activity (Logged σ) ScrapeResult}
    (hphase : (h.after services turns n).round.phase = .scraping url rest work)
    {inner : Activity σ ScrapeResult} (hscraping : IsScraping services url work inner pending) :
    (h.after services turns (n + 1)).round.phase =
      phaseOf url rest (inner.resume (h.awaited services turns n).round.cancelled
        (turns n).elapsed (h.awaited services turns n).around.world.2).1 := by
  have hawaited : (h.awaited services turns n).round.phase = .scraping url rest work := hphase
  exact congrArg (·.round.phase) (proceed_of_scraping hawaited hscraping (turns n).elapsed)

/-- A wait of a scrape is ended in some turn, and until then the round stays where it is. -/
theorem exists_woken {turns : Nat → Turn σ} (hturns : h.NeverStuck services turns) {n : Nat}
    {url : String} {rest : List String} {pause : Pause σ}
    {next : Wake → Nat → Activity σ ScrapeResult}
    (hphase : (h.after services turns n).round.phase =
      .scraping url rest (Activity.wait pause next).answering) :
    ∃ m wake, n ≤ m ∧
      (h.after services turns m).round.phase =
        .scraping url rest (Activity.wait pause next).answering ∧
      Activity.wakeNow? pause (h.awaited services turns m).round.cancelled (turns m).elapsed
        (h.awaited services turns m).around.world.2 = some wake := by
  obtain ⟨last, hlast, hwakes⟩ := hturns n url rest _ _ hphase
  obtain ⟨d, rfl⟩ := Nat.exists_eq_add_of_le hlast
  clear hlast
  induction d generalizing n with
  | zero =>
      obtain ⟨wake, hwake⟩ := Option.isSome_iff_exists.mp hwakes
      exact ⟨n, wake, Nat.le_refl n, hphase, hwake⟩
  | succ d ih =>
      cases hwake : Activity.wakeNow? pause (h.awaited services turns n).round.cancelled
          (turns n).elapsed (h.awaited services turns n).around.world.2 with
      | some wake => exact ⟨n, wake, Nat.le_refl n, hphase, hwake⟩
      | none =>
          have hstays := phase_after_succ_of_scraping hphase (.begun (.wait pause next))
          rw [Activity.resume, hwake] at hstays
          have hmoved : n + (d + 1) = n + 1 + d := by omega
          rw [hmoved] at hwakes
          obtain ⟨m, wake, hm, hthere, hwoken⟩ := ih hstays hwakes
          exact ⟨m, wake, Nat.le_of_succ_le hm, hthere, hwoken⟩

/-- A scrape that has begun is answered in some turn. -/
theorem exists_received {turns : Nat → Turn σ} (hturns : h.NeverStuck services turns)
    (inner : Activity σ ScrapeResult) (cancelled : Bool) (elapsed : Nat) (s : σ) {url : String}
    {rest : List String} {n : Nat}
    (hphase : (h.after services turns n).round.phase =
      phaseOf url rest (inner.resume cancelled elapsed s).1) :
    ∃ m, n ≤ m ∧ ∃ result, (h.after services turns m).round.phase = .received url rest result := by
  induction inner generalizing cancelled elapsed s n with
  | done result => exact ⟨n, Nat.le_refl n, result, hphase⟩
  | act update next ih => exact ih s cancelled elapsed (update s) hphase
  | wait pause next ih =>
      cases hwake : Activity.wakeNow? pause cancelled elapsed s with
      | some wake =>
          rw [Activity.resume, hwake] at hphase
          exact ih wake elapsed cancelled 0 s hphase
      | none =>
          rw [Activity.resume, hwake] at hphase
          obtain ⟨m, wake, hm, hthere, hwoken⟩ := exists_woken hturns hphase
          have hsucc := phase_after_succ_of_scraping hthere (.begun (.wait pause next))
          rw [Activity.resume, hwoken] at hsucc
          obtain ⟨last, hlast, hreceived⟩ := ih wake _ _ _ _ hsucc
          exact ⟨last, Nat.le_trans hm (Nat.le_of_succ_le hlast), hreceived⟩

/-- A round gets to the end of its pages. -/
theorem exists_concluding {turns : Nat → Turn σ} (hturns : h.NeverStuck services turns)
    (hall : ∀ n, (h.awaited services turns n).Stands services registration) (urls : List String)
    {n : Nat} (hphase : (h.after services turns n).round.phase = .choosing urls) :
    ∃ m, (h.after services turns m).round.phase = .concluding := by
  induction urls generalizing n with
  | nil =>
      exact ⟨n + 1, (stands_proceed_of_choosing_nil (h := h.awaited services turns n) hphase
        (hall n) (turns n).elapsed).1⟩
  | cons url rest ih =>
      have hchosen : (h.after services turns (n + 1)).round.phase = .scraping url rest _ :=
        (stands_proceed_of_choosing_cons (h := h.awaited services turns n) hphase (hall n)
          (turns n).elapsed).1
      have hbegun := phase_after_succ_of_scraping hchosen .fresh
      obtain ⟨m, -, result, hreceived⟩ := exists_received hturns _ _ _ _ hbegun
      exact ih (n := m + 1) (stands_proceed_of_received (h := h.awaited services turns m) hreceived
        (hall m) (turns m).elapsed).1

end

/-- What becomes of a round. However the world changes between its steps, and whether or not its job
is called off, as long as no scrape waits forever and there is a moment for the next round: the
round comes to its end, and then there are proceedings of it that account for every call it has
made, for its numbers, for its errors and for the state of its job. -/
theorem exists_hasEnded (services : ScheduleServices σ) (registration : Registration) (id : JobId)
    (moment : Instant) (world : σ) (turns : Nat → Turn σ)
    (hturns : (opening ((Job.create id registration.id moment).start moment) registration
      world).NeverStuck services turns)
    (hdates : (opening ((Job.create id registration.id moment).start moment) registration
      world).HasDates services turns registration.checkIntervalDays) :
    ∃ n p,
      let h := (opening ((Job.create id registration.id moment).start moment) registration
        world).after services turns n
      h.round.phase = .leaving ∧ h.HasEnded registration p := by
  have hopening := stands_opening services registration id moment world
  have hstarting : (opening ((Job.create id registration.id moment).start moment) registration
      world).round.phase = .starting := rfl
  generalize opening ((Job.create id registration.id moment).start moment) registration world = h
    at hopening hstarting hturns hdates ⊢
  have hall : ∀ n, (h.awaited services turns n).Stands services registration :=
    fun n => (stands_after hopening hdates n).await (turns n)
  obtain ⟨m, hconcluding⟩ := exists_concluding hturns hall registration.urls (n := 1)
    (stands_proceed_of_starting (h := h.awaited services turns 0) hstarting (hall 0)
      (turns 0).elapsed).1
  have hfinishing := (stands_proceed_of_concluding (h := h.awaited services turns m) hconcluding
    (hall m) (turns m).elapsed).1
  have hreporting := (stands_proceed_of_finishing (h := h.awaited services turns (m + 1)) hfinishing
    (hdates (m + 1) hfinishing) (hall (m + 1)) (turns (m + 1)).elapsed).1
  obtain ⟨hleaving, hstands⟩ := stands_proceed_of_reporting
    (h := h.awaited services turns (m + 2)) hreporting (hall (m + 2)) (turns (m + 2)).elapsed
  simp only [Stands, hleaving] at hstands
  obtain ⟨p, hended⟩ := hstands
  exact ⟨m + 3, p, hleaving, hended⟩

/-- A round of two pages, the second of which cannot be scraped, comes to its end. -/
theorem exists_hasEnded_of_two_pages :
    let registration : Registration := {
      site := { id := "events", domain := "example.com" }
      targetUrls := ["https://example.com/a", "https://example.com/b"] }
    let services := Rehearsal.Backstage.services {} ⟨0, 0⟩ (Rehearsal.Backstage.scrape ⟨0, 0⟩)
    let world : Rehearsal.Backstage := {
      register := [registration]
      failing := ["https://example.com/b"]
      scraping := { world := {} } }
    ∃ n p,
      let h := (opening ((Job.create ⟨0⟩ registration.id ⟨0, 0⟩).start ⟨0, 0⟩) registration
        world).after services (fun _ => {}) n
      h.round.phase = .leaving ∧ h.HasEnded registration p := by
  intro registration services world
  refine exists_hasEnded services registration ⟨0⟩ ⟨0, 0⟩ world (fun _ => {}) ?_ fun n _ => ?_
  · exact neverStuck_of_leaving (n := 11) (leaving_of_stepsLeft (by decide +kernel))
      (by decide +kernel)
  · change ((⟨0, 0⟩ : Instant).plusDays? 1).isSome = true
    decide

end Hearing

end SiteWatch
