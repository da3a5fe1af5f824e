/-
# Jobs give their places back

A job that was launched takes one of the places for jobs, and its site gets no other job meanwhile.
This module follows one job along an endless course, in which everything else may happen in between,
as long as the job gets its turns and no scrape of it waits forever. It comes to the end of its
pages, whatever its collaborators answer, and then records that end. There its way parts: if there
is a day for the next round, the job leaves, and its place and its site are free; if that day is too
far off, the job breaks off and keeps its place until a stop abandons it.
-/

import SiteWatch.Proofs.Schedule.Stopping
import SiteWatch.Proofs.Schedule.Succession

namespace SiteWatch

variable {σ : Type}

/-- What lasts until somebody's turn comes is still there at one of these turns. -/
theorem exists_turn_of_lasting {holds turn : Nat → Prop}
    (hlasts : ∀ n, holds n → ¬ turn n → holds (n + 1)) {n m : Nat} (hnm : n ≤ m) (hholds : holds n)
    (hturn : turn m) : ∃ k, n ≤ k ∧ holds k ∧ turn k := by
  obtain ⟨d, rfl⟩ := Nat.exists_eq_add_of_le hnm
  clear hnm
  induction d generalizing n with
  | zero => exact ⟨n, Nat.le_refl n, hholds, hturn⟩
  | succ d ih =>
      by_cases hnow : turn n
      · exact ⟨n, Nat.le_refl n, hholds, hnow⟩
      · have hmoved : n + (d + 1) = n + 1 + d := by omega
        rw [hmoved] at hturn
        obtain ⟨k, hk, hthere, hcome⟩ := ih (hlasts n hholds hnow) hturn
        exact ⟨k, Nat.le_of_succ_le hk, hthere, hcome⟩

/-- There is a day so many days later unless it comes after the last one that there is. -/
theorem Instant.isSome_plusDays?_iff {t : Instant} (ht : t.date.inRange = true) (days : Nat) :
    (t.plusDays? days).isSome = true ↔ t.date.day + days ≤ Date.last.day := by
  simp only [Date.inRange, Bool.and_eq_true, decide_eq_true_eq] at ht
  have hday : (t.seconds + (days * secondsPerDay : Nat)).ediv secondsPerDay =
      t.date.day + days := by
    show (t.seconds + (days * secondsPerDay : Nat)) / (secondsPerDay : Int) = _
    rw [Int.natCast_mul]
    exact Int.add_mul_ediv_right _ _ (by decide)
  have hlater (nanos : Nat) :
      (⟨t.seconds + (days * secondsPerDay : Nat), nanos⟩ : Instant).date.inRange = true ↔
        t.date.day + days ≤ Date.last.day := by
    have hfirst := ht.1
    simp only [date, Date.inRange, hday, Bool.and_eq_true, decide_eq_true_eq] at hfirst ⊢
    exact ⟨fun hrange => hrange.2, fun hlast => ⟨by omega, hlast⟩⟩
  unfold plusDays?
  dsimp only
  generalize (if days > 0 ∧ t.nanos ≥ 1000000000 then t.nanos - 1000000000 else t.nanos) = nanos
  rw [← hlater nanos]
  split
  · exact iff_of_true rfl ‹_›
  · exact iff_of_false nofun ‹_›

/-! ## What others do to the round of a job -/

namespace Round

/-- No step changes the site of the job of a round. -/
theorem siteId_step (services : ScheduleServices σ) (elapsed : Nat) (round : Round σ)
    (s : Surroundings σ) : (round.step services elapsed s).1.job.siteId = round.job.siteId := by
  have hrecord : ∀ (round : Round σ) (s : Surroundings σ),
      (round.recordIn services s).1.job.siteId = round.job.siteId := by
    intro round s
    simp only [recordIn]
    split <;> rfl
  cases hphase : round.phase with
  | choosing urls => cases urls <;> simp [step, hphase, choose, note, Job.note]
  | received url rest result =>
      simp only [step, hphase, receive, store, complain]
      split
      · split <;> rfl
      · rfl
  | concluding =>
      simp only [step, hphase, conclude]
      split <;> rfl
  | finishing =>
      simp only [step, hphase, finish]
      split <;> simp [hrecord]
  | starting | scraping | reporting | leaving | lost =>
      simp [step, hphase, start, proceed, report, Job.finish, hrecord]

/-- How far a scrape has come that was gone on with: it is over, or waits. -/
def phaseOf (url : String) (rest : List String) : Activity σ ScrapeResult → Phase σ
  | .done result => .received url rest result
  | work => .scraping url rest work

/-- A round whose end is to be recorded goes on if there is a day for the next one, and breaks off
otherwise. -/
theorem phase_step_of_finishing (services : ScheduleServices σ) {round : Round σ}
    (hphase : round.phase = .finishing) (elapsed : Nat) (s : Surroundings σ) :
    (round.step services elapsed s).1.phase =
      match (services.now s.world).plusDays? round.registration.checkIntervalDays with
      | some _ => .reporting
      | none => .lost := by
  simp only [step, hphase, finish, Registration.markFinished?, Bookkeeping.finished?]
  cases (services.now s.world).plusDays? round.registration.checkIntervalDays <;> rfl

/-- A round that has no step left has broken off. -/
theorem lost_of_stepsLeft {round : Round σ} (hsteps : round.stepsLeft = 0) :
    round.phase = .lost := by
  cases hphase : round.phase <;> simp [stepsLeft, hphase] at hsteps ⊢

theorem phase_step_of_scraping (services : ScheduleServices σ) {round : Round σ} {url : String}
    {rest : List String} {work : Activity σ ScrapeResult}
    (hphase : round.phase = .scraping url rest work) (elapsed : Nat) (s : Surroundings σ) :
    (round.step services elapsed s).1.phase =
      phaseOf url rest (work.resume round.cancelled elapsed s.world).1 := by
  simp only [step, hphase, proceed]
  cases work.resume round.cancelled elapsed s.world with
  | mk later t => cases later <;> rfl

end Round

namespace Scheduler

variable {s : Scheduler σ} {job : JobId} {round : Round σ}

/-- Calling a round off leaves it where it is. -/
theorem exists_round?_callOff (hround : s.round? job = some round) (id : JobId) :
    ∃ cancelled, (s.callOff id).round? job = some { round with cancelled } := by
  have hids : ((fun round : Round σ => round.job.id == job) ∘
      fun round => if round.job.id == id then { round with cancelled := true } else round) =
        fun round => round.job.id == job := by
    funext round
    simp only [Function.comp_apply]
    split <;> rfl
  have hcalled : (s.callOff id).round? job = (s.round? job).map fun round =>
      if round.job.id == id then { round with cancelled := true } else round := by
    rw [round?, callOff, List.find?_map, hids]
    rfl
  rw [hcalled, hround]
  by_cases hid : round.job.id = id
  · exact ⟨true, by simp [hid]⟩
  · exact ⟨round.cancelled, by simp [hid]⟩

/-- A round that is there is found though more rounds are launched. -/
theorem round?_launchDue (services : ScheduleServices σ) (due : List Registration)
    (hround : s.round? job = some round) :
    (s.launchDue services due).2.round? job = some round := by
  refine List.foldlRecOn due (consider services)
    (motive := fun progress => progress.2.round? job = some round) ?_ ?_
  · exact hround
  rintro ⟨report, t⟩ ht registration -
  simp only [consider]
  split
  · exact ht
  · split
    · exact ht
    · show (t.rounds ++ [_]).find? _ = some round
      rw [List.find?_append]
      exact Option.or_eq_some_iff.mpr (.inl ht)

/-- Abandoning jobs leaves rounds where they are, and at most calls them off. -/
theorem exists_round?_endStop (services : ScheduleServices σ) (inFlight : Nat)
    (hround : s.round? job = some round) :
    ∃ cancelled, (s.endStop services inFlight).2.round? job = some { round with cancelled } := by
  refine List.foldlRecOn s.running (abandon services) (motive := fun t : Scheduler σ =>
    ∃ cancelled, t.round? job = some { round with cancelled }) ⟨round.cancelled, hround⟩ ?_
  rintro t ⟨cancelled, ht⟩ other -
  exact exists_round?_callOff ht other.id

theorem running_launchDue (services : ScheduleServices σ) (due : List Registration)
    (s : Scheduler σ) : s.running ⊆ (s.launchDue services due).2.running := by
  refine List.foldlRecOn due (consider services)
    (motive := fun progress => s.running ⊆ progress.2.running) ?_ ?_
  · exact List.Subset.refl _
  rintro ⟨report, t⟩ ht registration -
  simp only [consider]
  split
  · exact ht
  · split
    · exact ht
    · exact fun job hjob => List.mem_append_left _ (ht hjob)

/-- The step of a round takes no job out of those that run but its own. -/
theorem mem_running_stepRound (services : ScheduleServices σ) {other : Job}
    (hother : other ∈ s.running) (hkeeps : other.id ≠ job ∨
      ∀ round, s.round? job = some round → round.phase ≠ .leaving) (elapsed : Nat) :
    other ∈ (s.stepRound services job elapsed).running := by
  cases hround : s.round? job with
  | none =>
      rw [stepRound_of_none hround]
      exact hother
  | some round =>
      by_cases hphase : round.phase = .leaving
      · have hne : other.id ≠ job := hkeeps.resolve_right fun hnever =>
          hnever round hround hphase
        have hleft : other ∈ s.running.filter (·.id != round.job.id) := by
          apply List.mem_filter.mpr
          rw [job_id_of_round? hround]
          exact ⟨hother, bne_iff_ne.mpr hne⟩
        rw [stepRound_eq_leave hround hphase]
        simp only [leave]
        split
        · exact hleft
        · exact hleft
      · rw [stepRound_eq_step hround hphase]
        exact hother

end Scheduler

/-! ## A place that is given back -/

/-- A job gives its place back: its round is over, it no longer runs, and if it ran until now it is
remembered, as it was when it ended, and its site and a place are free. -/
structure Scheduler.Frees (settings : ScheduleSettings) (job : Job) (s t : Scheduler σ) :
    Prop where
  gone : t.round? job.id = none
  out : ∀ other ∈ t.running, other.id ≠ job.id
  recorded : job ∈ s.running → ∃ ended : Job, ended.id = job.id ∧ ended.siteId = job.siteId ∧
    ended.HasEnded ∧ t.history = (ended :: s.history).take settings.historyLimit
  site_free : job ∈ s.running → t.isRunning job.siteId = false
  place_free : job ∈ s.running → t.running.length < settings.maxConcurrentJobs

/-- A round that leaves gives the place of its job back. -/
theorem Scheduler.frees_leave {services : ScheduleServices σ} {s : Scheduler σ}
    (hs : s.Consistent services.settings) {job : Job} {round : Round σ}
    (hround : s.round? job.id = some round) (hleaving : round.phase = .leaving)
    (hsite : round.job.siteId = job.siteId) :
    Frees services.settings job s (s.leave services round) := by
  have hid : round.job.id = job.id := job_id_of_round? hround
  have hrunning : (s.leave services round).running = s.running.filter (·.id != job.id) := by
    rw [← hid]
    simp only [leave]
    split <;> rfl
  have hout : ∀ other ∈ (s.leave services round).running, other.id ≠ job.id := by
    intro other hother
    rw [hrunning] at hother
    exact bne_iff_ne.mp (List.mem_filter.mp hother).2
  refine ⟨hid ▸ round?_leave_self services round s, hout, ?_, ?_, ?_⟩
  · intro hjob
    have hruns : s.running.any (·.id == round.job.id) = true :=
      List.any_eq_true.mpr ⟨job, hjob, beq_iff_eq.mpr hid.symm⟩
    have hmem : round ∈ s.rounds := List.mem_of_find?_eq_some hround
    refine ⟨round.job, hid, hsite, hs.accounts.leaving_hasEnded round hmem hleaving, ?_⟩
    simp only [leave, if_pos hruns]
    rfl
  · intro hjob
    apply Bool.eq_false_iff.mpr
    intro hbusy
    obtain ⟨other, hother, hsame⟩ := List.any_eq_true.mp hbusy
    apply hout other hother
    rw [hrunning] at hother
    have heq : other = job := List.inj_on_of_nodup_map hs.runsWell.sites_nodup
      (List.mem_of_mem_filter hother) hjob (beq_iff_eq.mp hsame)
    rw [heq]
  · intro hjob
    rw [hrunning]
    have hless : (s.running.filter (·.id != job.id)).length < s.running.length :=
      List.length_filter_lt_length_iff_exists.mpr ⟨job, hjob, by simp⟩
    exact Nat.lt_of_lt_of_le hless hs.runsWell.length_le

namespace Course

/-! ## One job along an endless course -/

/-- A course after the first of endlessly many happenings. -/
def along (services : ScheduleServices σ) (c : Course σ) (happenings : Nat → Happening σ) :
    Nat → Course σ
  | 0 => c
  | n + 1 => (c.along services happenings n).after services (happenings n)

/-- A job gets its turns, again and again, and whatever a scrape of it waits for comes about at one
of them. -/
structure Serves (services : ScheduleServices σ) (c : Course σ) (happenings : Nat → Happening σ)
    (job : JobId) : Prop where
  turns : ∀ n, ∃ m, n ≤ m ∧ ∃ elapsed, happenings m = .advance job elapsed
  waits : ∀ n round url rest pause next,
    (c.along services happenings n).scheduler.round? job = some round →
    round.phase = .scraping url rest (.wait pause next) →
      ∃ m, n ≤ m ∧ ∃ elapsed later, happenings m = .advance job elapsed ∧
        (c.along services happenings m).scheduler.round? job = some later ∧
        (Activity.wakeNow? pause later.cancelled elapsed
          (c.along services happenings m).world).isSome

/-- A stop has abandoned a job. -/
def Abandons (services : ScheduleServices σ) (c : Course σ) (happenings : Nat → Happening σ)
    (job : Job) (n : Nat) : Prop :=
  ∃ k < n, job ∈ (c.along services happenings k).scheduler.running ∧
    ∃ inFlight, happenings k = .endStop inFlight

/-- Where a job stands: at a round for its site, at a distance from the next one, among the jobs
that run or abandoned. -/
structure Stands (services : ScheduleServices σ) (c : Course σ) (happenings : Nat → Happening σ)
    (job : Job) (days n : Nat) (round : Round σ) : Prop where
  round?_eq : (c.along services happenings n).scheduler.round? job.id = some round
  siteId_eq : round.job.siteId = job.siteId
  days_eq : round.registration.checkIntervalDays = days
  holds : job ∈ (c.along services happenings n).scheduler.running ∨
    Abandons services c happenings job n

variable {services : ScheduleServices σ} {c : Course σ} {happenings : Nat → Happening σ} {job : Job}
  {days n : Nat} {round : Round σ}

theorem consistent_along (hc : c.scheduler.Consistent services.settings) (n : Nat) :
    (c.along services happenings n).scheduler.Consistent services.settings := by
  induction n with
  | zero => exact hc
  | succ n ih => exact ih.after (happenings n)

variable (services) in
/-- Whatever happens but a step of the job itself leaves its round where it is; at most it is called
off. -/
theorem exists_round?_after (d : Course σ) (happening : Happening σ)
    (hround : d.scheduler.round? job.id = some round)
    (hother : ∀ elapsed, happening ≠ .advance job.id elapsed) :
    ∃ cancelled,
      (d.after services happening).scheduler.round? job.id = some { round with cancelled } := by
  cases happening with
  | start =>
      refine ⟨round.cancelled, ?_⟩
      simp only [after, Scheduler.start]
      split
      · exact hround
      · exact hround
  | unwant | announceStop | planTick | elsewhere => exact ⟨round.cancelled, hround⟩
  | endStop inFlight => exact Scheduler.exists_round?_endStop services inFlight hround
  | read =>
      refine ⟨round.cancelled, ?_⟩
      simp only [after, read]
      split
      · exact hround
      · exact hround
  | launch place =>
      refine ⟨round.cancelled, ?_⟩
      simp only [after, launch]
      split
      · exact hround
      · exact Scheduler.round?_launchDue services _ hround
  | advance other elapsed =>
      have hne : job.id ≠ other := fun hsame => hother elapsed (hsame ▸ rfl)
      exact ⟨round.cancelled, (Scheduler.round?_stepRound_of_ne services hne _ _).trans hround⟩
  | callOff other => exact Scheduler.exists_round?_callOff hround other

/-- Whatever happens but the end of a stop and the leaving of the job keeps it among those that
run. -/
theorem mem_running_after (d : Course σ) {happening : Happening σ} (hjob : job ∈ d.scheduler.running)
    (hstop : ∀ inFlight, happening ≠ .endStop inFlight)
    (hstays : ∀ elapsed, happening = .advance job.id elapsed →
      ∀ round, d.scheduler.round? job.id = some round → round.phase ≠ .leaving) :
    job ∈ (d.after services happening).scheduler.running := by
  cases happening with
  | start =>
      simp only [after, Scheduler.start]
      split
      · exact hjob
      · exact hjob
  | unwant | announceStop | planTick | callOff | elsewhere => exact hjob
  | endStop inFlight => exact absurd rfl (hstop inFlight)
  | read =>
      simp only [after, read]
      split
      · exact hjob
      · exact hjob
  | launch place =>
      simp only [after, launch]
      split
      · exact hjob
      · exact Scheduler.running_launchDue services _ _ hjob
  | advance other elapsed =>
      apply Scheduler.mem_running_stepRound services hjob
      by_cases hsame : job.id = other
      · subst hsame
        exact .inr (hstays elapsed rfl)
      · exact .inl hsame

/-- A job runs on, unless it leaves, or is abandoned now. -/
theorem Stands.holds_succ (hstands : Stands services c happenings job days n round)
    (hstays : ∀ elapsed, happenings n = .advance job.id elapsed → round.phase ≠ .leaving) :
    job ∈ (c.along services happenings (n + 1)).scheduler.running ∨
      Abandons services c happenings job (n + 1) := by
  rcases hstands.holds with hjob | ⟨k, hk, habandoned⟩
  · by_cases hstop : ∃ inFlight, happenings n = .endStop inFlight
    · exact .inr ⟨n, Nat.lt_succ_self n, hjob, hstop⟩
    · left
      apply mem_running_after _ hjob
      · exact fun inFlight hends => hstop ⟨inFlight, hends⟩
      · intro elapsed hadvance other hother
        cases hstands.round?_eq.symm.trans hother
        exact hstays elapsed hadvance
  · exact .inr ⟨k, Nat.lt_succ_of_lt hk, habandoned⟩

theorem Stands.succ_of_other (hstands : Stands services c happenings job days n round)
    (hother : ∀ elapsed, happenings n ≠ .advance job.id elapsed) :
    ∃ cancelled, Stands services c happenings job days (n + 1) { round with cancelled } := by
  obtain ⟨cancelled, hround⟩ := exists_round?_after services (c.along services happenings n)
    (happenings n) hstands.round?_eq hother
  exact ⟨cancelled, hround, hstands.siteId_eq, hstands.days_eq,
    hstands.holds_succ fun elapsed hadvance => absurd hadvance (hother elapsed)⟩

theorem Stands.succ_of_advance (hstands : Stands services c happenings job days n round)
    (hphase : round.phase ≠ .leaving) {elapsed : Nat}
    (hadvance : happenings n = .advance job.id elapsed) :
    Stands services c happenings job days (n + 1)
      (round.step services elapsed (c.along services happenings n).scheduler.around).1 where
  round?_eq := by
    show ((c.along services happenings n).after services (happenings n)).scheduler.round? _ = _
    rw [hadvance]
    show ((c.along services happenings n).scheduler.stepRound services job.id elapsed).round? _ = _
    rw [Scheduler.stepRound_eq_step hstands.round?_eq hphase]
    have hid := Scheduler.job_id_of_round? hstands.round?_eq
    have hthere := hstands.round?_eq
    exact Scheduler.round?_setRound_self hthere ((Round.step_job_id ..).trans hid)
  siteId_eq := (Round.siteId_step ..).trans hstands.siteId_eq
  days_eq := (Round.fixed_step ..).2.trans hstands.days_eq
  holds := hstands.holds_succ fun _ _ => hphase

/-! ## From one phase to the next -/

/-- The job gets its next turn where it stands now. -/
theorem Stands.exists_turn (hserves : Serves services c happenings job.id)
    (hstands : Stands services c happenings job days n round) :
    ∃ m elapsed later, n ≤ m ∧ Stands services c happenings job days m later ∧
      later.phase = round.phase ∧ happenings m = .advance job.id elapsed := by
  obtain ⟨last, hlast, hturn⟩ := hserves.turns n
  have hlasts (k : Nat)
      (hthere : ∃ later, Stands services c happenings job days k later ∧
        later.phase = round.phase)
      (hnot : ¬ ∃ elapsed, happenings k = .advance job.id elapsed) :
      ∃ later, Stands services c happenings job days (k + 1) later ∧
        later.phase = round.phase := by
    obtain ⟨later, hlater, hphase⟩ := hthere
    obtain ⟨cancelled, hnext⟩ := hlater.succ_of_other fun elapsed hadvance =>
      hnot ⟨elapsed, hadvance⟩
    exact ⟨_, hnext, hphase⟩
  obtain ⟨m, hm, ⟨later, hlater, hphase⟩, elapsed, hadvance⟩ :=
    exists_turn_of_lasting hlasts hlast ⟨round, hstands, rfl⟩ hturn
  exact ⟨m, elapsed, later, hm, hlater, hphase, hadvance⟩

/-- The job takes its next step from the phase in which it stands now. -/
theorem Stands.exists_step (hserves : Serves services c happenings job.id)
    (hstands : Stands services c happenings job days n round) (hleaving : round.phase ≠ .leaving) :
    ∃ m elapsed later, n ≤ m ∧ later.phase = round.phase ∧
      happenings m = .advance job.id elapsed ∧
      Stands services c happenings job days m later ∧
      Stands services c happenings job days (m + 1)
        (later.step services elapsed (c.along services happenings m).scheduler.around).1 := by
  obtain ⟨m, elapsed, later, hm, hlater, hphase, hadvance⟩ := hstands.exists_turn hserves
  rw [← hphase] at hleaving
  exact ⟨m, elapsed, later, hm, hphase, hadvance, hlater, hlater.succ_of_advance hleaving hadvance⟩

/-- What a scrape waits for comes about, and until then the round stays where it is. -/
theorem Stands.exists_woken (hserves : Serves services c happenings job.id)
    (hstands : Stands services c happenings job days n round) {url : String} {rest : List String}
    {pause : Pause σ} {next : Wake → Nat → Activity σ ScrapeResult}
    (hphase : round.phase = .scraping url rest (.wait pause next)) :
    ∃ m elapsed later wake, n ≤ m ∧ Stands services c happenings job days m later ∧
      later.phase = .scraping url rest (.wait pause next) ∧
      happenings m = .advance job.id elapsed ∧
      Activity.wakeNow? pause later.cancelled elapsed
        (c.along services happenings m).world = some wake := by
  obtain ⟨last, hlast, elapsed, later, hadvance, hlater, hwakes⟩ :=
    hserves.waits n round url rest pause next hstands.round?_eq hphase
  -- A turn of the job at which the wait is not over leaves it waiting for the same.
  have hlasts (k : Nat)
      (hthere : ∃ later, Stands services c happenings job days k later ∧
        later.phase = .scraping url rest (.wait pause next))
      (hnot : ¬ ∃ elapsed later, happenings k = .advance job.id elapsed ∧
        (c.along services happenings k).scheduler.round? job.id = some later ∧
        (Activity.wakeNow? pause later.cancelled elapsed
          (c.along services happenings k).world).isSome) :
      ∃ later, Stands services c happenings job days (k + 1) later ∧
        later.phase = .scraping url rest (.wait pause next) := by
    obtain ⟨later, hlater, hwaiting⟩ := hthere
    by_cases hturn : ∃ elapsed, happenings k = .advance job.id elapsed
    · obtain ⟨elapsed, hadvance⟩ := hturn
      have hleaving : later.phase ≠ .leaving := by
        simp [hwaiting]
      refine ⟨_, hlater.succ_of_advance hleaving hadvance, ?_⟩
      rw [Round.phase_step_of_scraping services hwaiting]
      have hholds : Activity.wakeNow? pause later.cancelled elapsed
          (c.along services happenings k).scheduler.around.world = none := by
        apply Option.not_isSome_iff_eq_none.mp
        exact fun hwoken => hnot ⟨elapsed, later, hadvance, hlater.round?_eq, hwoken⟩
      rw [Activity.resume, hholds]
      rfl
    · obtain ⟨cancelled, hnext⟩ := hlater.succ_of_other fun elapsed hadvance =>
        hturn ⟨elapsed, hadvance⟩
      exact ⟨_, hnext, hwaiting⟩
  obtain ⟨m, hm, ⟨later, hlater, hwaiting⟩, elapsed, same, hadvance, hsame, hwoken⟩ :=
    exists_turn_of_lasting hlasts hlast ⟨round, hstands, hphase⟩
      ⟨elapsed, later, hadvance, hlater, hwakes⟩
  cases hlater.round?_eq.symm.trans hsame
  obtain ⟨wake, hwake⟩ := Option.isSome_iff_exists.mp hwoken
  exact ⟨m, elapsed, later, wake, hm, hlater, hwaiting, hadvance, hwake⟩

/-- A scrape that was begun is answered. The induction is on the work: each wait of it comes to an
end, and what is left of it then is smaller. -/
theorem Stands.exists_received (hserves : Serves services c happenings job.id) {url : String}
    {rest : List String} (work : Activity σ ScrapeResult) (cancelled : Bool) (elapsed : Nat)
    (s : σ) {n : Nat} {round : Round σ} (hstands : Stands services c happenings job days n round)
    (hphase : round.phase = Round.phaseOf url rest (work.resume cancelled elapsed s).1) :
    ∃ m later result, n ≤ m ∧ Stands services c happenings job days m later ∧
      later.phase = .received url rest result := by
  induction work generalizing cancelled elapsed s n round with
  | done result => exact ⟨n, round, result, Nat.le_refl n, hstands, hphase⟩
  | act update next ih => exact ih s cancelled elapsed (update s) hstands hphase
  | wait pause next ih =>
      cases hwake : Activity.wakeNow? pause cancelled elapsed s with
      | some wake =>
          rw [Activity.resume, hwake] at hphase
          exact ih wake elapsed cancelled 0 s hstands hphase
      | none =>
          rw [Activity.resume, hwake] at hphase
          obtain ⟨m, waited, later, wake, hm, hlater, hwaiting, hadvance, hwoken⟩ :=
            hstands.exists_woken hserves hphase
          have hleaving : later.phase ≠ .leaving := by
            simp [hwaiting]
          have hnext := hlater.succ_of_advance hleaving hadvance
          have hafter := Round.phase_step_of_scraping services hwaiting waited
            (c.along services happenings m).scheduler.around
          rw [Activity.resume] at hafter
          change Activity.wakeNow? pause later.cancelled waited
            (c.along services happenings m).scheduler.around.world = some wake at hwoken
          rw [hwoken] at hafter
          obtain ⟨last, final, result, hlast, hfinal, hreceived⟩ := ih wake waited _ _ _ hnext hafter
          exact ⟨last, final, result, by omega, hfinal, hreceived⟩

/-- A job gets to the end of its pages. -/
theorem Stands.exists_concluding (hserves : Serves services c happenings job.id)
    (urls : List String) {n : Nat} {round : Round σ}
    (hstands : Stands services c happenings job days n round)
    (hphase : round.phase = .choosing urls) :
    ∃ m later, n ≤ m ∧ Stands services c happenings job days m later ∧
      later.phase = .concluding := by
  induction urls generalizing n round with
  | nil =>
      obtain ⟨m, elapsed, later, hm, hsame, -, -, hnext⟩ :=
        hstands.exists_step hserves (by simp [hphase])
      refine ⟨m + 1, _, Nat.le_succ_of_le hm, hnext, ?_⟩
      rw [Round.step, hsame, hphase]
      rfl
  | cons url rest ih =>
      obtain ⟨m, elapsed, later, hm, hsame, -, -, hchosen⟩ :=
        hstands.exists_step hserves (by simp [hphase])
      have hscraping : (later.step services elapsed
          (c.along services happenings m).scheduler.around).1.phase =
            .scraping url rest (services.scrape { url : ScrapeRequest }.withoutCache) := by
        rw [Round.step, hsame, hphase]
        rfl
      obtain ⟨k, turn, begun, hk, hbegun, -, -, hnext⟩ :=
        hchosen.exists_step hserves (by simp [hscraping])
      have hafter := Round.phase_step_of_scraping services (hbegun.trans hscraping) turn
        (c.along services happenings k).scheduler.around
      obtain ⟨l, answered, result, hl, hanswered, hreceived⟩ :=
        Stands.exists_received hserves _ _ _ _ hnext hafter
      obtain ⟨i, last, dealt, hi, hlast, -, -, hdealt⟩ :=
        hanswered.exists_step hserves (by simp [hreceived])
      have hchoosing : (dealt.step services last
          (c.along services happenings i).scheduler.around).1.phase = .choosing rest := by
        rw [Round.step, hlast, hreceived]
        rfl
      obtain ⟨j, final, hj, hfinal⟩ := ih hdealt hchoosing
      exact ⟨j, final, by omega, hfinal⟩

/-- A job that was launched comes to record its end. -/
theorem Stands.exists_finishing (hserves : Serves services c happenings job.id)
    (hstands : Stands services c happenings job days n round) (hphase : round.phase = .starting) :
    ∃ m elapsed later, n ≤ m ∧ later.phase = .finishing ∧
      happenings m = .advance job.id elapsed ∧ Stands services c happenings job days m later ∧
      Stands services c happenings job days (m + 1)
        (later.step services elapsed (c.along services happenings m).scheduler.around).1 := by
  obtain ⟨m, elapsed, later, hm, hsame, -, -, hnext⟩ :=
    hstands.exists_step hserves (by simp [hphase])
  have hchoosing : ∃ urls, (later.step services elapsed
      (c.along services happenings m).scheduler.around).1.phase = .choosing urls := by
    rw [Round.step, hsame, hphase]
    exact ⟨_, rfl⟩
  obtain ⟨urls, hchoosing⟩ := hchoosing
  obtain ⟨k, through, hk, hthrough, hconcluding⟩ :=
    hnext.exists_concluding hserves urls hchoosing
  obtain ⟨l, turn, compared, hl, hcompared, -, -, hafter⟩ :=
    hthrough.exists_step hserves (by simp [hconcluding])
  have hfinishing : (compared.step services turn
      (c.along services happenings l).scheduler.around).1.phase = .finishing := by
    rw [Round.step, hcompared, hconcluding]
    simp only [Round.conclude]
    split <;> rfl
  obtain ⟨i, last, final, hi, hfinal, hrest⟩ := hafter.exists_step hserves (by simp [hfinishing])
  exact ⟨i, last, final, by omega, hfinal.trans hfinishing, hrest⟩

/-- A job that has broken off stays where it is. -/
theorem Stands.lost (hstands : Stands services c happenings job days n round)
    (hphase : round.phase = .lost) (m : Nat) (hm : n ≤ m) :
    ∃ later, Stands services c happenings job days m later ∧ later.phase = .lost := by
  obtain ⟨d, rfl⟩ := Nat.exists_eq_add_of_le hm
  clear hm
  induction d with
  | zero => exact ⟨round, hstands, hphase⟩
  | succ d ih =>
      obtain ⟨later, hlater, hlost⟩ := ih
      by_cases hturn : ∃ elapsed, happenings (n + d) = .advance job.id elapsed
      · obtain ⟨elapsed, hadvance⟩ := hturn
        refine ⟨_, hlater.succ_of_advance (by simp [hlost]) hadvance, ?_⟩
        simp only [Round.step, hlost]
      · obtain ⟨cancelled, hnext⟩ := hlater.succ_of_other fun elapsed hadvance =>
          hturn ⟨elapsed, hadvance⟩
        exact ⟨_, hnext, hlost⟩

/-- A job that has told its end leaves, and gives its place back. -/
theorem Stands.exists_frees (hc : c.scheduler.Consistent services.settings)
    (hserves : Serves services c happenings job.id)
    (hstands : Stands services c happenings job days n round) (hphase : round.phase = .leaving) :
    ∃ m, n ≤ m ∧ (∃ later, Stands services c happenings job days m later) ∧
      Scheduler.Frees services.settings job (c.along services happenings m).scheduler
        (c.along services happenings (m + 1)).scheduler := by
  obtain ⟨m, elapsed, later, hm, hlater, hsame, hadvance⟩ := hstands.exists_turn hserves
  have hleaving : later.phase = .leaving := hsame.trans hphase
  have hleft : (c.along services happenings (m + 1)).scheduler =
      (c.along services happenings m).scheduler.leave services later := by
    show ((c.along services happenings m).after services (happenings m)).scheduler = _
    rw [hadvance]
    exact Scheduler.stepRound_eq_leave hlater.round?_eq hleaving elapsed
  refine ⟨m, hm, ⟨later, hlater⟩, ?_⟩
  rw [hleft]
  exact Scheduler.frees_leave (consistent_along hc m) hlater.round?_eq hleaving hlater.siteId_eq

/-! ## The end of a job -/

/-- A job ends after some moment: it gives its place back, having run or been abandoned until then. -/
def EndsAfter (services : ScheduleServices σ) (c : Course σ) (happenings : Nat → Happening σ)
    (job : Job) (n : Nat) : Prop :=
  ∃ m, n < m ∧
    (job ∈ (c.along services happenings m).scheduler.running ∨
      Abandons services c happenings job m) ∧
    Scheduler.Frees services.settings job (c.along services happenings m).scheduler
      (c.along services happenings (m + 1)).scheduler

/-- A job never ends after some moment: its round has broken off for good, and the job keeps its
place until a stop abandons it. -/
def KeepsPlaceAfter (services : ScheduleServices σ) (c : Course σ)
    (happenings : Nat → Happening σ) (job : Job) (n : Nat) : Prop :=
  ∀ m, n < m →
    (∃ lost, (c.along services happenings m).scheduler.round? job.id = some lost ∧
      lost.phase = .lost) ∧
    (job ∈ (c.along services happenings m).scheduler.running ∨
      Abandons services c happenings job m)

/-- A job that ends does not keep its place. -/
theorem EndsAfter.not_keepsPlaceAfter (hends : EndsAfter services c happenings job n) :
    ¬ KeepsPlaceAfter services c happenings job n := by
  intro hkeeps
  obtain ⟨m, hm, -, hfrees⟩ := hends
  obtain ⟨⟨lost, hlost, -⟩, -⟩ := hkeeps (m + 1) (Nat.lt_succ_of_lt hm)
  cases hfrees.gone.symm.trans hlost

/-- A job whose end is recorded while there is a day for the next round ends. -/
theorem Stands.endsAfter (hc : c.scheduler.Consistent services.settings)
    (hserves : Serves services c happenings job.id)
    (hstands : Stands services c happenings job days (n + 1) round)
    (hphase : round.phase = .reporting) : EndsAfter services c happenings job n := by
  obtain ⟨k, turn, told, hk, hreporting, -, -, hlast⟩ :=
    hstands.exists_step hserves (by simp [hphase])
  have hleaving : (told.step services turn
      (c.along services happenings k).scheduler.around).1.phase = .leaving := by
    rw [Round.step, hreporting, hphase]
    rfl
  obtain ⟨m, hm, ⟨later, hlater⟩, hfrees⟩ := hlast.exists_frees hc hserves hleaving
  exact ⟨m, by omega, hlater.holds, hfrees⟩

/-- A job that breaks off keeps its place. -/
theorem Stands.keepsPlaceAfter (hstands : Stands services c happenings job days (n + 1) round)
    (hphase : round.phase = .lost) : KeepsPlaceAfter services c happenings job n := by
  intro m hm
  obtain ⟨later, hlater, hlost⟩ := hstands.lost hphase m hm
  exact ⟨⟨later, hlater.round?_eq, hlost⟩, hlater.holds⟩

/-- What becomes of a job that a tick has launched, whatever its scrapes bring, whatever writing
back, storing and telling come to, and whatever else happens. It comes to record its end. It ends
exactly if at that moment there is a day for the next round: then its round is over, it is no longer
among the jobs that run, and unless a stop has abandoned it before, it is remembered as it ended,
and its site and a place are free. If there is no such day, because the distance of the rounds is
too large, the job never ends, and runs until a stop abandons it. -/
theorem ends_iff_hasDate {world : σ} {before : List (Happening σ)}
    (hc : c = (fresh world).run services before) {registration : Registration}
    (hjob : job ∈ c.scheduler.running)
    (hround : c.scheduler.round? job.id = some (Round.launch job registration))
    (hserves : Serves services c happenings job.id) :
    ∃ n elapsed round, happenings n = .advance job.id elapsed ∧
      (c.along services happenings n).scheduler.round? job.id = some round ∧
      round.phase = .finishing ∧
      (EndsAfter services c happenings job n ↔
        ∃ next, (services.now (c.along services happenings n).world).plusDays?
          registration.checkIntervalDays = some next) ∧
      (KeepsPlaceAfter services c happenings job n ↔
        (services.now (c.along services happenings n).world).plusDays?
          registration.checkIntervalDays = none) := by
  have hconsistent : c.scheduler.Consistent services.settings :=
    hc ▸ Scheduler.consistent_of_course services world before
  have hbegun : Stands services c happenings job registration.checkIntervalDays 0
      (Round.launch job registration) := ⟨hround, rfl, rfl, .inl hjob⟩
  obtain ⟨n, elapsed, round, -, hfinishing, hadvance, hstands, hnext⟩ :=
    hbegun.exists_finishing hserves rfl
  have hafter : (round.step services elapsed
      (c.along services happenings n).scheduler.around).1.phase =
        match (services.now (c.along services happenings n).world).plusDays?
          registration.checkIntervalDays with
        | some _ => .reporting
        | none => .lost := by
    rw [← hstands.days_eq]
    exact Round.phase_step_of_finishing services hfinishing elapsed _
  refine ⟨n, elapsed, round, hadvance, hstands.round?_eq, hfinishing, ?_⟩
  cases hdate : (services.now (c.along services happenings n).world).plusDays?
      registration.checkIntervalDays with
  | some next =>
      rw [hdate] at hafter
      have hends := hnext.endsAfter hconsistent hserves hafter
      exact ⟨iff_of_true hends ⟨next, rfl⟩, iff_of_false hends.not_keepsPlaceAfter (by simp)⟩
  | none =>
      rw [hdate] at hafter
      have hkeeps := hnext.keepsPlaceAfter hafter
      exact ⟨iff_of_false (fun hends => hends.not_keepsPlaceAfter hkeeps) (by simp),
        iff_of_true hkeeps rfl⟩

/-- A job that always has its turn, and whose scrapes never wait until it is gone or has broken off,
is served. -/
theorem serves_of_moving {id : JobId} (hturns : ∀ n, ∃ elapsed, happenings n = .advance id elapsed)
    {last : Nat}
    (hmoves : ∀ n < last,
      ((c.along services happenings n).scheduler.round? id).all (!·.rests) = true)
    (hrests : ∀ n, last ≤ n → ∀ round,
      (c.along services happenings n).scheduler.round? id = some round → round.phase = .lost) :
    Serves services c happenings id where
  turns n := ⟨n, Nat.le_refl n, hturns n⟩
  waits := by
    intro n round url rest pause next hround hphase
    by_cases hn : n < last
    · have hmoving := hmoves n hn
      rw [hround] at hmoving
      simp [Round.rests, hphase] at hmoving
    · have hlost := hrests n (Nat.le_of_not_lt hn) round hround
      cases hlost.symm.trans hphase

end Course

/-! ## A round every day, and one every eleven million years -/

namespace Rehearsal.Backstage

/-- A register of one site, whose rounds are some days apart. -/
def everyDays (days : Nat) : Backstage where
  register := [{ site := { id := "events", domain := "example.com" }, checkIntervalDays := days }]
  scraping := { world := {} }

/-- A tick has launched the job for that site. -/
def launchedEvery (days : Nat) : Course Backstage :=
  (Course.fresh (everyDays days)).run ordinary [.read, .launch 0]

/-- The job for that site. -/
def firstJob : Job := (Job.create ⟨0⟩ "events" ⟨0, 0⟩).start ⟨0, 0⟩

/-- The steps of that job, one after another. -/
def stepsOfFirst : Nat → Happening Backstage := fun _ => .advance firstJob.id 0

/-- The tick launches that job, and leaves its round where it begins. -/
theorem round?_launchedEvery (days : Nat) :
    (launchedEvery days).scheduler.round? firstJob.id =
      some (.launch firstJob
        { site := { id := "events", domain := "example.com" }, checkIntervalDays := days }) := by
  have hdue : (Course.fresh (everyDays days)).scheduler.due ordinary =
      .ok (everyDays days).register :=
    congrArg Except.ok (List.mergeSort_singleton _)
  have hread : (Course.fresh (everyDays days)).read ordinary =
      { Course.fresh (everyDays days) with readings := [⟨(everyDays days).register, 0⟩] } := by
    rw [Course.read, hdue]
    rfl
  show (((Course.fresh (everyDays days)).read ordinary).launch ordinary 0).scheduler.round? _ = _
  rw [hread]
  rfl

/-- The job of a site with a round every day ends. -/
theorem daily_job_ends :
    firstJob ∈ (launchedEvery 1).scheduler.running ∧
      Course.Serves ordinary (launchedEvery 1) stepsOfFirst firstJob.id ∧
      ∃ n, Course.EndsAfter ordinary (launchedEvery 1) stepsOfFirst firstJob n := by
  have hgone (d : Nat) : ((launchedEvery 1).along ordinary stepsOfFirst (9 + d)).scheduler.round?
      firstJob.id = none := by
    induction d with
    | zero => exact Option.isNone_iff_eq_none.mp (by decide +kernel)
    | succ d ih =>
        show (((launchedEvery 1).along ordinary stepsOfFirst (9 + d)).scheduler.stepRound ordinary
          firstJob.id 0).round? firstJob.id = none
        rw [Scheduler.stepRound_of_none ih]
        exact ih
  have hmoves : ∀ n < 9, (((launchedEvery 1).along ordinary stepsOfFirst n).scheduler.round?
      firstJob.id).all (!·.rests) = true := by
    decide +kernel
  have hserves : Course.Serves ordinary (launchedEvery 1) stepsOfFirst firstJob.id := by
    apply Course.serves_of_moving (fun n => ⟨0, rfl⟩) hmoves
    intro n hn round hround
    obtain ⟨d, rfl⟩ := Nat.exists_eq_add_of_le hn
    cases (hgone d).symm.trans hround
  have hjob : firstJob ∈ (launchedEvery 1).scheduler.running := by decide +kernel
  obtain ⟨n, elapsed, round, -, -, -, hends, -⟩ :=
    Course.ends_iff_hasDate rfl hjob (round?_launchedEvery 1) hserves
  exact ⟨hjob, hserves, n, hends.mpr ⟨⟨86400, 0⟩, rfl⟩⟩

/-- The job of a site whose rounds are as many days apart as fit into 32 bits runs forever, though
all its calls are answered at once and nothing fails. -/
theorem far_job_keeps_place :
    Course.Serves ordinary (launchedEvery 4294967295) stepsOfFirst firstJob.id ∧
      ∀ n, firstJob ∈
        ((launchedEvery 4294967295).along ordinary stepsOfFirst n).scheduler.running := by
  have hmoves : ∀ n < 7,
      ((launchedEvery 4294967295).along ordinary stepsOfFirst n).scheduler.running = [firstJob] ∧
      (((launchedEvery 4294967295).along ordinary stepsOfFirst n).scheduler.round?
        firstJob.id).all (!·.rests) = true := by
    decide +kernel
  -- After seven steps the round has broken off, and from there on nothing changes.
  have hbroken : (((launchedEvery 4294967295).along ordinary stepsOfFirst 7).scheduler.round?
      firstJob.id).any (fun round => round.stepsLeft == 0 &&
        round.job.siteId == firstJob.siteId) = true ∧
      firstJob ∈ ((launchedEvery 4294967295).along ordinary stepsOfFirst 7).scheduler.running := by
    decide +kernel
  obtain ⟨round, hround, hlost⟩ := (Option.any_eq_true _ _).mp hbroken.1
  simp only [Bool.and_eq_true, beq_iff_eq] at hlost
  have hphase : round.phase = .lost := Round.lost_of_stepsLeft hlost.1
  have hstands : Course.Stands ordinary (launchedEvery 4294967295) stepsOfFirst firstJob
      round.registration.checkIntervalDays 7 round := ⟨hround, hlost.2, rfl, .inl hbroken.2⟩
  constructor
  · apply Course.serves_of_moving (fun n => ⟨0, rfl⟩) fun n hn => (hmoves n hn).2
    intro n hn other hother
    obtain ⟨later, hlater, hstill⟩ := hstands.lost hphase n hn
    cases hlater.round?_eq.symm.trans hother
    exact hstill
  · intro n
    by_cases hn : n < 7
    · rw [(hmoves n hn).1]
      exact List.mem_singleton.mpr rfl
    · obtain ⟨later, hlater, -⟩ := hstands.lost hphase n (Nat.le_of_not_lt hn)
      rcases hlater.holds with hruns | ⟨k, -, -, inFlight, hstop⟩
      · exact hruns
      · cases hstop

end Rehearsal.Backstage

end SiteWatch
