/-
# Jobs of different sites do not interfere

Several jobs that were launched for different sites take their steps in any order, in a world with
one register. What they leave behind, apart from times of day and the notes of the jobs, does not
depend on the order. Along every interleaving each job stays in step with its round by itself, which
comes to one end only; a step of one job leaves the shares of all other sites alone. The jobs may as
well run one after another, in whatever order.
-/

import SiteWatch.Proofs.Schedule.Solitude
import SiteWatch.Proofs.Schedule.Soundness

namespace SiteWatch

variable {σ : Type}

/-! ## What jobs leave behind -/

namespace Happening

/-- A step of a job, or something in the world that jobs do not see: it leaves the calls that were
made and the register as they are. -/
def IsPeaceful (view : σ → Register) : Happening (Logged σ) → Prop
  | .advance .. => True
  | .elsewhere change => ∀ w, (change w).1 = w.1 ∧ view (change w).2 = view w.2
  | _ => False

end Happening

/-- What jobs leave behind, apart from times of day and the notes of the jobs. -/
@[ext]
structure Legacy where
  register : Register
  /-- The results that were to be stored for a site, in order, each with what went wrong. -/
  saved : (siteId : String) → List (ScrapeResult × Option Failure)
  /-- The notices about a site, in order, each with what went wrong. -/
  told : (siteId : String) → List (Notice × Option Failure)
  /-- A job as it was when it left. -/
  job? : JobId → Option Job

namespace Course

/-- The job that leaves with a happening, as it is then. -/
def leaving? (c : Course σ) : Happening σ → Option Job
  | .advance job _ => (c.scheduler.round? job).bind fun round =>
    match round.phase with
    | .leaving => some round.job
    | _ => none
  | _ => none

/-- The jobs that leave in the course of happenings, the first one first. -/
def departed (services : ScheduleServices σ) (c : Course σ) : List (Happening σ) → List Job
  | [] => []
  | happening :: rest =>
    (c.leaving? happening).toList ++ (c.after services happening).departed services rest

/-- What is left behind after happenings. -/
def legacy (services : ScheduleServices σ) (view : σ → Register) (c : Course (Logged σ))
    (happenings : List (Happening (Logged σ))) : Legacy :=
  let ledger := ledger view (c.run services.logged happenings).world
  { register := ledger.register.map Registration.timeless
    saved := fun siteId => (ledger.share siteId).saved
    told := fun siteId => (ledger.share siteId).told
    job? := fun id =>
      ((c.departed services.logged happenings).find? (·.id == id)).map Job.plain }

/-- Jobs that were just launched, for different sites. -/
structure HasLaunched (c : Course σ) : Prop where
  starting : ∀ round ∈ c.scheduler.rounds, round = Round.launch round.job round.registration
  jobs_nodup : (c.scheduler.rounds.map (·.job.id)).Nodup
  sites_nodup : (c.scheduler.rounds.map (·.registration.id)).Nodup

/-- An interleaving of the steps of all jobs, to the end of the last one. Nothing is launched,
called off or abandoned in its course, and nobody else writes to the register. -/
structure Completes (services : ScheduleServices σ) (view : σ → Register) (c : Course (Logged σ))
    (happenings : List (Happening (Logged σ))) : Prop where
  peaceful : ∀ happening ∈ happenings, happening.IsPeaceful view
  rounds_eq : (c.run services.logged happenings).scheduler.rounds = []

end Course

/-! ## Steps of different jobs -/

/-- Where a key names one element at most, it is found by its key. -/
theorem find?_eq_some_of_nodup {α β : Type} [DecidableEq β] (key : α → β) {l : List α}
    (hnodup : (l.map key).Nodup) {a : α} (ha : a ∈ l) :
    l.find? (key · == key a) = some a := by
  cases hfound : l.find? (key · == key a) with
  | none => exact absurd (List.find?_eq_none.mp hfound a ha) (by simp)
  | some b =>
      have hkey : key b = key a := by simpa using List.find?_some hfound
      exact congrArg some
        (List.inj_on_of_nodup_map hnodup (List.mem_of_find?_eq_some hfound) ha hkey)

/-- A register in which every id is registered once is known from its ids and entries. -/
theorem Register.map_timeless_eq {register : Register}
    (hnodup : (register.map Registration.id).Nodup) :
    register.map Registration.timeless = (register.map Registration.id).filterMap fun siteId =>
      (register.get? siteId).map Registration.timeless := by
  rw [List.filterMap_map, ← List.filterMap_eq_map]
  apply List.filterMap_congr
  intro r hr
  have hfound : register.get? r.id = some r := find?_eq_some_of_nodup Registration.id hnodup hr
  simp [hfound]

namespace Scheduler

variable {services : ScheduleServices σ} {s : Scheduler σ} {job other : JobId} {round : Round σ}

theorem job_id_of_round? (hround : s.round? job = some round) : round.job.id = job := by
  simpa using List.find?_some hround

/-- Putting a round in its place changes no ids. -/
theorem round?_setRound (s : Scheduler σ) (later : Round σ) (job : JobId) :
    (s.setRound later).round? job =
      (s.round? job).map fun other => if other.job.id == later.job.id then later else other := by
  have hids : ((fun other : Round σ => other.job.id == job) ∘
      fun other => if other.job.id == later.job.id then later else other) =
        fun other => other.job.id == job := by
    funext other
    by_cases hsame : other.job.id = later.job.id <;> simp [hsame]
  rw [round?, setRound, List.find?_map, hids]
  rfl

theorem round?_setRound_self {later : Round σ} (hround : s.round? job = some round)
    (hlater : later.job.id = job) : (s.setRound later).round? job = some later := by
  simp [round?_setRound, hround, job_id_of_round? hround, hlater]

theorem round?_setRound_of_ne {later : Round σ} (hother : other ≠ later.job.id) :
    (s.setRound later).round? other = s.round? other := by
  rw [round?_setRound]
  cases hround : s.round? other with
  | none => rfl
  | some round =>
      have hne : ¬ (round.job.id == later.job.id) = true := by
        rw [job_id_of_round? hround, beq_iff_eq]
        exact hother
      exact congrArg some (if_neg hne)

theorem rounds_leave (services : ScheduleServices σ) (round : Round σ) (s : Scheduler σ) :
    (s.leave services round).rounds = s.rounds.filter (·.job.id != round.job.id) := by
  simp only [leave]
  split <;> rfl

theorem round?_leave_self (services : ScheduleServices σ) (round : Round σ) (s : Scheduler σ) :
    (s.leave services round).round? round.job.id = none := by
  simp [round?, rounds_leave]

theorem round?_leave_of_ne (services : ScheduleServices σ) (hother : other ≠ round.job.id)
    (s : Scheduler σ) : (s.leave services round).round? other = s.round? other := by
  rw [round?, rounds_leave, List.find?_filter]
  congr 1
  funext old
  by_cases hold : old.job.id = other <;> simp [hold, hother]

/-- The step of a job leaves the rounds of all others alone. -/
theorem round?_stepRound_of_ne (services : ScheduleServices σ) (hother : other ≠ job)
    (elapsed : Nat) (s : Scheduler σ) :
    (s.stepRound services job elapsed).round? other = s.round? other := by
  cases hround : s.round? job with
  | none => rw [stepRound_of_none hround]
  | some round =>
      have hid := job_id_of_round? hround
      by_cases hphase : round.phase = .leaving
      · rw [stepRound_eq_leave hround hphase]
        exact round?_leave_of_ne services (hid ▸ hother) s
      · rw [stepRound_eq_step hround hphase]
        apply round?_setRound_of_ne
        rwa [Round.step_job_id, hid]

end Scheduler

/-! ## What the scheduler remembers -/

/-- Every round that is left is for a job that still counts as running. -/
def Scheduler.RunsAll (s : Scheduler σ) : Prop :=
  ∀ round ∈ s.rounds, ∃ job ∈ s.running, job.id = round.job.id

theorem Scheduler.RunsAll.leave {services : ScheduleServices σ} {s : Scheduler σ}
    (hruns : s.RunsAll) (round : Round σ) : (s.leave services round).RunsAll := by
  intro other hother
  rw [rounds_leave] at hother
  obtain ⟨hmem, hne⟩ := List.mem_filter.mp hother
  obtain ⟨job, hjob, hid⟩ := hruns other hmem
  refine ⟨job, ?_, hid⟩
  have hstays : job ∈ s.running.filter (·.id != round.job.id) := by
    rw [List.mem_filter, hid]
    exact ⟨hjob, hne⟩
  simp only [Scheduler.leave]
  split <;> exact hstays

theorem Scheduler.RunsAll.setRound {s : Scheduler σ} (hruns : s.RunsAll) {round later : Round σ}
    (hmem : round ∈ s.rounds) (hlater : later.job.id = round.job.id) :
    (s.setRound later).RunsAll := by
  intro other hother
  obtain ⟨old, hold, rfl⟩ := List.mem_map.mp hother
  split
  · rw [hlater]
    exact hruns round hmem
  · exact hruns old hold

/-- A job that leaves is remembered. -/
theorem Course.remembers_after {services : ScheduleServices σ} {view : σ → Register}
    {c : Course (Logged σ)} (hruns : c.scheduler.RunsAll)
    (hlimit : c.scheduler.history.length ≤ services.settings.historyLimit)
    {happening : Happening (Logged σ)} (hpeaceful : happening.IsPeaceful view) :
    (c.after services.logged happening).scheduler.RunsAll ∧
      (c.after services.logged happening).scheduler.history =
        ((c.leaving? happening).toList ++ c.scheduler.history).take
          services.settings.historyLimit := by
  have hstays := (List.take_of_length_le hlimit).symm
  cases happening with
  | elsewhere change => exact ⟨hruns, hstays⟩
  | advance job elapsed =>
      show (c.scheduler.stepRound services.logged job elapsed).RunsAll ∧
        (c.scheduler.stepRound services.logged job elapsed).history = _
      cases hround : c.scheduler.round? job with
      | none =>
          rw [Scheduler.stepRound_of_none hround]
          exact ⟨hruns, by simpa [leaving?, hround] using hstays⟩
      | some round =>
          have hmem : round ∈ c.scheduler.rounds := List.mem_of_find?_eq_some hround
          by_cases hleaving : round.phase = .leaving
          · rw [Scheduler.stepRound_eq_leave hround hleaving]
            refine ⟨hruns.leave round, ?_⟩
            have hrunning : (c.scheduler.running.any (·.id == round.job.id)) = true := by
              simpa using hruns round hmem
            simp [Scheduler.leave, hrunning, Scheduler.remember, leaving?, hround, hleaving,
              ScheduleServices.logged]
          · rw [Scheduler.stepRound_eq_step hround hleaving]
            refine ⟨Scheduler.RunsAll.setRound hruns hmem (Round.step_job_id ..), ?_⟩
            have hnone : c.leaving? (.advance job elapsed) = none := by
              simp only [leaving?, hround, Option.bind_some]
            rw [hnone]
            exact hstays
  | start | unwant | announceStop | endStop | read | launch | callOff | planTick =>
      exact hpeaceful.elim

/-- The jobs that left last are the ones that the scheduler remembers, the last one first. -/
theorem Course.history_run {services : ScheduleServices σ} {view : σ → Register}
    {c : Course (Logged σ)} (hruns : c.scheduler.RunsAll)
    (hlimit : c.scheduler.history.length ≤ services.settings.historyLimit)
    {happenings : List (Happening (Logged σ))}
    (hpeaceful : ∀ happening ∈ happenings, happening.IsPeaceful view) :
    (c.run services.logged happenings).scheduler.history =
      ((c.departed services.logged happenings).reverse ++ c.scheduler.history).take
        services.settings.historyLimit := by
  induction happenings generalizing c with
  | nil => simpa [departed] using (List.take_of_length_le hlimit).symm
  | cons happening rest ih =>
      obtain ⟨hfirst, hrest⟩ := List.forall_mem_cons.mp hpeaceful
      obtain ⟨hgoing, hhistory⟩ := remembers_after hruns hlimit hfirst
      have hlater := ih hgoing (by rw [hhistory]; exact List.length_take_le ..) hrest
      have hone : (c.leaving? happening).toList.reverse = (c.leaving? happening).toList := by
        cases c.leaving? happening <;> rfl
      rw [run_cons, departed, List.reverse_append, List.append_assoc, hone, hlater, hhistory,
        take_append_take]

/-! ## Every job in step with its round by itself -/

section

variable {services : ScheduleServices σ} {view : σ → Register} {habits : Habits}

/-- How far the job of a round that was launched has come when some jobs are gone: it is under way,
in step with its round by itself unless it has broken off; or it has left as that round does, and
the share of its site is what that round leaves. -/
inductive InStep (view : σ → Register) (habits : Habits) (alone : Round Share × Share)
    (first : Round (Logged σ)) (s : Scheduler (Logged σ)) (gone : List Job) : Prop where
  | underWay (round : Round (Logged σ)) (hround : s.round? first.job.id = some round)
      (hsite : round.registration.id = first.registration.id)
      (hgone : gone.find? (·.id == first.job.id) = none)
      (halone : round.phase = .lost ∨
        ∃ steps, round.alone view habits s.around.world = (Round.next habits)^[steps] alone)
  | hasLeft (job : Job) (steps : Nat) (hround : s.round? first.job.id = none)
      (hgone : gone.find? (·.id == first.job.id) = some job)
      (hleaving : ((Round.next habits)^[steps] alone).1.phase = .leaving)
      (hjob : job.plain = ((Round.next habits)^[steps] alone).1.job)
      (hshare : (ledger view s.around.world).share first.registration.id =
        ((Round.next habits)^[steps] alone).2)

/-- Where the jobs that were launched have got to: each is in step with its round by itself, and
nothing else has changed. -/
structure Tracks (view : σ → Register) (habits : Habits) (start s : Scheduler (Logged σ))
    (gone : List Job) : Prop where
  orderly : ∀ round ∈ s.rounds, round.IsOrderly view habits
  launched : ∀ round ∈ s.rounds, ∃ first ∈ start.rounds,
    first.job.id = round.job.id ∧ first.registration.id = round.registration.id
  departed : ∀ job ∈ gone, ∃ first ∈ start.rounds, first.job.id = job.id
  ids : (ledger view s.around.world).register.map Registration.id =
    (ledger view start.around.world).register.map Registration.id
  idle : ∀ siteId, (∀ first ∈ start.rounds, first.registration.id ≠ siteId) →
    (ledger view s.around.world).share siteId = (ledger view start.around.world).share siteId
  inStep : ∀ first ∈ start.rounds,
    InStep view habits (first.alone view habits start.around.world) first s gone

/-- What happens to others does not concern a job. -/
theorem InStep.of_apart {alone : Round Share × Share} {first : Round (Logged σ)}
    {s t : Scheduler (Logged σ)} {gone more : List Job}
    (hstep : InStep view habits alone first s gone)
    (hround : t.round? first.job.id = s.round? first.job.id)
    (hshare : (ledger view t.around.world).share first.registration.id =
      (ledger view s.around.world).share first.registration.id)
    (hmore : ∀ job ∈ more, job.id ≠ first.job.id) :
    InStep view habits alone first t (gone ++ more) := by
  have hfind : (gone ++ more).find? (·.id == first.job.id) =
      gone.find? (·.id == first.job.id) := by
    have hnone : more.find? (·.id == first.job.id) = none := by
      rw [List.find?_eq_none]
      intro job hjob
      simpa using hmore job hjob
    rw [List.find?_append, hnone, Option.or_none]
  cases hstep with
  | underWay round hsame hsite hgone halone =>
      refine .underWay round (hround.trans hsame) hsite (hfind.trans hgone) (halone.imp_right ?_)
      rintro ⟨steps, hsteps⟩
      refine ⟨steps, ?_⟩
      rw [← hsteps, Round.alone, Round.alone, hsite, hshare]
  | hasLeft job steps hsame hgone hleaving hjob hleft =>
      exact .hasLeft job steps (hround.trans hsame) (hfind.trans hgone) hleaving hjob
        (hshare.trans hleft)

/-- At the launch every job is in step. -/
theorem tracks_launched (view : σ → Register) (habits : Habits) {c : Course (Logged σ)}
    (hlaunched : c.HasLaunched) :
    Tracks view habits c.scheduler c.scheduler [] where
  orderly := by
    intro round hround
    have hstarting := hlaunched.starting round hround
    refine ⟨by rw [hstarting]; rfl, ?_, ?_⟩ <;>
    · intro url rest work hphase
      rw [hstarting] at hphase
      cases hphase
  launched := fun round hround => ⟨round, hround, rfl, rfl⟩
  departed := by simp
  ids := rfl
  idle := fun _ _ => rfl
  inStep := by
    intro first hfirst
    have hround : c.scheduler.round? first.job.id = some first :=
      find?_eq_some_of_nodup (fun round : Round (Logged σ) => round.job.id)
        hlaunched.jobs_nodup hfirst
    exact .underWay first hround rfl rfl (.inr ⟨0, rfl⟩)

/-- A job that takes a step stays in step. -/
theorem InStep.stepRound (hservices : services.HasHabits view habits)
    {alone : Round Share × Share} {first round : Round (Logged σ)} {s : Scheduler (Logged σ)}
    {gone : List Job} (hstep : InStep view habits alone first s gone)
    (hround : s.round? first.job.id = some round) (horderly : round.IsOrderly view habits)
    (hmoves : round.phase ≠ .leaving) (elapsed : Nat) :
    InStep view habits alone first (s.stepRound services.logged first.job.id elapsed) gone := by
  cases hstep with
  | hasLeft job steps hnone => simp [hnone] at hround
  | underWay round' hround' hsite hgone halone =>
      obtain rfl : round' = round := Option.some.inj (hround'.symm.trans hround)
      rw [Scheduler.stepRound_eq_step hround hmoves]
      refine .underWay (round'.step services.logged elapsed s.around).1 ?_ ?_ hgone ?_
      · refine Scheduler.round?_setRound_self hround ?_
        rw [Round.step_job_id, Scheduler.job_id_of_round? hround]
      · rw [(Round.registration_step ..).1, hsite]
      · by_cases hends : (round'.step services.logged elapsed s.around).1.phase = .lost
        · exact .inl hends
        · obtain hlost | ⟨steps, hsteps⟩ := halone
          · exact absurd (by simp only [Round.step, hlost]) hends
          · refine .inr ?_
            obtain hnext | hstays :=
              Round.alone_step_or_stay hservices horderly elapsed s.around hends
            · refine ⟨steps + 1, ?_⟩
              rw [Function.iterate_succ_apply', ← hsteps]
              exact hnext
            · exact ⟨steps, hstays.trans hsteps⟩

/-- A job that leaves does so as its round by itself. -/
theorem InStep.leave (services : ScheduleServices (Logged σ))
    {alone : Round Share × Share} {first round : Round (Logged σ)} {s : Scheduler (Logged σ)}
    {gone : List Job} (hstep : InStep view habits alone first s gone)
    (hround : s.round? first.job.id = some round) (hleaving : round.phase = .leaving) :
    InStep view habits alone first (s.leave services round) (gone ++ [round.job]) := by
  have hid := Scheduler.job_id_of_round? hround
  cases hstep with
  | hasLeft job steps hnone => simp [hnone] at hround
  | underWay round' hround' hsite hgone halone =>
      obtain rfl : round' = round := Option.some.inj (hround'.symm.trans hround)
      obtain hlost | ⟨steps, hsteps⟩ := halone
      · rw [hleaving] at hlost
        cases hlost
      · refine .hasLeft round'.job steps ?_ ?_ ?_ ?_ ?_
        · rw [← hid]
          exact Scheduler.round?_leave_self services round' s
        · simp [List.find?_append, hgone, hid]
        · rw [← hsteps]
          simp [Round.alone, Round.plain, hleaving, Phase.plain]
        · rw [← hsteps]
          rfl
        · rw [← hsteps, Scheduler.world_leave, ← hsite]
          rfl

/-- The rounds that were launched for other jobs are for other sites. -/
theorem Tracks.exists_first {c : Course (Logged σ)} (hlaunched : c.HasLaunched)
    {s : Scheduler (Logged σ)} {gone : List Job}
    (htracks : Tracks view habits c.scheduler s gone) {round : Round (Logged σ)}
    (hmem : round ∈ s.rounds) :
    ∃ first ∈ c.scheduler.rounds, first.job.id = round.job.id ∧
      first.registration.id = round.registration.id ∧
      ∀ other ∈ c.scheduler.rounds, other ≠ first →
        other.job.id ≠ round.job.id ∧ other.registration.id ≠ round.registration.id := by
  obtain ⟨first, hfirst, hjob, hsite⟩ := htracks.launched round hmem
  refine ⟨first, hfirst, hjob, hsite, fun other hother hne => ?_⟩
  rw [← hjob, ← hsite]
  exact ⟨fun hsame => hne (List.inj_on_of_nodup_map hlaunched.jobs_nodup hother hfirst hsame),
    fun hsame => hne (List.inj_on_of_nodup_map hlaunched.sites_nodup hother hfirst hsame)⟩

/-- A job leaves. -/
theorem Tracks.leave {c : Course (Logged σ)} (hlaunched : c.HasLaunched)
    {s : Scheduler (Logged σ)} {gone : List Job}
    (htracks : Tracks view habits c.scheduler s gone) {round : Round (Logged σ)}
    (hround : s.round? round.job.id = some round) (hleaving : round.phase = .leaving) :
    Tracks view habits c.scheduler (s.leave services.logged round) (gone ++ [round.job]) := by
  obtain ⟨first, hfirst, hjob, -, hothers⟩ :=
    htracks.exists_first hlaunched (List.mem_of_find?_eq_some hround)
  have haround := Scheduler.world_leave services.logged round s
  have hstays : ∀ old ∈ (s.leave services.logged round).rounds, old ∈ s.rounds := by
    rw [Scheduler.rounds_leave]
    exact fun old => List.mem_of_mem_filter
  constructor
  case orderly => exact fun old hold => htracks.orderly old (hstays old hold)
  case launched => exact fun old hold => htracks.launched old (hstays old hold)
  case departed =>
    intro job hgone
    obtain hgone | hgone := List.mem_append.mp hgone
    · exact htracks.departed job hgone
    · rw [List.mem_singleton.mp hgone]
      exact ⟨first, hfirst, hjob⟩
  case ids => rw [haround, htracks.ids]
  case idle =>
    intro siteId hidle
    rw [haround, htracks.idle siteId hidle]
  case inStep =>
    intro other hother
    have hcame := htracks.inStep other hother
    by_cases hsame : other = first
    · subst hsame
      exact hcame.leave services.logged (hjob ▸ hround) hleaving
    · obtain ⟨hne, -⟩ := hothers other hother hsame
      apply hcame.of_apart
      · exact Scheduler.round?_leave_of_ne services.logged hne s
      · rw [haround]
      · intro job hgone
        rw [List.mem_singleton.mp hgone]
        exact hne.symm

/-- A job takes a step and does not leave. -/
theorem Tracks.stepRound (hservices : services.HasHabits view habits) {c : Course (Logged σ)}
    (hlaunched : c.HasLaunched) {s : Scheduler (Logged σ)} {gone : List Job}
    (htracks : Tracks view habits c.scheduler s gone) {round : Round (Logged σ)}
    (hround : s.round? round.job.id = some round) (hmoves : round.phase ≠ .leaving)
    (elapsed : Nat) :
    Tracks view habits c.scheduler (s.stepRound services.logged round.job.id elapsed) gone := by
  have hmem : round ∈ s.rounds := List.mem_of_find?_eq_some hround
  have horderly := htracks.orderly round hmem
  have hchanges := Round.changesOnly_step hservices horderly elapsed s.around
  obtain ⟨first, hfirst, hjob, hsite, hothers⟩ := htracks.exists_first hlaunched hmem
  have hworld : (s.stepRound services.logged round.job.id elapsed).around.world =
      (round.step services.logged elapsed s.around).2.world := by
    rw [Scheduler.stepRound_eq_step hround hmoves]
    rfl
  have hrounds : ∀ later ∈ (s.stepRound services.logged round.job.id elapsed).rounds,
      later = (round.step services.logged elapsed s.around).1 ∨ later ∈ s.rounds := by
    rw [Scheduler.stepRound_eq_step hround hmoves]
    intro later hlater
    obtain ⟨old, hold, rfl⟩ := List.mem_map.mp hlater
    split
    · exact .inl rfl
    · exact .inr hold
  constructor
  case orderly =>
    intro later hlater
    obtain rfl | hold := hrounds later hlater
    · exact horderly.step hservices elapsed s.around
    · exact htracks.orderly later hold
  case launched =>
    intro later hlater
    obtain rfl | hold := hrounds later hlater
    · rw [Round.step_job_id, (Round.registration_step ..).1]
      exact ⟨first, hfirst, hjob, hsite⟩
    · exact htracks.launched later hold
  case departed => exact htracks.departed
  case ids => rw [hworld, hchanges.ids_eq, htracks.ids]
  case idle =>
    intro siteId hidle
    rw [hworld, hchanges.share_eq siteId (hsite ▸ (hidle first hfirst).symm),
      htracks.idle siteId hidle]
  case inStep =>
    intro other hother
    have hcame := htracks.inStep other hother
    by_cases hsame : other = first
    · subst hsame
      rw [← hjob] at hround ⊢
      exact hcame.stepRound hservices hround horderly hmoves elapsed
    · obtain ⟨hne, hapart⟩ := hothers other hother hsame
      rw [← List.append_nil gone]
      apply hcame.of_apart
      · exact Scheduler.round?_stepRound_of_ne services.logged hne elapsed s
      · rw [hworld, hchanges.share_eq _ hapart]
      · exact nofun

/-- What happens elsewhere changes nothing. -/
theorem Tracks.onWorld {start s : Scheduler (Logged σ)} {gone : List Job}
    (htracks : Tracks view habits start s gone) {change : Logged σ → Logged σ}
    (hchange : ∀ w, (change w).1 = w.1 ∧ view (change w).2 = view w.2) :
    Tracks view habits start (s.onWorld change) gone := by
  have hledger : ledger view (s.onWorld change).around.world = ledger view s.around.world := by
    simp only [ledger, Scheduler.onWorld, (hchange s.around.world).1, (hchange s.around.world).2]
  constructor
  case orderly => exact htracks.orderly
  case launched => exact htracks.launched
  case departed => exact htracks.departed
  case ids => rw [hledger, htracks.ids]
  case idle =>
    intro siteId hidle
    rw [hledger, htracks.idle siteId hidle]
  case inStep =>
    intro first hfirst
    rw [← List.append_nil gone]
    exact (htracks.inStep first hfirst).of_apart rfl (by rw [hledger]) (by simp)

/-- What one happening does to the jobs that were launched. -/
theorem Tracks.after (hservices : services.HasHabits view habits) {c : Course (Logged σ)}
    (hlaunched : c.HasLaunched) {d : Course (Logged σ)} {gone : List Job}
    (htracks : Tracks view habits c.scheduler d.scheduler gone) {happening : Happening (Logged σ)}
    (hpeaceful : happening.IsPeaceful view) :
    Tracks view habits c.scheduler (d.after services.logged happening).scheduler
      (gone ++ (d.leaving? happening).toList) := by
  cases happening with
  | elsewhere change =>
      rw [show (d.leaving? (.elsewhere change)).toList = [] from rfl, List.append_nil]
      exact htracks.onWorld hpeaceful
  | advance job elapsed =>
      show Tracks view habits c.scheduler (d.scheduler.stepRound services.logged job elapsed) _
      cases hround : d.scheduler.round? job with
      | none =>
          rw [Scheduler.stepRound_of_none hround]
          simpa [Course.leaving?, hround] using htracks
      | some round =>
          obtain rfl := Scheduler.job_id_of_round? hround
          by_cases hleaving : round.phase = .leaving
          · have hgone : d.leaving? (.advance round.job.id elapsed) = some round.job := by
              simp [Course.leaving?, hround, hleaving]
            rw [hgone, Scheduler.stepRound_eq_leave hround hleaving]
            exact htracks.leave hlaunched hround hleaving
          · have hgone : d.leaving? (.advance round.job.id elapsed) = none := by
              simp only [Course.leaving?, hround, Option.bind_some]
            rw [hgone, Option.toList_none, List.append_nil]
            exact htracks.stepRound hservices hlaunched hround hleaving elapsed
  | start | unwant | announceStop | endStop | read | launch | callOff | planTick =>
      exact hpeaceful.elim

/-- Along every interleaving the jobs stay in step. -/
theorem tracks_run (hservices : services.HasHabits view habits) {c : Course (Logged σ)}
    (hlaunched : c.HasLaunched) {d : Course (Logged σ)} {gone : List Job}
    (htracks : Tracks view habits c.scheduler d.scheduler gone)
    {happenings : List (Happening (Logged σ))}
    (hpeaceful : ∀ happening ∈ happenings, happening.IsPeaceful view) :
    Tracks view habits c.scheduler (d.run services.logged happenings).scheduler
      (gone ++ d.departed services.logged happenings) := by
  induction happenings generalizing d gone with
  | nil => simpa [Course.departed] using htracks
  | cons happening rest ih =>
      obtain ⟨hfirst, hrest⟩ := List.forall_mem_cons.mp hpeaceful
      rw [Course.run_cons, Course.departed, ← List.append_assoc]
      exact ih (htracks.after hservices hlaunched hfirst) hrest

/-! ## The end of all jobs -/

/-- When no round is left, a job has left as its round by itself does. -/
theorem InStep.exists_end {alone : Round Share × Share} {first : Round (Logged σ)}
    {s : Scheduler (Logged σ)} {gone : List Job} (hstep : InStep view habits alone first s gone)
    (hrounds : s.rounds = []) :
    ∃ steps, ((Round.next habits)^[steps] alone).1.phase = .leaving ∧
      (gone.find? (·.id == first.job.id)).map Job.plain =
        some ((Round.next habits)^[steps] alone).1.job ∧
      (ledger view s.around.world).share first.registration.id =
        ((Round.next habits)^[steps] alone).2 := by
  cases hstep with
  | underWay round hround => simp [Scheduler.round?, hrounds] at hround
  | hasLeft job steps hround hgone hleaving hjob hshare =>
      exact ⟨steps, hleaving, by rw [hgone, Option.map_some, hjob], hshare⟩

section

variable {start s t : Scheduler (Logged σ)} {gone left : List Job}

/-- A job comes to one end only, whatever else goes on. -/
theorem Tracks.ends_alike (hone : Tracks view habits start s gone)
    (htwo : Tracks view habits start t left) (hs : s.rounds = []) (ht : t.rounds = [])
    {round : Round (Logged σ)} (hround : round ∈ start.rounds) :
    (gone.find? (·.id == round.job.id)).map Job.plain =
        (left.find? (·.id == round.job.id)).map Job.plain ∧
      (ledger view s.around.world).share round.registration.id =
        (ledger view t.around.world).share round.registration.id := by
  -- The two ends are never compared with each other: both are the one end of the round by itself.
  obtain ⟨n, hleft, hjob, hshare⟩ := (hone.inStep round hround).exists_end hs
  obtain ⟨m, hleft', hjob', hshare'⟩ := (htwo.inStep round hround).exists_end ht
  have hsame := Round.iterate_eq_of_leaving (Round.plain_plain habits round) hleft hleft'
  rw [hjob, hjob', hshare, hshare']
  exact ⟨by rw [hsame], by rw [hsame]⟩

theorem Tracks.share_eq (hone : Tracks view habits start s gone)
    (htwo : Tracks view habits start t left) (hs : s.rounds = []) (ht : t.rounds = [])
    (siteId : String) :
    (ledger view s.around.world).share siteId = (ledger view t.around.world).share siteId := by
  by_cases hbusy : ∃ round ∈ start.rounds, round.registration.id = siteId
  · obtain ⟨round, hround, rfl⟩ := hbusy
    exact (hone.ends_alike htwo hs ht hround).2
  · have hidle : ∀ round ∈ start.rounds, round.registration.id ≠ siteId :=
      fun round hround hsite => hbusy ⟨round, hround, hsite⟩
    rw [hone.idle siteId hidle, htwo.idle siteId hidle]

/-- Only jobs that were launched have left. -/
theorem Tracks.find?_eq_none (hone : Tracks view habits start s gone) {id : JobId}
    (hidle : ∀ round ∈ start.rounds, round.job.id ≠ id) : gone.find? (·.id == id) = none := by
  rw [List.find?_eq_none]
  intro job hjob hsame
  obtain ⟨first, hfirst, hid⟩ := hone.departed job hjob
  exact hidle first hfirst (hid.trans (beq_iff_eq.mp hsame))

theorem Tracks.job_eq (hone : Tracks view habits start s gone)
    (htwo : Tracks view habits start t left) (hs : s.rounds = []) (ht : t.rounds = [])
    (id : JobId) :
    (gone.find? (·.id == id)).map Job.plain = (left.find? (·.id == id)).map Job.plain := by
  by_cases hbusy : ∃ round ∈ start.rounds, round.job.id = id
  · obtain ⟨round, hround, rfl⟩ := hbusy
    exact (hone.ends_alike htwo hs ht hround).1
  · have hidle : ∀ round ∈ start.rounds, round.job.id ≠ id :=
      fun round hround hid => hbusy ⟨round, hround, hid⟩
    rw [hone.find?_eq_none hidle, htwo.find?_eq_none hidle]

theorem Tracks.register_eq (hone : Tracks view habits start s gone)
    (htwo : Tracks view habits start t left) (hs : s.rounds = []) (ht : t.rounds = [])
    (hids : ((ledger view start.around.world).register.map Registration.id).Nodup) :
    (ledger view s.around.world).register.map Registration.timeless =
      (ledger view t.around.world).register.map Registration.timeless := by
  rw [Register.map_timeless_eq (hone.ids ▸ hids), Register.map_timeless_eq (htwo.ids ▸ hids),
    hone.ids, htwo.ids]
  congr 1
  funext siteId
  exact congrArg Share.entry (hone.share_eq htwo hs ht siteId)

end

/-- At the end of an interleaving every job that was launched has left. -/
theorem Course.Completes.exists_job (hservices : services.HasHabits view habits)
    {c : Course (Logged σ)} (hlaunched : c.HasLaunched)
    {happenings : List (Happening (Logged σ))} (hdone : c.Completes services view happenings)
    {round : Round (Logged σ)} (hround : round ∈ c.scheduler.rounds) :
    ∃ job, (c.legacy services view happenings).job? round.job.id = some job := by
  have hbegun := tracks_launched view habits hlaunched
  have htracks := tracks_run hservices hlaunched hbegun hdone.peaceful
  obtain ⟨steps, -, hjob, -⟩ := (htracks.inStep round hround).exists_end hdone.rounds_eq
  exact ⟨_, hjob⟩

/-- Whatever the order in which jobs of different sites take their steps, they leave the same
behind. -/
theorem Course.legacy_eq (hservices : services.HasHabits view habits) {c : Course (Logged σ)}
    (hlaunched : c.HasLaunched) (hids : ((view c.world.2).map Registration.id).Nodup)
    {first second : List (Happening (Logged σ))} (hfirst : c.Completes services view first)
    (hsecond : c.Completes services view second) :
    c.legacy services view first = c.legacy services view second := by
  have hbegun := tracks_launched view habits hlaunched
  have hone := tracks_run hservices hlaunched hbegun hfirst.peaceful
  have htwo := tracks_run hservices hlaunched hbegun hsecond.peaceful
  have hends := hfirst.rounds_eq
  have hends' := hsecond.rounds_eq
  ext1
  · exact hone.register_eq htwo hends hends' hids
  · funext siteId
    exact congrArg Share.saved (hone.share_eq htwo hends hends' siteId)
  · funext siteId
    exact congrArg Share.told (hone.share_eq htwo hends hends' siteId)
  · funext id
    exact hone.job_eq htwo hends hends' id

end

end SiteWatch
