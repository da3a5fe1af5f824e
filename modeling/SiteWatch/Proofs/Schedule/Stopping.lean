/-
# What a stop leaves in flight

A stop takes back the wish for the periodic loop, lets jobs in flight come to their end for a while
and abandons those that are left. Jobs and the loop have separate lifetimes: a tick outside the loop
launches jobs as well, and a job may be abandoned by one stop while another one waits. This module
follows the jobs that are in flight in some state through whatever happens next, and says when a stop
settles all of them: exactly when the loop is wanted, or no job is in flight anyway. A stop that
finds the loop unwanted does nothing, and leaves the jobs of a single tick to themselves.
-/

import SiteWatch.Proofs.Schedule.RunCount
import SiteWatch.Proofs.Schedule.Workers

namespace SiteWatch

variable {σ : Type}

/-- A job that has come to its end by itself. -/
def Job.IsDone (job : Job) : Prop := job.status = .completed ∨ job.status = .failed

/-! ## What a step leaves as it is -/

namespace Round

/-- No step of a round takes back that it was called off. -/
@[simp]
theorem cancelled_step (services : ScheduleServices σ) (elapsed : Nat) (round : Round σ)
    (s : Surroundings σ) : (round.step services elapsed s).1.cancelled = round.cancelled := by
  cases hphase : round.phase with
  | choosing urls => cases urls <;> simp [step, hphase, choose, note]
  | received url rest result =>
      simp only [step, hphase, receive, store, complain]
      split
      · split <;> rfl
      · rfl
  | concluding =>
      simp only [step, hphase, conclude]
      split <;> rfl
  | finishing =>
      simp only [step, hphase, finish]
      split <;> simp
  | starting | scraping | reporting | leaving | lost =>
      simp [step, hphase, start, proceed, report]

/-- What was told stays told. -/
theorem events_step (services : ScheduleServices σ) (elapsed : Nat) (round : Round σ)
    (s : Surroundings σ) : s.events ⊆ (round.step services elapsed s).2.events := by
  cases hphase : round.phase with
  | choosing urls => cases urls <;> simp [step, hphase, choose]
  | received url rest result =>
      simp only [step, hphase, receive, store, complain]
      split
      · split <;> simp
      · simp [Surroundings.tell]
  | concluding =>
      simp only [step, hphase, conclude]
      split
      · simp
      · split <;> simp [Surroundings.tell]
  | finishing =>
      simp only [step, hphase, finish]
      split <;> simp
  | starting | scraping | reporting | leaving | lost =>
      simp [step, hphase, start, proceed, report, Surroundings.tell]

/-- A round comes to the point of leaving by telling its end, completed or failed. -/
theorem isDone_of_step_leaving {services : ScheduleServices σ} {elapsed : Nat} {round : Round σ}
    {s : Surroundings σ} (hbefore : round.phase ≠ .leaving)
    (hafter : (round.step services elapsed s).1.phase = .leaving) :
    (round.step services elapsed s).1.job.IsDone ∧
      ∃ siteId status summary, .finished round.job.id siteId status summary ∈
        (round.step services elapsed s).2.events := by
  cases hphase : round.phase with
  | starting => simp [step, hphase, start] at hafter
  | choosing urls => cases urls <;> simp [step, hphase, choose] at hafter
  | scraping url rest work =>
      simp only [step, hphase, proceed] at hafter
      split at hafter <;> cases hafter
  | received url rest result => simp [step, hphase, receive] at hafter
  | concluding =>
      simp only [step, hphase, conclude] at hafter
      split at hafter <;> cases hafter
  | finishing =>
      simp only [step, hphase, finish] at hafter
      split at hafter <;> cases hafter
  | reporting =>
      simp only [step, hphase, report]
      refine ⟨?_, _, _, _, List.mem_append_right _ (List.mem_singleton.mpr rfl)⟩
      simp only [Job.IsDone, Job.finish, finalStatus]
      split
      · exact .inl rfl
      · exact .inr rfl
  | leaving => exact absurd hphase hbefore
  | lost => simp [step, hphase] at hafter

end Round

namespace Scheduler

/-! ## Jobs that are settled -/

/-- The end of the round of a job was told. -/
def HasToldEnd (s : Scheduler σ) (id : JobId) : Prop :=
  ∃ siteId status summary, .finished id siteId status summary ∈ s.around.events

/-- A job was called off: its round has taken notice, or is over by now. -/
structure IsCalledOff (s : Scheduler σ) (id : JobId) : Prop where
  cancelled : ∀ round ∈ s.rounds, round.job.id = id → round.cancelled = true
  told : (∀ round ∈ s.rounds, round.job.id ≠ id) → s.HasToldEnd id

/-- A job in flight has come to an end that is recorded: it is done, or it was abandoned, which means
that it was called off and is recorded as cancelled. -/
structure SettledAs (s : Scheduler σ) (job last : Job) : Prop where
  id_eq : last.id = job.id
  ended : last.IsDone ∨ last.status = .cancelled ∧ s.IsCalledOff job.id

/-- Nothing is in flight any more, and every job that was has come to its end since. What came to
its end is remembered in front of what was remembered before, as far as the memory goes. -/
structure Settles (settings : ScheduleSettings) (s later : Scheduler σ) : Prop where
  running_eq : later.running = []
  recorded : ∃ ended : List Job,
    later.history = (ended ++ s.history).take settings.historyLimit ∧
      ∀ job ∈ s.running, ∃ last ∈ ended, later.SettledAs job last

/-- What has become of the jobs that were in flight in an earlier state: each is still open, or
settled. The open jobs are the running ones, except while a stop abandons these one by one. -/
structure Minds (settings : ScheduleSettings) (s later : Scheduler σ) (opened : List Job) :
    Prop where
  launched_le : s.launched ≤ later.launched
  /-- Whoever abandons an open job finds a round to call off. -/
  attended : ∀ job ∈ opened, ∃ round ∈ later.rounds, round.job.id = job.id
  leaving : ∀ round ∈ later.rounds, round.phase = .leaving →
    round.job.IsDone ∧ later.HasToldEnd round.job.id
  recorded : ∃ ended : List Job,
    later.history = (ended ++ s.history).take settings.historyLimit ∧
      ∀ job ∈ s.running, job ∈ opened ∨ ∃ last ∈ ended, later.SettledAs job last

variable {settings : ScheduleSettings} {services : ScheduleServices σ} {s later t : Scheduler σ}
  {opened : List Job} {id : JobId}

theorem HasToldEnd.mono (htold : s.HasToldEnd id) (hevents : s.around.events ⊆ t.around.events) :
    t.HasToldEnd id := by
  obtain ⟨siteId, status, summary, hmem⟩ := htold
  exact ⟨siteId, status, summary, hevents hmem⟩

theorem SettledAs.mono {job last : Job} (hsettled : s.SettledAs job last)
    (hoff : s.IsCalledOff job.id → t.IsCalledOff job.id) : t.SettledAs job last :=
  ⟨hsettled.id_eq, hsettled.ended.imp_right fun hcancelled => ⟨hcancelled.1, hoff hcancelled.2⟩⟩

/-- In a new scheduler nothing is in flight. -/
theorem minds_fresh (settings : ScheduleSettings) (world : σ) :
    Minds settings (Course.fresh world).scheduler (Course.fresh world).scheduler [] where
  launched_le := Nat.le_refl _
  attended := by simp
  leaving := by simp [Course.fresh]
  recorded := ⟨[], by simp [Course.fresh], by simp [Course.fresh]⟩

/-- At first every job that is in flight is open. -/
theorem Minds.refl (h : Minds settings t s s.running)
    (hhistory : s.history.length ≤ settings.historyLimit) : Minds settings s s s.running where
  launched_le := Nat.le_refl _
  attended := h.attended
  leaving := h.leaving
  recorded := ⟨[], (List.take_of_length_le hhistory).symm, fun _ hjob => .inl hjob⟩

/-- When no job is open any more, all are settled. -/
theorem Minds.settles (h : Minds settings s later []) (hrunning : later.running = []) :
    Settles settings s later := by
  obtain ⟨ended, hhistory, hended⟩ := h.recorded
  exact ⟨hrunning, ended, hhistory, fun job hjob => (hended job hjob).resolve_left List.not_mem_nil⟩

/-! ## What happenings do to jobs in flight -/

/-- Every round gives way to one for the same job, which is called off if all rounds of that job
were. Jobs are left alone, and more may be told. -/
theorem Minds.mapRounds (h : Minds settings s later opened) {f : Round σ → Round σ}
    (hrounds : t.rounds = later.rounds.map f) (hlaunched : t.launched = later.launched)
    (hhistory : t.history = later.history) (hevents : later.around.events ⊆ t.around.events)
    (hid : ∀ round, (f round).job.id = round.job.id)
    (hcancelled : ∀ round, later.IsCalledOff round.job.id → round ∈ later.rounds →
      (f round).cancelled = true)
    (hleaving : ∀ round ∈ later.rounds, (f round).phase = .leaving →
      (f round).job.IsDone ∧ t.HasToldEnd round.job.id) :
    Minds settings s t opened where
  launched_le := hlaunched ▸ h.launched_le
  attended := by
    intro job hjob
    obtain ⟨round, hround, hsame⟩ := h.attended job hjob
    exact ⟨f round, hrounds ▸ List.mem_map_of_mem hround, (hid round).trans hsame⟩
  leaving := by
    intro round hround hphase
    rw [hrounds] at hround
    obtain ⟨old, hold, rfl⟩ := List.mem_map.mp hround
    rw [hid]
    exact hleaving old hold hphase
  recorded := by
    obtain ⟨ended, hended, hjobs⟩ := h.recorded
    refine ⟨ended, hhistory.trans hended, fun job hjob => (hjobs job hjob).imp_right ?_⟩
    rintro ⟨last, hlast, hsettled⟩
    refine ⟨last, hlast, hsettled.mono fun hoff => ⟨fun round hround hsame => ?_, fun hnone => ?_⟩⟩
    · rw [hrounds] at hround
      obtain ⟨old, hold, rfl⟩ := List.mem_map.mp hround
      rw [hid] at hsame
      exact hcancelled old (hsame ▸ hoff) hold
    · refine (hoff.told fun round hround hsame => ?_).mono hevents
      exact hnone _ (hrounds ▸ List.mem_map_of_mem hround) ((hid round).trans hsame)

/-- Something that looks at neither the jobs nor the rounds; it may tell more. -/
theorem Minds.of_eq (h : Minds settings s later opened) (hrounds : t.rounds = later.rounds)
    (hlaunched : t.launched = later.launched) (hhistory : t.history = later.history)
    (hevents : later.around.events ⊆ t.around.events) : Minds settings s t opened := by
  refine h.mapRounds (f := fun round => round) (by simp [hrounds]) hlaunched hhistory hevents
    (fun _ => rfl) (fun round hoff hround => hoff.cancelled round hround rfl) ?_
  intro round hround hphase
  obtain ⟨hdone, htold⟩ := h.leaving round hround hphase
  exact ⟨hdone, htold.mono hevents⟩

/-- A job is launched: its number is new to all that was in flight. -/
theorem Minds.launch (h : Minds settings s later opened)
    (hids : ∀ job ∈ s.running, job.id.number < s.launched) {job : Job}
    (registration : Registration) (hnumber : job.id = ⟨later.launched⟩) :
    Minds settings s (later.launch job registration) (opened ++ [job]) where
  launched_le := Nat.le_succ_of_le h.launched_le
  attended := by
    intro other hother
    rcases List.mem_append.mp hother with hother | hother
    · obtain ⟨round, hround, hid⟩ := h.attended other hother
      exact ⟨round, List.mem_append_left _ hround, hid⟩
    · obtain rfl := List.mem_singleton.mp hother
      exact ⟨.launch other registration, List.mem_append_right _ (List.mem_singleton.mpr rfl), rfl⟩
  leaving := by
    intro round hround hphase
    rcases List.mem_append.mp hround with hround | hround
    · obtain ⟨hdone, htold⟩ := h.leaving round hround hphase
      exact ⟨hdone, htold.mono (List.subset_append_left _ _)⟩
    · obtain rfl := List.mem_singleton.mp hround
      cases hphase
  recorded := by
    obtain ⟨ended, hended, hjobs⟩ := h.recorded
    refine ⟨ended, hended, fun other hother => ?_⟩
    refine (hjobs other hother).imp (List.mem_append_left _) ?_
    rintro ⟨last, hlast, hsettled⟩
    refine ⟨last, hlast, hsettled.mono fun hoff => ⟨fun round hround hid => ?_, fun hnone => ?_⟩⟩
    · rcases List.mem_append.mp hround with hround | hround
      · exact hoff.cancelled round hround hid
      · obtain rfl := List.mem_singleton.mp hround
        have hlt := Nat.lt_of_lt_of_le (hids other hother) h.launched_le
        rw [← hid, Round.launch, hnumber] at hlt
        exact absurd hlt (Nat.lt_irrefl _)
    · exact (hoff.told fun round hround => hnone round (List.mem_append_left _ hround)).mono
        (List.subset_append_left _ _)

theorem Minds.launchDue (h : Minds services.settings s later later.running)
    (hids : ∀ job ∈ s.running, job.id.number < s.launched) (due : List Registration) :
    Minds services.settings s (later.launchDue services due).2
      (later.launchDue services due).2.running := by
  refine List.foldlRecOn due (consider services)
    (motive := fun progress => Minds services.settings s progress.2 progress.2.running) ?_ ?_
  · exact h.of_eq rfl rfl rfl (List.subset_append_left _ _)
  · rintro ⟨report, progress⟩ hprogress registration -
    simp only [consider]
    split
    · exact hprogress
    · split
      · exact hprogress.of_eq rfl rfl rfl (List.subset_append_left _ _)
      · exact hprogress.launch hids registration rfl

/-- An open job is remembered. -/
theorem Minds.remember {job last : Job} (h : Minds services.settings s later (job :: opened))
    (hsettled : later.SettledAs job last) :
    Minds services.settings s (later.remember services last) opened where
  launched_le := h.launched_le
  attended := fun other hother => h.attended other (List.mem_cons_of_mem _ hother)
  leaving := h.leaving
  recorded := by
    obtain ⟨ended, hended, hjobs⟩ := h.recorded
    refine ⟨last :: ended, ?_, fun other hother => ?_⟩
    · simpa [Scheduler.remember, hended] using take_append_take _ [last] (ended ++ s.history)
    · rcases hjobs other hother with hopen | ⟨final, hfinal, hother⟩
      · rcases List.mem_cons.mp hopen with rfl | hopen
        · exact .inr ⟨last, List.mem_cons_self, hsettled.mono fun hoff => ⟨hoff.cancelled, hoff.told⟩⟩
        · exact .inl hopen
      · exact .inr ⟨final, List.mem_cons_of_mem _ hfinal, hother.mono fun hoff => ⟨hoff.cancelled, hoff.told⟩⟩

theorem Minds.callOff (h : Minds settings s later opened) (id : JobId) :
    Minds settings s (later.callOff id) opened := by
  refine h.mapRounds rfl rfl rfl (List.Subset.refl _) (fun round => ?_)
    (fun round hoff hround => ?_) (fun round hround hphase => ?_)
  · split <;> rfl
  · split
    · rfl
    · exact hoff.cancelled round hround rfl
  · have hsame : (if round.job.id == id then { round with cancelled := true } else round).job =
        round.job ∧ (if round.job.id == id then { round with cancelled := true } else round).phase =
        round.phase := by
      split <;> exact ⟨rfl, rfl⟩
    rw [hsame.2] at hphase
    rw [hsame.1]
    exact h.leaving round hround hphase

/-- The round of a job that was just called off is, if there is one. -/
theorem isCalledOff_callOff {round : Round σ} (hround : round ∈ s.rounds) :
    (s.callOff round.job.id).IsCalledOff round.job.id where
  cancelled := by
    intro other hother hid
    obtain ⟨old, hold, rfl⟩ := List.mem_map.mp hother
    by_cases hsame : old.job.id = round.job.id
    · simp [hsame]
    · simp [hsame] at hid
  told := by
    intro hnone
    refine absurd ?_ (hnone _ (List.mem_map_of_mem hround))
    split <;> rfl

/-- To abandon an open job is to call off its round and to record it as cancelled. -/
theorem Minds.abandon {job : Job} (h : Minds services.settings s later (job :: opened)) :
    Minds services.settings s (later.abandon services job) opened := by
  have htold : Minds services.settings s
      ((later.callOff job.id).tell (.abandoned job.id job.siteId)) (job :: opened) :=
    (h.callOff job.id).of_eq rfl rfl rfl (List.subset_append_left _ _)
  obtain ⟨round, hround, hid⟩ := h.attended job List.mem_cons_self
  have hoff : (later.callOff job.id).IsCalledOff job.id := hid ▸ isCalledOff_callOff hround
  exact htold.remember ⟨rfl, .inr ⟨rfl, hoff.cancelled, fun hnone =>
    (hoff.told hnone).mono (List.subset_append_left _ _)⟩⟩

theorem Minds.foldl_abandon (opened : List Job) (h : Minds services.settings s later opened) :
    Minds services.settings s (opened.foldl (Scheduler.abandon services) later) [] := by
  induction opened generalizing later with
  | nil => exact h
  | cons job rest ih => exact ih h.abandon

/-- The end of a stop leaves no job open. -/
theorem Minds.endStop (h : Minds services.settings s later later.running) (inFlight : Nat) :
    Minds services.settings s (later.endStop services inFlight).2 [] :=
  (h.foldl_abandon later.running).of_eq rfl rfl rfl (List.subset_append_left _ _)

/-- A round leaves: its job is done, and remembered as such if it was still in flight. -/
theorem Minds.leave {round : Round σ} (h : Minds services.settings s later later.running)
    (hround : round ∈ later.rounds) (hphase : round.phase = .leaving) :
    Minds services.settings s (later.leave services round)
      (later.leave services round).running := by
  obtain ⟨hdone, htold⟩ := h.leaving round hround hphase
  obtain ⟨ended, hended, hjobs⟩ := h.recorded
  -- Who was called off stays so: if its round is the one that leaves, the end was told.
  have hoff : ∀ {left : Scheduler σ} {id : JobId}, left.around = later.around →
      left.rounds = later.rounds.filter (·.job.id != round.job.id) →
      later.IsCalledOff id → left.IsCalledOff id := by
    intro left id haround hrounds hoff
    refine ⟨fun other hother => ?_, fun hnone => ?_⟩
    · exact hoff.cancelled other (List.mem_of_mem_filter (hrounds ▸ hother))
    · by_cases hid : round.job.id = id
      · exact hid ▸ htold.mono (by simp [haround])
      · refine (hoff.told fun other hother hsame => hnone other ?_ hsame).mono (by simp [haround])
        rw [hrounds, List.mem_filter, hsame]
        exact ⟨hother, by simpa using Ne.symm hid⟩
  have hattended : ∀ job ∈ later.running.filter (·.id != round.job.id),
      ∃ other ∈ later.rounds.filter (·.job.id != round.job.id), other.job.id = job.id := by
    intro job hjob
    obtain ⟨hjob, hne⟩ := List.mem_filter.mp hjob
    obtain ⟨other, hother, hid⟩ := h.attended job hjob
    exact ⟨other, List.mem_filter.mpr ⟨hother, hid ▸ hne⟩, hid⟩
  have hleaving : ∀ other ∈ later.rounds.filter (·.job.id != round.job.id),
      other.phase = .leaving → other.job.IsDone ∧ later.HasToldEnd other.job.id :=
    fun other hother => h.leaving other (List.mem_of_mem_filter hother)
  simp only [Scheduler.leave]
  split
  case isTrue hrunning =>
    refine ⟨h.launched_le, hattended, hleaving, round.job :: ended, ?_, fun job hjob => ?_⟩
    · simpa [Scheduler.remember, hended] using take_append_take _ [round.job] (ended ++ s.history)
    · rcases hjobs job hjob with hopen | ⟨last, hlast, hsettled⟩
      · by_cases hid : round.job.id = job.id
        · exact .inr ⟨round.job, List.mem_cons_self, hid, .inl hdone⟩
        · exact .inl (List.mem_filter.mpr ⟨hopen, by simpa using Ne.symm hid⟩)
      · exact .inr ⟨last, List.mem_cons_of_mem _ hlast, hsettled.mono (hoff rfl rfl)⟩
  case isFalse hgone =>
    refine ⟨h.launched_le, hattended, hleaving, ended, hended, fun job hjob => ?_⟩
    refine (hjobs job hjob).imp ?_ ?_
    · refine fun hopen => List.mem_filter.mpr ⟨hopen, ?_⟩
      simpa using fun hid => hgone (List.any_eq_true.mpr ⟨job, hopen, beq_iff_eq.mpr hid⟩)
    · rintro ⟨last, hlast, hsettled⟩
      exact ⟨last, hlast, hsettled.mono (hoff rfl rfl)⟩

theorem Minds.stepRound (h : Minds services.settings s later later.running) (id : JobId)
    (elapsed : Nat) :
    Minds services.settings s (later.stepRound services id elapsed)
      (later.stepRound services id elapsed).running := by
  simp only [Scheduler.stepRound]
  split
  · exact h
  · rename_i round hround
    have hmem : round ∈ later.rounds := List.mem_of_find?_eq_some hround
    split
    · rename_i hphase
      exact h.leave hmem hphase
    · rename_i hphase
      have hevents := Round.events_step services elapsed round later.around
      -- The new round stands where the old one stood, for the same job and called off as it was.
      refine h.mapRounds rfl rfl rfl hevents (fun other => ?_) (fun other hoff hother => ?_)
        (fun other hother hleaving => ?_)
      · split
        · rename_i hsame
          exact (beq_iff_eq.mp hsame).symm
        · rfl
      · split
        · rename_i hsame
          rw [Round.cancelled_step]
          exact hoff.cancelled round hmem (by simpa using (beq_iff_eq.mp hsame).symm)
        · exact hoff.cancelled other hother rfl
      · by_cases hsame : other.job.id = round.job.id
        · simp only [Round.step_job_id, hsame, beq_self_eq_true, if_true] at hleaving ⊢
          exact Round.isDone_of_step_leaving hphase hleaving
        · simp only [Round.step_job_id, beq_iff_eq, hsame, if_false] at hleaving ⊢
          obtain ⟨hdone, htold⟩ := h.leaving other hother hleaving
          exact ⟨hdone, htold.mono hevents⟩

/-- Every happening. -/
theorem Minds.after {c : Course σ} (h : Minds services.settings s c.scheduler c.scheduler.running)
    (hids : ∀ job ∈ s.running, job.id.number < s.launched) (happening : Happening σ) :
    Minds services.settings s (c.after services happening).scheduler
      (c.after services happening).scheduler.running := by
  cases happening with
  | start =>
      simp only [Course.after, Scheduler.start]
      split
      · exact h
      · exact h.of_eq rfl rfl rfl (List.subset_append_left _ _)
  | unwant => exact h.of_eq rfl rfl rfl (List.Subset.refl _)
  | announceStop => exact h.of_eq rfl rfl rfl (List.subset_append_left _ _)
  | endStop inFlight => exact h.endStop inFlight
  | read =>
      simp only [Course.after, Course.read]
      split <;> exact h
  | launch place =>
      simp only [Course.after, Course.launch]
      split
      · exact h
      · exact h.launchDue hids _
  | advance job elapsed => exact h.stepRound job elapsed
  | callOff job => exact h.callOff job
  | planTick next => exact h.of_eq rfl rfl rfl (List.Subset.refl _)
  | elsewhere change => exact h.of_eq rfl rfl rfl (List.Subset.refl _)

/-- Whatever happens, and in whatever order. -/
theorem Minds.run {c : Course σ} (h : Minds services.settings s c.scheduler c.scheduler.running)
    (hids : ∀ job ∈ s.running, job.id.number < s.launched) (happenings : List (Happening σ)) :
    Minds services.settings s (c.run services happenings).scheduler
      (c.run services happenings).scheduler.running :=
  Course.run_induction
    (motive := fun c => Minds services.settings s c.scheduler c.scheduler.running) h
    (fun _ happening hc => hc.after hids happening) happenings

end Scheduler

/-! ## A stop as a course -/

namespace Course

/-- A stop, together with what else happens until the loop rests, and from then on until the wait
for jobs in flight is over. -/
def stop (services : ScheduleServices σ) (resting waiting : List (Happening σ)) (c : Course σ) :
    StopReport × Course σ :=
  if c.scheduler.looping then
    let rested := (c.after services .unwant).run services resting
    let inFlight := rested.scheduler.running.length
    let waited := (rested.after services .announceStop).run services waiting
    ((waited.scheduler.endStop services inFlight).1, waited.after services (.endStop inFlight))
  else ({}, c)

variable {services : ScheduleServices σ} {c : Course σ}

/-- A stop of the loop settles whatever is in flight. -/
theorem settles_stop_of_looping
    (hc : Scheduler.Minds services.settings c.scheduler c.scheduler c.scheduler.running)
    (hids : ∀ job ∈ c.scheduler.running, job.id.number < c.scheduler.launched)
    (hlooping : c.scheduler.looping = true) (resting waiting : List (Happening σ)) :
    c.scheduler.Settles services.settings (c.stop services resting waiting).2.scheduler := by
  rw [stop, if_pos hlooping]
  have hrested := (hc.after hids .unwant).run hids resting
  have hwaited := (hrested.after hids .announceStop).run hids waiting
  exact (hwaited.endStop ((c.after services .unwant).run services
    resting).scheduler.running.length).settles rfl

/-- Without a loop a stop settles what is in flight only if nothing is. -/
theorem settles_self_iff (hhistory : c.scheduler.history.length ≤ services.settings.historyLimit) :
    c.scheduler.Settles services.settings c.scheduler ↔ c.scheduler.running = [] := by
  refine ⟨fun hsettles => hsettles.running_eq, fun hnone => ⟨hnone, [], ?_, ?_⟩⟩
  · exact (List.take_of_length_le hhistory).symm
  · simp [hnone]

end Course

namespace Timeline

variable {services : ScheduleServices σ} {t : Timeline σ}

/-- The stop of a loop: it comes to rest, jobs in flight are waited for, and what is left is
abandoned. -/
theorem stop_of_looping (hlooping : t.scheduler.looping = true) :
    let rested := t.dismissLoop.settle services patience
    let inFlight := rested.scheduler.running.length
    let waited := ({ rested with scheduler := rested.scheduler.announceStop.2 }.waitIdle services
      services.settings.graceMs).2
    t.stop services = ((waited.scheduler.endStop services inFlight).1,
      { waited with scheduler := (waited.scheduler.endStop services inFlight).2 }.wakeReady) := by
  simp only [stop, hlooping]
  rfl

theorem stop_of_not_looping (hlooping : t.scheduler.looping = false) :
    t.stop services = ({}, t) := by
  simp [stop, hlooping]

/-- The stop of a timeline is a stop along some course. -/
theorem exists_stop_eq (services : ScheduleServices σ) {c : Course σ} (hc : c.scheduler = t.scheduler) :
    ∃ resting waiting, (c.stop services resting waiting).1 = (t.stop services).1 ∧
      (c.stop services resting waiting).2.scheduler = (t.stop services).2.scheduler := by
  cases hlooping : t.scheduler.looping with
  | false => exact ⟨[], [], by simp [Course.stop, stop_of_not_looping hlooping, hc, hlooping]⟩
  | true =>
      have hunwanted : (c.after services .unwant).scheduler = t.dismissLoop.scheduler := by
        simp only [Course.after, hc, dismissLoop]
        split <;> rfl
      obtain ⟨resting, hrested⟩ := leadsTo_settle services patience t.dismissLoop _ hunwanted
      obtain ⟨waiting, hwaited⟩ :=
        leadsTo_waitIdle services services.settings.graceMs
          { t.dismissLoop.settle services patience with
            scheduler := (t.dismissLoop.settle services patience).scheduler.announceStop.2 }
          (((c.after services .unwant).run services resting).after services .announceStop)
          (congrArg (fun s => s.announceStop.2) hrested)
      refine ⟨resting, waiting, ?_⟩
      rw [Course.stop, if_pos (hc ▸ hlooping), stop_of_looping hlooping]
      simp only [scheduler_wakeReady, hwaited, hrested, true_and]
      exact congrArg (fun s : Scheduler σ => (s.endStop services
        (t.dismissLoop.settle services patience).scheduler.running.length).2) hwaited

/-! ## The clock of a stop -/

@[simp]
theorem clock_wakeReady (t : Timeline σ) : t.wakeReady.clock = t.clock := by
  refine List.foldlRecOn _ _ (motive := fun later : Timeline σ => later.clock = t.clock) rfl ?_
  intro later hlater id _
  split
  · exact hlater
  · exact hlater

@[simp]
theorem clock_wakeLaunched (jobs : List Job) (t : Timeline σ) :
    (t.wakeLaunched jobs).clock = t.clock :=
  List.foldlRecOn jobs _ (motive := fun later : Timeline σ => later.clock = t.clock) rfl
    fun _ hlater _ _ => hlater

theorem clock_tick (services : ScheduleServices σ) (t : Timeline σ) :
    (t.tick services).2.clock = t.clock := by
  unfold tick
  dsimp only
  split <;> simp

/-- A turn takes no time. -/
@[simp]
theorem clock_turn (services : ScheduleServices σ) (t : Timeline σ) (worker : Worker) :
    (t.turn services worker).clock = t.clock := by
  cases worker with
  | loop =>
      simp only [turn, turnOfLoop]
      split
      · rfl
      · split
        · rfl
        · split <;> exact clock_tick services _
  | round id =>
      have hbegin : ∀ t : Timeline σ, (t.beginWait id).clock = t.clock := by
        intro t
        unfold beginWait
        split
        · rfl
        · split
          · dsimp only
            split <;> rfl
          · rfl
      have hsend : ∀ begins (t : Timeline σ), (t.sendWatch services id begins).clock = t.clock := by
        intro begins t
        unfold sendWatch
        split <;> rfl
      have hrecall : ∀ t : Timeline σ, (t.recallWatch id).clock = t.clock := by
        intro t
        unfold recallWatch
        split <;> rfl
      simp only [turn, turnOfRound]
      split
      · rfl
      · split
        · rfl
        · simp [hbegin, hsend, hrecall, dropAlarms]
  | watch id =>
      simp only [turn, turnOfWatch]
      split
      · split
        · rfl
        · split
          · simp [turnOfAlarm]
          · rfl
      · rfl
  | alarm id => simp [turn, turnOfAlarm]

@[simp]
theorem clock_settle (services : ScheduleServices σ) (turns : Nat) (t : Timeline σ) :
    (t.settle services turns).clock = t.clock := by
  induction turns generalizing t with
  | zero => rfl
  | succ turns ih =>
      simp only [settle]
      split
      · rfl
      · rw [ih, clock_turn]

/-- Nobody waits past the deadline. -/
theorem clock_waitUntil_le {holds : Timeline σ → Bool} {deadline moves : Nat}
    (ht : t.clock ≤ deadline) : (t.waitUntil services holds deadline moves).clock ≤ deadline := by
  induction moves generalizing t with
  | zero => exact ht
  | succ moves ih =>
      simp only [waitUntil]
      split
      · simpa using ht
      · split
        · exact Nat.le_refl _
        · rename_i time _
          split
          · rename_i hearly
            exact ih (Nat.le_of_lt hearly)
          · exact Nat.le_refl _

theorem clock_waitIdle_le (services : ScheduleServices σ) (limit : Nat) (t : Timeline σ) :
    (t.waitIdle services limit).2.clock ≤ t.clock + limit := by
  unfold waitIdle
  split
  · exact Nat.le_add_right _ _
  · exact clock_waitUntil_le (Nat.le_add_right _ _)

/-- A stop takes no longer than its grace period. -/
theorem clock_stop_le (services : ScheduleServices σ) (t : Timeline σ) :
    (t.stop services).2.clock ≤ t.clock + services.settings.graceMs := by
  cases hlooping : t.scheduler.looping with
  | false =>
      rw [stop_of_not_looping hlooping]
      exact Nat.le_add_right _ _
  | true =>
      have hdismissed : t.dismissLoop.clock = t.clock := by
        simp only [dismissLoop]
        split <;> rfl
      rw [stop_of_looping hlooping, clock_wakeReady]
      refine Nat.le_trans (clock_waitIdle_le services _ _) ?_
      simp [hdismissed]

end Timeline

/-! ## When a stop leaves nothing in flight -/

/-- In every state that a new scheduler reaches, a stop leaves nothing in flight exactly if the loop
is wanted, or nothing is in flight anyway: whatever else happens while it waits, every job that was
in flight is done within the grace period or abandoned. Whoever launches jobs by a tick outside the
loop gets no help from a stop. -/
theorem Course.settles_stop_iff (services : ScheduleServices σ) (world : σ)
    (happenings : List (Happening σ)) :
    let s := ((Course.fresh world).run services happenings).scheduler
    (∀ resting waiting, s.Settles services.settings
        (((Course.fresh world).run services happenings).stop services resting waiting).2.scheduler ↔
      s.looping = true ∨ s.running = []) ∧
    ∀ t : Timeline σ, t.scheduler = s →
      (s.Settles services.settings (t.stop services).2.scheduler ↔
        s.looping = true ∨ s.running = []) ∧
      (t.stop services).2.clock ≤ t.clock + services.settings.graceMs := by
  intro s
  have hconsistent := Scheduler.consistent_of_course services world happenings
  have hhistory : s.history.length ≤ services.settings.historyLimit :=
    hconsistent.accounts.history_le
  have hids : ∀ job ∈ s.running, job.id.number < s.launched :=
    fun job hjob => hconsistent.accounts.ids_lt job (List.mem_append_left _ hjob)
  have hminds : Scheduler.Minds services.settings s s s.running :=
    ((Scheduler.minds_fresh services.settings world).run nofun happenings).refl hhistory
  have hstop : ∀ resting waiting, s.Settles services.settings
      (((Course.fresh world).run services happenings).stop services resting waiting).2.scheduler ↔
        s.looping = true ∨ s.running = [] := by
    intro resting waiting
    cases hlooping : s.looping with
    | true => simpa using Course.settles_stop_of_looping hminds hids hlooping resting waiting
    | false =>
        rw [Course.stop, if_neg (by simpa using hlooping)]
        simpa using Course.settles_self_iff hhistory
  refine ⟨hstop, fun t ht => ⟨?_, t.clock_stop_le services⟩⟩
  obtain ⟨resting, waiting, -, hsame⟩ := t.exists_stop_eq services ht.symm
  rw [← hsame]
  exact hstop resting waiting

/-! ## A tick outside the loop -/

namespace Rehearsal.Backstage

/-- A job that a tick outside the loop has launched waits at a closed gate for longer than the
caller does. -/
def forsaken : Timeline Backstage :=
  (({ scheduler := (Course.fresh closedGate).scheduler : Timeline Backstage }.tick ordinary).2.waitIdle
    ordinary 1000).2

/-- The stop that the caller then asks for does not settle it: the job is still in flight, is not
called off, and is not recorded. -/
theorem forsaken_not_settled :
    (∃ happenings, ((Course.fresh closedGate).run ordinary happenings).scheduler =
        forsaken.scheduler) ∧
      forsaken.scheduler.running.map Job.siteId = ["events"] ∧
      (forsaken.stop ordinary).2.scheduler.running.map Job.siteId = ["events"] ∧
      (forsaken.stop ordinary).2.scheduler.history = [] ∧
      (forsaken.stop ordinary).2.scheduler.rounds.map Round.cancelled = [false] ∧
      ¬ forsaken.scheduler.Settles ordinary.settings (forsaken.stop ordinary).2.scheduler := by
  have hleft : (forsaken.stop ordinary).2.scheduler.running.map Job.siteId = ["events"] := by
    decide +kernel
  refine ⟨?_, by decide +kernel, hleft, by decide +kernel, by decide +kernel, fun hsettles => ?_⟩
  · exact (Timeline.leadsTo_tick ordinary _).trans (Timeline.leadsTo_waitIdle ordinary 1000 _) _ rfl
  · rw [hsettles.running_eq] at hleft
    cases hleft

end Rehearsal.Backstage

end SiteWatch
