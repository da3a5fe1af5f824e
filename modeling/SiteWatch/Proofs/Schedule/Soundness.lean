/-
# What is always true of a scheduler

Along every course of happenings the jobs that run and the jobs that are remembered stay in order:
there are never more of either than allowed, no site has two running jobs, a job that runs has not
ended and one that is remembered has, and no job is found twice. A job may come to its end by
itself, be abandoned, or come to its end after it was abandoned; what holds them together is that
the running jobs and the remembered ones account for every job at most once, and that jobs are
numbered in the order in which they are launched.
-/

import Mathlib.Data.List.Nodup
import SiteWatch.Proofs.Schedule.Rounds

namespace SiteWatch

variable {σ : Type}

/-- A list of which only the first entries are kept may be cut short before more comes in front. -/
theorem take_append_take {α : Type} (n : Nat) (l more : List α) :
    (l ++ more.take n).take n = (l ++ more).take n := by
  rw [List.take_append, List.take_append, List.take_take, Nat.min_eq_left (Nat.sub_le ..)]

namespace Scheduler

/-- The promise of a scheduler to those who look at it. -/
structure Sound (settings : ScheduleSettings) (s : Scheduler σ) : Prop where
  running_le : s.running.length ≤ settings.maxConcurrentJobs
  sites_nodup : (s.running.map Job.siteId).Nodup
  running_isUnderWay : ∀ job ∈ s.running, job.IsUnderWay
  history_hasEnded : ∀ job ∈ s.history, job.HasEnded
  history_le : s.history.length ≤ settings.historyLimit
  ids_nodup : ((s.running ++ s.history).map Job.id).Nodup

/-- Some open jobs and the remembered ones account for every job at most once. The open jobs are the
running ones, except while a stop abandons these one by one. -/
structure Accounts (settings : ScheduleSettings) (s : Scheduler σ) (opened : List Job) : Prop where
  history_hasEnded : ∀ job ∈ s.history, job.HasEnded
  history_le : s.history.length ≤ settings.historyLimit
  ids_nodup : ((opened ++ s.history).map Job.id).Nodup
  /-- Jobs are numbered as they are launched, so a number that is still to come is new. -/
  ids_lt : ∀ job ∈ opened ++ s.history, job.id.number < s.launched
  leaving_hasEnded : ∀ round ∈ s.rounds, round.phase = .leaving → round.job.HasEnded

/-- The running jobs, apart from those that are remembered. -/
structure RunsWell (settings : ScheduleSettings) (running : List Job) : Prop where
  length_le : running.length ≤ settings.maxConcurrentJobs
  sites_nodup : (running.map Job.siteId).Nodup
  isUnderWay : ∀ job ∈ running, job.IsUnderWay

/-- What every happening preserves. -/
structure Consistent (settings : ScheduleSettings) (s : Scheduler σ) : Prop where
  runsWell : RunsWell settings s.running
  accounts : s.Accounts settings s.running

theorem Consistent.sound {settings : ScheduleSettings} {s : Scheduler σ}
    (hs : s.Consistent settings) : s.Sound settings where
  running_le := hs.runsWell.length_le
  sites_nodup := hs.runsWell.sites_nodup
  running_isUnderWay := hs.runsWell.isUnderWay
  history_hasEnded := hs.accounts.history_hasEnded
  history_le := hs.accounts.history_le
  ids_nodup := hs.accounts.ids_nodup

theorem consistent_fresh (settings : ScheduleSettings) (world : σ) :
    (Course.fresh world).scheduler.Consistent settings where
  runsWell := ⟨Nat.zero_le _, List.nodup_nil, by simp [Course.fresh]⟩
  accounts := ⟨by simp [Course.fresh], Nat.zero_le _, List.nodup_nil, by simp [Course.fresh],
    by simp [Course.fresh]⟩

/-- The jobs and the rounds are all that consistency is about. -/
theorem Consistent.of_eq {settings : ScheduleSettings} {s t : Scheduler σ}
    (hs : s.Consistent settings) (hrunning : t.running = s.running)
    (hhistory : t.history = s.history) (hrounds : t.rounds = s.rounds)
    (hlaunched : t.launched = s.launched) : t.Consistent settings := by
  obtain ⟨hwell, hended, hle, hnodup, hlt, hleaving⟩ := hs
  refine ⟨by rwa [hrunning], ?_, ?_, ?_, ?_, ?_⟩
  · rwa [hhistory]
  · rwa [hhistory]
  · rwa [hrunning, hhistory]
  · rwa [hrunning, hhistory, hlaunched]
  · rwa [hrounds]

/-! ## Launching -/

/-- A new job for a site without one, under the cap. -/
theorem RunsWell.append {settings : ScheduleSettings} {running : List Job} {job : Job}
    (hrunning : RunsWell settings running)
    (hcap : running.length < settings.maxConcurrentJobs)
    (hsite : ∀ other ∈ running, other.siteId ≠ job.siteId) (hjob : job.IsUnderWay) :
    RunsWell settings (running ++ [job]) where
  length_le := by simpa using Nat.succ_le_of_lt hcap
  sites_nodup := by
    rw [List.map_append, List.nodup_append]
    refine ⟨hrunning.sites_nodup, List.nodup_singleton _, ?_⟩
    rintro _ hold _ hnew rfl
    obtain ⟨other, hother, hsame⟩ := List.mem_map.mp hold
    exact hsite other hother (hsame.trans (List.mem_singleton.mp hnew))
  isUnderWay := by
    intro other hother
    rcases List.mem_append.mp hother with hother | hother
    · exact hrunning.isUnderWay other hother
    · rwa [List.mem_singleton.mp hother]

/-- The job that is launched next has a number that no account knows. -/
theorem Accounts.launch {settings : ScheduleSettings} {s : Scheduler σ} {opened : List Job}
    (hs : s.Accounts settings opened) {job : Job} (registration : Registration)
    (hnumber : job.id = ⟨s.launched⟩) :
    (s.launch job registration).Accounts settings (opened ++ [job]) where
  history_hasEnded := hs.history_hasEnded
  history_le := hs.history_le
  ids_nodup := by
    have hnew : job.id ∉ (opened ++ s.history).map Job.id := by
      rintro hold
      obtain ⟨other, hother, hsame⟩ := List.mem_map.mp hold
      have hlt := hs.ids_lt other hother
      rw [hsame, hnumber] at hlt
      exact absurd hlt (Nat.lt_irrefl _)
    have hmoved : ((opened ++ [job] ++ s.history).map Job.id).Perm
        (job.id :: (opened ++ s.history).map Job.id) := by
      rw [List.append_assoc, List.singleton_append]
      exact List.perm_middle.map Job.id
    exact hmoved.nodup_iff.mpr (List.nodup_cons.mpr ⟨hnew, hs.ids_nodup⟩)
  ids_lt := by
    intro other hother
    change other.id.number < s.launched + 1
    rcases List.mem_append.mp hother with hother | hother
    · rcases List.mem_append.mp hother with hother | hother
      · exact Nat.lt_succ_of_lt (hs.ids_lt other (List.mem_append_left _ hother))
      · simp [List.mem_singleton.mp hother, hnumber]
    · exact Nat.lt_succ_of_lt (hs.ids_lt other (List.mem_append_right _ hother))
  leaving_hasEnded := by
    intro round hround
    rcases List.mem_append.mp hround with hround | hround
    · exact hs.leaving_hasEnded round hround
    · simp [List.mem_singleton.mp hround, Round.launch]

/-- Looking at one due registration. -/
theorem Consistent.consider {services : ScheduleServices σ} {progress : TickReport × Scheduler σ}
    (hs : progress.2.Consistent services.settings) (registration : Registration) :
    (consider services progress registration).2.Consistent services.settings := by
  obtain ⟨report, s⟩ := progress
  simp only [Scheduler.consider]
  split
  · exact hs
  · rename_i hfree
    split
    · exact hs.of_eq rfl rfl rfl rfl
    · rename_i hcap
      refine ⟨hs.runsWell.append (Nat.not_le.mp hcap) ?_ (Job.isUnderWay_start _ _ rfl),
        hs.accounts.launch registration rfl⟩
      intro other hother hsite
      exact hfree (List.any_eq_true.mpr ⟨other, hother, beq_iff_eq.mpr hsite⟩)

/-- A tick, whatever it has read and however long ago. -/
theorem Consistent.launchDue {services : ScheduleServices σ} {s : Scheduler σ}
    (hs : s.Consistent services.settings) (due : List Registration) :
    (s.launchDue services due).2.Consistent services.settings := by
  refine List.foldlRecOn due (Scheduler.consider services)
    (motive := fun progress => progress.2.Consistent services.settings) ?_ ?_
  · exact hs.of_eq rfl rfl rfl rfl
  · exact fun progress hprogress registration _ => hprogress.consider registration

/-! ## Remembering -/

/-- An open job that has ended is remembered, and is open no more. -/
theorem Accounts.remember {services : ScheduleServices σ} {s : Scheduler σ} {opened : List Job}
    {job last : Job} (hs : s.Accounts services.settings (job :: opened)) (hsame : last.id = job.id)
    (hended : last.HasEnded) :
    (s.remember services last).Accounts services.settings opened where
  history_hasEnded := by
    intro other hother
    rcases List.mem_cons.mp (List.mem_of_mem_take hother) with rfl | hother
    · exact hended
    · exact hs.history_hasEnded other hother
  history_le := List.length_take_le _ _
  ids_nodup := by
    have hmoved : ((opened ++ last :: s.history).map Job.id).Nodup := by
      rw [(List.perm_middle.map Job.id).nodup_iff]
      simpa [hsame] using hs.ids_nodup
    exact hmoved.sublist (((List.take_sublist _ _).append_left opened).map Job.id)
  ids_lt := by
    intro other hother
    rcases List.mem_append.mp hother with hother | hother
    · exact hs.ids_lt other (by simp [hother])
    · rcases List.mem_cons.mp (List.mem_of_mem_take hother) with rfl | hother
      · rw [hsame]
        exact hs.ids_lt job (by simp)
      · exact hs.ids_lt other (by simp [hother])
  leaving_hasEnded := hs.leaving_hasEnded

/-- To call a round off changes neither its job nor where it stands. -/
theorem Accounts.callOff {settings : ScheduleSettings} {s : Scheduler σ} {opened : List Job}
    (hs : s.Accounts settings opened) (id : JobId) : (s.callOff id).Accounts settings opened where
  history_hasEnded := hs.history_hasEnded
  history_le := hs.history_le
  ids_nodup := hs.ids_nodup
  ids_lt := hs.ids_lt
  leaving_hasEnded := by
    intro round hround
    obtain ⟨old, hold, rfl⟩ := List.mem_map.mp hround
    split
    · exact hs.leaving_hasEnded old hold
    · exact hs.leaving_hasEnded old hold

/-- Running jobs are abandoned one by one. -/
theorem Accounts.abandon {services : ScheduleServices σ} {s : Scheduler σ} {opened : List Job}
    {job : Job} (hs : s.Accounts services.settings (job :: opened)) :
    (s.abandon services job).Accounts services.settings opened := by
  have htold : ((s.callOff job.id).tell (.abandoned job.id job.siteId)).Accounts services.settings
      (job :: opened) := by
    obtain ⟨hended, hle, hnodup, hlt, hleaving⟩ := hs.callOff job.id
    exact ⟨hended, hle, hnodup, hlt, hleaving⟩
  exact htold.remember rfl (Job.hasEnded_finish _ _ rfl)

theorem Accounts.foldl_abandon {services : ScheduleServices σ} (opened : List Job)
    {s : Scheduler σ} (hs : s.Accounts services.settings opened) :
    (opened.foldl (Scheduler.abandon services) s).Accounts services.settings [] := by
  induction opened generalizing s with
  | nil => exact hs
  | cons job rest ih => exact ih hs.abandon

/-- A stop that has waited long enough leaves no running job. -/
theorem Consistent.endStop {services : ScheduleServices σ} {s : Scheduler σ}
    (hs : s.Consistent services.settings) (inFlight : Nat) :
    (s.endStop services inFlight).2.Consistent services.settings := by
  obtain ⟨hended, hle, hnodup, hlt, hleaving⟩ := hs.accounts.foldl_abandon s.running
  exact ⟨⟨Nat.zero_le _, List.nodup_nil, by simp [Scheduler.endStop, abandonAll, tell]⟩,
    ⟨hended, hle, hnodup, hlt, hleaving⟩⟩

/-! ## Steps of rounds -/

theorem RunsWell.filter {settings : ScheduleSettings} {running : List Job}
    (hrunning : RunsWell settings running) (keep : Job → Bool) :
    RunsWell settings (running.filter keep) where
  length_le := Nat.le_trans (List.length_filter_le _ _) hrunning.length_le
  sites_nodup := hrunning.sites_nodup.sublist (List.filter_sublist.map Job.siteId)
  isUnderWay := fun job hjob => hrunning.isUnderWay job (List.mem_of_mem_filter hjob)

/-- Open jobs may be left out of an account. -/
theorem Accounts.of_sublist {settings : ScheduleSettings} {s : Scheduler σ}
    {fewer opened : List Job} (hs : s.Accounts settings opened) (hfewer : fewer.Sublist opened) :
    s.Accounts settings fewer where
  history_hasEnded := hs.history_hasEnded
  history_le := hs.history_le
  ids_nodup := hs.ids_nodup.sublist ((hfewer.append_right _).map Job.id)
  ids_lt := fun job hjob => hs.ids_lt job ((hfewer.append_right _).subset hjob)
  leaving_hasEnded := hs.leaving_hasEnded

/-- An account does not ask which rounds are still at work. -/
theorem Accounts.filterRounds {settings : ScheduleSettings} {s : Scheduler σ} {opened : List Job}
    (hs : s.Accounts settings opened) (keep : Round σ → Bool) (running : List Job) :
    { s with rounds := s.rounds.filter keep, running }.Accounts settings opened where
  history_hasEnded := hs.history_hasEnded
  history_le := hs.history_le
  ids_nodup := hs.ids_nodup
  ids_lt := hs.ids_lt
  leaving_hasEnded := fun round hround =>
    hs.leaving_hasEnded round (List.mem_of_mem_filter hround)

/-- An open job may be taken to the front of those that remain without it. -/
theorem Accounts.front {settings : ScheduleSettings} {s : Scheduler σ} {opened : List Job}
    {job : Job} (hs : s.Accounts settings opened) (hjob : job ∈ opened) :
    s.Accounts settings (job :: opened.filter (·.id != job.id)) where
  history_hasEnded := hs.history_hasEnded
  history_le := hs.history_le
  ids_nodup := by
    refine List.nodup_cons.mpr ⟨?_, (hs.of_sublist List.filter_sublist).ids_nodup⟩
    intro hagain
    obtain ⟨other, hother, hsame⟩ := List.mem_map.mp hagain
    rcases List.mem_append.mp hother with hother | hother
    · simpa [hsame] using (List.mem_filter.mp hother).2
    · have hnodup := hs.ids_nodup
      rw [List.map_append, List.nodup_append] at hnodup
      exact hnodup.2.2 _ (List.mem_map_of_mem hjob) _ (List.mem_map_of_mem hother) hsame.symm
  ids_lt := by
    intro other hother
    rcases List.mem_cons.mp hother with rfl | hother
    · exact hs.ids_lt other (List.mem_append_left _ hjob)
    · rcases List.mem_append.mp hother with hother | hother
      · exact hs.ids_lt other (List.mem_append_left _ (List.mem_of_mem_filter hother))
      · exact hs.ids_lt other (List.mem_append_right _ hother)
  leaving_hasEnded := hs.leaving_hasEnded

/-- The end of a round: its job is remembered unless a stop has done so before. -/
theorem Consistent.leave {services : ScheduleServices σ} {s : Scheduler σ}
    (hs : s.Consistent services.settings) {round : Round σ} (hended : round.job.HasEnded) :
    (s.leave services round).Consistent services.settings := by
  simp only [Scheduler.leave]
  split
  · rename_i hrunning
    obtain ⟨job, hjob, hsame⟩ := List.any_eq_true.mp hrunning
    have hid : job.id = round.job.id := beq_iff_eq.mp hsame
    have hfront := hs.accounts.front hjob
    rw [hid] at hfront
    exact ⟨hs.runsWell.filter _, (hfront.filterRounds _ _).remember hid.symm hended⟩
  · exact ⟨hs.runsWell.filter _,
      (hs.accounts.of_sublist List.filter_sublist).filterRounds _ _⟩

/-- The next step of the round of a job. -/
theorem Consistent.stepRound {services : ScheduleServices σ} {s : Scheduler σ}
    (hs : s.Consistent services.settings) (id : JobId) (elapsed : Nat) :
    (s.stepRound services id elapsed).Consistent services.settings := by
  simp only [Scheduler.stepRound]
  split
  · exact hs
  · rename_i round hround
    have hmem : round ∈ s.rounds := List.mem_of_find?_eq_some hround
    split
    · rename_i hphase
      exact hs.leave (hs.accounts.leaving_hasEnded round hmem hphase)
    · refine ⟨hs.runsWell, hs.accounts.history_hasEnded, hs.accounts.history_le,
        hs.accounts.ids_nodup, hs.accounts.ids_lt, ?_⟩
      intro other hother
      obtain ⟨old, hold, rfl⟩ := List.mem_map.mp hother
      split
      · exact Round.hasEnded_of_step_leaving (hs.accounts.leaving_hasEnded round hmem)
      · exact hs.accounts.leaving_hasEnded old hold

/-! ## Courses -/

/-- Every happening preserves consistency. -/
theorem Consistent.after {services : ScheduleServices σ} {c : Course σ}
    (hc : c.scheduler.Consistent services.settings) (happening : Happening σ) :
    (c.after services happening).scheduler.Consistent services.settings := by
  cases happening with
  | start =>
      simp only [Course.after, Scheduler.start]
      split
      · exact hc
      · exact hc.of_eq rfl rfl rfl rfl
  | unwant => exact hc.of_eq rfl rfl rfl rfl
  | announceStop => exact hc.of_eq rfl rfl rfl rfl
  | endStop inFlight => exact hc.endStop inFlight
  | read =>
      simp only [Course.after, Course.read]
      split
      · exact hc
      · exact hc
  | launch place =>
      simp only [Course.after, Course.launch]
      split
      · exact hc
      · exact hc.launchDue _
  | advance job elapsed => exact hc.stepRound job elapsed
  | callOff job => exact ⟨hc.runsWell, hc.accounts.callOff job⟩
  | planTick next => exact hc.of_eq rfl rfl rfl rfl
  | elsewhere change => exact hc.of_eq rfl rfl rfl rfl

theorem consistent_of_course (services : ScheduleServices σ) (world : σ)
    (happenings : List (Happening σ)) :
    ((Course.fresh world).run services happenings).scheduler.Consistent services.settings :=
  Course.run_induction (motive := fun c => c.scheduler.Consistent services.settings)
    (consistent_fresh services.settings world) (fun _ happening hc => hc.after happening) happenings

/-- In every state that a new scheduler reaches, whatever happens to it and in whatever order: there
are at most as many running jobs as allowed, of different sites, all of them under way; there are at
most as many remembered jobs as allowed, all of them ended; and no job is found twice. -/
theorem sound_of_course (services : ScheduleServices σ) (world : σ)
    (happenings : List (Happening σ)) :
    ((Course.fresh world).run services happenings).scheduler.Sound services.settings :=
  (consistent_of_course services world happenings).sound

end Scheduler

end SiteWatch
