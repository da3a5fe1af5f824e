/-
# What the report of a stop accounts for

A stop counts the jobs in flight when it is announced, and once more those that it abandons when it
has waited. Between the two others may start the loop again or tick outside of it, and what they
launch is in flight as well. So the report accounts for the jobs that were counted first if and only
if no job that was launched during the wait is left at its end; otherwise such a job is abandoned by
a stop that was announced before it was launched, and the numbers need not add up.
-/

import Mathlib.Data.List.Perm.Subperm
import SiteWatch.Proofs.Schedule.Endings

namespace SiteWatch

variable {σ : Type}

namespace Scheduler

/-! ## Jobs that were launched since -/

/-- Whoever runs in a later state ran before, or was launched since. -/
structure Follows (s later : Scheduler σ) : Prop where
  launched_le : s.launched ≤ later.launched
  running : ∀ job ∈ later.running, job ∈ s.running ∨ s.launched ≤ job.id.number

variable {services : ScheduleServices σ} {s later last : Scheduler σ}

theorem Follows.of_subset (hlaunched : later.launched = s.launched)
    (hrunning : later.running ⊆ s.running) : s.Follows later where
  launched_le := Nat.le_of_eq hlaunched.symm
  running _ hjob := .inl (hrunning hjob)

theorem Follows.trans (hfirst : s.Follows later) (hsecond : later.Follows last) :
    s.Follows last where
  launched_le := Nat.le_trans hfirst.launched_le hsecond.launched_le
  running := by
    intro job hjob
    rcases hsecond.running job hjob with hbefore | hnew
    · exact hfirst.running job hbefore
    · exact .inr (Nat.le_trans hfirst.launched_le hnew)

theorem follows_launch {job : Job} (registration : Registration) (hnumber : job.id = ⟨s.launched⟩) :
    s.Follows (s.launch job registration) where
  launched_le := Nat.le_succ _
  running := by
    intro other hother
    rcases List.mem_append.mp hother with hother | hother
    · exact .inl hother
    · obtain rfl := List.mem_singleton.mp hother
      rw [hnumber]
      exact .inr (Nat.le_refl _)

theorem follows_launchDue (services : ScheduleServices σ) (due : List Registration)
    (s : Scheduler σ) : s.Follows (s.launchDue services due).2 := by
  refine List.foldlRecOn due (consider services) (motive := fun progress => s.Follows progress.2)
    ?_ ?_
  · exact .of_subset rfl (List.Subset.refl _)
  · rintro ⟨report, t⟩ ht registration -
    simp only [consider]
    split
    · exact ht
    · split
      · exact ht.trans (.of_subset rfl (List.Subset.refl _))
      · exact ht.trans (follows_launch registration rfl)

theorem follows_stepRound (services : ScheduleServices σ) (s : Scheduler σ) (job : JobId)
    (elapsed : Nat) : s.Follows (s.stepRound services job elapsed) := by
  cases hfound : s.round? job with
  | none =>
      rw [stepRound_of_none hfound]
      exact .of_subset rfl (List.Subset.refl _)
  | some round =>
      by_cases hphase : round.phase = .leaving
      · rw [stepRound_eq_leave hfound hphase]
        refine .of_subset (launched_leave services round s) ?_
        simp only [leave]
        split <;> exact List.filter_subset_self _
      · rw [stepRound_eq_step hfound hphase]
        exact .of_subset rfl (List.Subset.refl _)

/-- Every happening. -/
theorem follows_after (services : ScheduleServices σ) (c : Course σ) (happening : Happening σ) :
    c.scheduler.Follows (c.after services happening).scheduler := by
  cases happening with
  | start =>
      simp only [Course.after, start]
      split <;> exact .of_subset rfl (List.Subset.refl _)
  | endStop inFlight =>
      refine .of_subset ?_ (List.nil_subset _)
      exact List.foldlRecOn c.scheduler.running (abandon services)
        (motive := fun t : Scheduler σ => t.launched = c.scheduler.launched) rfl
        fun _ ht _ _ => ht
  | read =>
      simp only [Course.after, Course.read]
      split <;> exact .of_subset rfl (List.Subset.refl _)
  | launch place =>
      simp only [Course.after, Course.launch]
      split
      · exact .of_subset rfl (List.Subset.refl _)
      · exact follows_launchDue services _ c.scheduler
  | advance job elapsed => exact follows_stepRound services c.scheduler job elapsed
  | unwant | announceStop | callOff | planTick | elsewhere =>
      exact .of_subset rfl (List.Subset.refl _)

/-- Whatever happens, and in whatever order. -/
theorem follows_run (services : ScheduleServices σ) (c : Course σ)
    (happenings : List (Happening σ)) :
    c.scheduler.Follows (c.run services happenings).scheduler :=
  Course.run_induction (motive := fun d => c.scheduler.Follows d.scheduler)
    (.of_subset rfl (List.Subset.refl _))
    (fun d happening hd => hd.trans (follows_after services d happening)) happenings

end Scheduler

/-- The report of a stop accounts for the jobs that were in flight when the stop was announced. -/
structure StopReport.AccountsFor (report : StopReport) (settings : ScheduleSettings)
    (announced waited ended : Scheduler σ) : Prop where
  /-- Whoever is abandoned when the wait is over was in flight then. -/
  victims : ∀ id siteId,
    .abandoned id siteId ∈ ended.around.events.drop waited.around.events.length →
      ∃ job ∈ announced.running, job.id = id
  /-- Every one of them has come to an end by itself or was abandoned. -/
  settled : announced.Settles settings ended
  /-- The numbers of the report add up to the number that was announced. -/
  balance : announced.around.events.getLast? = some (.stopping (report.drained + report.abandoned))

namespace Course

/-- A stop is announced when the loop rests. -/
def announced (services : ScheduleServices σ) (resting : List (Happening σ)) (c : Course σ) :
    Course σ :=
  ((c.after services .unwant).run services resting).after services .announceStop

variable {c : Course σ}

/-- The stop of a loop: it is announced, then it waits, and then it comes to its end. -/
theorem stop_of_looping (services : ScheduleServices σ) (hlooping : c.scheduler.looping = true)
    (resting waiting : List (Happening σ)) :
    let announced := c.announced services resting
    let waited := announced.run services waiting
    let ended := waited.scheduler.endStop services announced.scheduler.running.length
    (c.stop services resting waiting).1 = ended.1 ∧
      (c.stop services resting waiting).2.scheduler = ended.2 := by
  simp only [stop, hlooping]
  exact ⟨rfl, rfl⟩

/-- What the end of a stop tells of a job is that it is abandoned, and that of the running ones. -/
theorem abandoned_mem_drop_iff (services : ScheduleServices σ) (s : Scheduler σ) (inFlight : Nat)
    (id : JobId) :
    (∃ siteId, .abandoned id siteId ∈
        (s.endStop services inFlight).2.around.events.drop s.around.events.length) ↔
      ∃ job ∈ s.running, job.id = id := by
  rw [Scheduler.events_endStop, List.drop_left]
  constructor
  · rintro ⟨siteId, htold⟩
    rcases List.mem_append.mp htold with htold | htold
    · obtain ⟨job, hjob, hsame⟩ := List.mem_map.mp htold
      cases hsame
      exact ⟨job, hjob, rfl⟩
    · cases List.mem_singleton.mp htold
  · rintro ⟨job, hjob, rfl⟩
    exact ⟨job.siteId, List.mem_append_left _ (List.mem_map.mpr ⟨job, hjob, rfl⟩)⟩

section OfNew

variable (services : ScheduleServices σ) (world : σ) (happenings : List (Happening σ))

/-- Jobs in flight were launched. -/
theorem number_lt_of_mem_running :
    ∀ job ∈ ((fresh world).run services happenings).scheduler.running,
      job.id.number < ((fresh world).run services happenings).scheduler.launched := fun job hjob =>
  (Scheduler.consistent_of_course services world happenings).accounts.ids_lt job
    (List.mem_append_left _ hjob)

theorem nodup_running : ((fresh world).run services happenings).scheduler.running.Nodup :=
  have hconsistent := Scheduler.consistent_of_course services world happenings
  (List.nodup_append.mp (hconsistent.accounts.ids_nodup.of_map _)).1

/-- Whatever happens from a state on, the end of a stop settles what was in flight in that state. -/
theorem settles_endStop (waiting : List (Happening σ)) (inFlight : Nat) :
    ((fresh world).run services happenings).scheduler.Settles services.settings
      ((((fresh world).run services happenings).run services waiting).scheduler.endStop services
        inFlight).2 := by
  have hminds := (Scheduler.minds_fresh services.settings world).run nofun happenings
  have hconsistent := Scheduler.consistent_of_course services world happenings
  have hwaited := (hminds.refl hconsistent.accounts.history_le).run
    (number_lt_of_mem_running services world happenings) waiting
  exact (hwaited.endStop inFlight).settles rfl

end OfNew

/-- A stop of the loop, in every state that a new scheduler reaches and whatever else happens until
it is announced and while it waits: the report accounts for the jobs in flight if and only if no job
that was launched during the wait is still in flight at its end. -/
theorem accountsFor_stop_iff (services : ScheduleServices σ) (world : σ)
    (happenings resting waiting : List (Happening σ))
    (hlooping : ((fresh world).run services happenings).scheduler.looping = true) :
    let c := (fresh world).run services happenings
    let announced := c.announced services resting
    let waited := announced.run services waiting
    (c.stop services resting waiting).1.AccountsFor services.settings announced.scheduler
        waited.scheduler (c.stop services resting waiting).2.scheduler ↔
      ∀ job ∈ waited.scheduler.running, job.id.number < announced.scheduler.launched := by
  intro c announced waited
  have hannounced : announced = (fresh world).run services
      (happenings ++ (.unwant :: resting ++ [.announceStop])) := by
    simp only [announced, Course.announced, c, run_append, run_cons, run_nil, List.cons_append]
  have hids : ∀ job ∈ announced.scheduler.running,
      job.id.number < announced.scheduler.launched := by
    rw [hannounced]
    exact number_lt_of_mem_running services world _
  have hfollows : announced.scheduler.Follows waited.scheduler :=
    Scheduler.follows_run services announced waiting
  obtain ⟨hreport, hended⟩ := stop_of_looping services hlooping resting waiting
  rw [hreport, hended]
  constructor
  · intro haccounts job hjob
    obtain ⟨siteId, htold⟩ := (abandoned_mem_drop_iff services waited.scheduler
      announced.scheduler.running.length job.id).mpr ⟨job, hjob, rfl⟩
    obtain ⟨other, hother, hid⟩ := haccounts.victims job.id siteId htold
    rw [← hid]
    exact hids other hother
  · intro hold
    have hsubset : waited.scheduler.running ⊆ announced.scheduler.running := fun job hjob =>
      (hfollows.running job hjob).resolve_right (Nat.not_le.mpr (hold job hjob))
    refine ⟨?_, ?_, ?_⟩
    · intro id siteId htold
      obtain ⟨job, hjob, hid⟩ :=
        (abandoned_mem_drop_iff services waited.scheduler _ id).mp ⟨siteId, htold⟩
      exact ⟨job, hsubset hjob, hid⟩
    · have hsettles := settles_endStop services world
        (happenings ++ (.unwant :: resting ++ [.announceStop])) waiting
        announced.scheduler.running.length
      rwa [← hannounced] at hsettles
    · have hnodup := nodup_running services world
        (happenings ++ (.unwant :: resting ++ [.announceStop]) ++ waiting)
      rw [run_append, ← hannounced] at hnodup
      have hle := (hnodup.subperm hsubset).length_le
      have hlast : announced.scheduler.around.events.getLast? =
          some (.stopping announced.scheduler.running.length) :=
        List.getLast?_concat
      rw [hlast]
      exact congrArg (some <| ScheduleEvent.stopping ·) (Nat.sub_add_cancel hle).symm

end Course

namespace Rehearsal.Backstage

/-- A job waits at a gate that lets nobody through. Then another site takes the place of its own in
the register. -/
def waitingAtGate : List (Happening Backstage) :=
  [.start, .read, .launch 0, .advance ⟨0⟩ 0, .advance ⟨0⟩ 0, .advance ⟨0⟩ 0,
    .elsewhere fun b => { b with register := [{ site := { id := "news", domain := "example.org" } }] }]

/-- The loop is started again while a stop waits, and does not come to tick. -/
theorem accountsFor_of_start :
    let c := (Course.fresh closedGate).run ordinary waitingAtGate
    let announced := c.announced ordinary []
    let waited := announced.run ordinary [.start]
    (c.scheduler.looping = true ∧
      ∀ job ∈ waited.scheduler.running, job.id.number < announced.scheduler.launched) ∧
    waited.scheduler.looping = true ∧
    (c.stop ordinary [] [.start]).1.AccountsFor ordinary.settings announced.scheduler
      waited.scheduler (c.stop ordinary [] [.start]).2.scheduler := by
  intro c announced waited
  have hlooping : c.scheduler.looping = true := by decide +kernel
  have hold : ∀ job ∈ waited.scheduler.running, job.id.number < announced.scheduler.launched := by
    decide +kernel
  exact ⟨⟨hlooping, hold⟩, by decide +kernel,
    (Course.accountsFor_stop_iff ordinary closedGate waitingAtGate [] [.start] hlooping).mpr hold⟩

/-- A tick outside the loop launches a job while a stop waits that was announced with one job in
flight. The stop abandons both. -/
theorem launched_while_stopping_is_abandoned :
    let c := (Course.fresh closedGate).run ordinary waitingAtGate
    let announced := c.announced ordinary []
    let waited := announced.run ordinary [.read, .launch 0]
    let stopped := c.stop ordinary [] [.read, .launch 0]
    c.scheduler.looping = true ∧
      announced.scheduler.around.events.getLast? = some (.stopping 1) ∧
      announced.scheduler.running.map Job.id = [⟨0⟩] ∧
      stopped.2.scheduler.around.events.drop waited.scheduler.around.events.length =
        [.abandoned ⟨0⟩ "events", .abandoned ⟨1⟩ "news", .stopped] ∧
      stopped.1 = { wasRunning := true, drained := 0, abandoned := 2 } ∧
      ¬ stopped.1.AccountsFor ordinary.settings announced.scheduler waited.scheduler
        stopped.2.scheduler := by
  intro c announced waited stopped
  have hannounced : announced.scheduler.around.events.getLast? = some (.stopping 1) := by
    decide +kernel
  have hreport : stopped.1 = { wasRunning := true, drained := 0, abandoned := 2 } := by
    decide +kernel
  refine ⟨by decide +kernel, hannounced, by decide +kernel, by decide +kernel, hreport,
    fun haccounts => ?_⟩
  have hbalance := haccounts.balance
  rw [hannounced, hreport] at hbalance
  cases hbalance

end Rehearsal.Backstage

end SiteWatch
