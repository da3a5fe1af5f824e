/-
# What a tick does with what is due

A tick reads the register, puts the registrations that are due in order and looks at them one after
another. Whatever the register holds and whichever jobs run, it deals with each of them in one of
three ways, and this module says in which: a site that has a job is passed over, and of the rest as
many as there are free places get a job, the first ones in the order. The order itself is given by
three laws that leave only one list: it holds what is due, it goes by rank, and equal ranks keep the
order of the register.
-/

import SiteWatch.Rehearsal.Schedule

namespace SiteWatch

variable {σ : Type}

/-! ## The order of what is due -/

namespace Instant

theorem le_trans {a b c : Instant} (hab : a ≤ b) (hbc : b ≤ c) : a ≤ c := by
  change a.le b = true at hab
  change b.le c = true at hbc
  change a.le c = true
  simp only [le, Bool.or_eq_true, Bool.and_eq_true, decide_eq_true_eq, beq_iff_eq] at hab hbc ⊢
  omega

theorem le_total (a b : Instant) : a ≤ b ∨ b ≤ a := by
  change a.le b = true ∨ b.le a = true
  simp only [le, Bool.or_eq_true, Bool.and_eq_true, decide_eq_true_eq, beq_iff_eq]
  omega

end Instant

namespace Registration

/-- A round is due: the site is enabled, and the time of its next round is unset or has come. -/
def AwaitsRound (now : Instant) (r : Registration) : Prop :=
  r.site.enabled = true ∧ ∀ due ∈ r.history.nextCheckAt, due ≤ now

instance (now : Instant) (r : Registration) : Decidable (r.AwaitsRound now) :=
  decidable_of_iff (r.isDue now = true) <| by
    cases hnext : r.history.nextCheckAt <;> simp [isDue, AwaitsRound, hnext]

theorem isDue_eq_decide (now : Instant) (r : Registration) :
    r.isDue now = decide (r.AwaitsRound now) := by
  cases hnext : r.history.nextCheckAt <;> simp [isDue, AwaitsRound, hnext]

/-- What the order of a tick looks at: the priority and the time of the next round. -/
def rank (r : Registration) : Int × Option Instant := (r.priority, r.history.nextCheckAt)

/-- A registration comes no later than another: its priority is higher, or is the same and its next
round is due no later; one whose next round is unset is due before all others. -/
def ComesNoLater (a b : Registration) : Prop :=
  b.priority < a.priority ∨
    (a.priority = b.priority ∧
      ∀ due ∈ a.history.nextCheckAt, ∃ other ∈ b.history.nextCheckAt, due ≤ other)

theorem precedes_iff (a b : Registration) : a.precedes b = true ↔ a.ComesNoLater b := by
  have htimes : comesNoLater a.history.nextCheckAt b.history.nextCheckAt = true ↔
      ∀ due ∈ a.history.nextCheckAt, ∃ other ∈ b.history.nextCheckAt, due ≤ other := by
    cases a.history.nextCheckAt <;> cases b.history.nextCheckAt <;> simp [comesNoLater]
    rfl
  simp [precedes, ComesNoLater, htimes]

theorem ComesNoLater.trans {a b c : Registration} (hab : a.ComesNoLater b)
    (hbc : b.ComesNoLater c) : a.ComesNoLater c := by
  rcases hab with hab | ⟨hab, htimes⟩
  · rcases hbc with hbc | ⟨hbc, -⟩
    · exact .inl (Int.lt_trans hbc hab)
    · exact .inl (hbc ▸ hab)
  · rcases hbc with hbc | ⟨hbc, hlater⟩
    · exact .inl (hab ▸ hbc)
    · refine .inr ⟨hab.trans hbc, fun due hdue => ?_⟩
      obtain ⟨middle, hmiddle, hle⟩ := htimes due hdue
      obtain ⟨other, hother, hle'⟩ := hlater middle hmiddle
      exact ⟨other, hother, Instant.le_trans hle hle'⟩

theorem comesNoLater_total (a b : Registration) : a.ComesNoLater b ∨ b.ComesNoLater a := by
  rcases Int.lt_trichotomy a.priority b.priority with hlt | heq | hgt
  · exact .inr (.inl hlt)
  · cases ha : a.history.nextCheckAt with
    | none => exact .inl (.inr ⟨heq, by simp [ha]⟩)
    | some due =>
        cases hb : b.history.nextCheckAt with
        | none => exact .inr (.inr ⟨heq.symm, by simp [hb]⟩)
        | some other =>
            refine (Instant.le_total due other).imp (fun hle => ?_) (fun hle => ?_)
            · exact .inr ⟨heq, by simpa [ha, hb] using hle⟩
            · exact .inr ⟨heq.symm, by simpa [ha, hb] using hle⟩
  · exact .inl (.inl hgt)

theorem comesNoLater_of_rank_eq {a b : Registration} (hrank : a.rank = b.rank) :
    a.ComesNoLater b := by
  obtain ⟨hpriority, hnext⟩ := Prod.mk.injEq .. ▸ hrank
  exact .inr ⟨hpriority, fun due hdue =>
    ⟨due, hnext ▸ hdue, (Instant.le_total due due).elim (fun hle => hle) fun hle => hle⟩⟩

end Registration

namespace Scheduler

/-- A list of registrations is what a tick looks at, in its order: those of a register that await a
round, by descending priority and then by the time of the next round, and in the order of the
register where both are the same. -/
structure IsAgenda (now : Instant) (register due : List Registration) : Prop where
  perm : due.Perm (register.filter (·.AwaitsRound now))
  ranked : due.Pairwise Registration.ComesNoLater
  stable : ∀ rank, due.filter (·.rank = rank) =
    (register.filter (·.AwaitsRound now)).filter (·.rank = rank)

theorem isAgenda_inOrder (now : Instant) (register : List Registration) :
    IsAgenda now register (inOrder now register) := by
  have htrans : ∀ a b c : Registration, a.precedes b → b.precedes c → a.precedes c := by
    intro a b c hab hbc
    rw [Registration.precedes_iff] at hab hbc ⊢
    exact hab.trans hbc
  have htotal : ∀ a b : Registration, (a.precedes b || b.precedes a) = true := by
    intro a b
    rw [Bool.or_eq_true, Registration.precedes_iff, Registration.precedes_iff]
    exact Registration.comesNoLater_total a b
  have hfilter : register.filter (·.isDue now) = register.filter (·.AwaitsRound now) := by
    simp only [Registration.isDue_eq_decide]
  have hperm : (inOrder now register).Perm (register.filter (·.AwaitsRound now)) :=
    hfilter ▸ List.mergeSort_perm _ _
  refine ⟨hperm, ?_, fun rank => ?_⟩
  · exact (List.pairwise_mergeSort htrans htotal _).imp fun hprecedes =>
      (Registration.precedes_iff _ _).mp hprecedes
  · -- Those of one rank are in order already, so sorting leaves them as a sublist.
    let equals := (register.filter (·.isDue now)).filter (·.rank = rank)
    have hequals : equals.Pairwise (Registration.precedes · · = true) := by
      refine List.Pairwise.imp_of_mem (R := fun _ _ => True) ?_ (List.pairwise_of_forall fun _ _ => trivial)
      intro a b ha hb _
      have hrank : a.rank = b.rank :=
        (of_decide_eq_true (List.mem_filter.mp ha).2).trans
          (of_decide_eq_true (List.mem_filter.mp hb).2).symm
      exact (Registration.precedes_iff a b).mpr (Registration.comesNoLater_of_rank_eq hrank)
    have hsublist : equals.Sublist (inOrder now register) :=
      List.sublist_mergeSort htrans htotal hequals List.filter_sublist
    have hfiltered : equals.Sublist ((inOrder now register).filter (·.rank = rank)) := by
      have hself : equals.filter (·.rank = rank) = equals := by simp [equals]
      exact hself ▸ hsublist.filter _
    rw [← hfilter]
    refine (hfiltered.eq_of_length ?_).symm
    exact ((hfilter ▸ hperm).filter _).length_eq.symm

/-! ## What becomes of what is due -/

end Scheduler

/-- What a tick does with a registration that is due. -/
inductive Fate where
  | launched
  | deferred
  | alreadyRunning
deriving DecidableEq, Repr

/-- Registrations that were due, in the order in which they were looked at, and what was done with
each. -/
abbrev Dealings := List (Registration × Fate)

namespace Dealings

/-- The registrations with which one thing was done. -/
def meeting (fate : Fate) (d : Dealings) : List Registration :=
  (d.filter (·.2 = fate)).map Prod.fst

/-- The registrations whose site had no job when they were looked at. -/
def idle (d : Dealings) : List Registration := (d.filter (·.2 ≠ .alreadyRunning)).map Prod.fst

variable (d : Dealings) (r : Registration)

theorem meeting_concat (fate other : Fate) :
    (d ++ [(r, fate)]).meeting other = d.meeting other ++ if fate = other then [r] else [] := by
  by_cases hsame : fate = other <;> simp [meeting, hsame]

theorem idle_concat (fate : Fate) :
    (d ++ [(r, fate)]).idle = d.idle ++ if fate = .alreadyRunning then [] else [r] := by
  by_cases hbusy : fate = .alreadyRunning <;> simp [idle, hbusy]

end Dealings

namespace Scheduler

/-- A tick has dealt with registrations, one after another, and come from one state of a scheduler to
another. A site is passed over if one of its jobs ran before or was launched in this tick; of the
others the first ones get the places that are free. -/
structure DealsWith (settings : ScheduleSettings) (s : Scheduler σ) (d : Dealings)
    (report : TickReport) (later : Scheduler σ) : Prop where
  /-- Who is passed over. -/
  alreadyRunning_iff : ∀ before r fate after, d = before ++ (r, fate) :: after →
    (fate = .alreadyRunning ↔
      (∃ job ∈ s.running, job.siteId = r.id) ∨
        ∃ other ∈ Dealings.meeting .launched before, other.id = r.id)
  /-- Who gets a job. -/
  launched_eq : d.meeting .launched = d.idle.take (settings.maxConcurrentJobs - s.running.length)
  deferred_eq : d.meeting .deferred = d.idle.drop (settings.maxConcurrentJobs - s.running.length)
  /-- Whoever is looked at after one that is put off is not launched. -/
  deferred_last : d.Pairwise fun first next => first.2 = .deferred → next.2 ≠ .launched
  /-- What the report says. -/
  report_launched : report.launched.map Job.siteId = (d.meeting .launched).map Registration.id
  report_deferred : report.deferred = (d.meeting .deferred).map Registration.id
  report_alreadyRunning :
    report.alreadyRunning = (d.meeting .alreadyRunning).map Registration.id
  /-- No site gets two jobs. -/
  launched_nodup : (report.launched.map Job.siteId).Nodup
  /-- The new jobs run, each on a round for its registration. -/
  running_eq : later.running = s.running ++ report.launched
  rounds_eq : later.rounds =
    s.rounds ++ List.zipWith Round.launch report.launched (d.meeting .launched)
  /-- Nobody is put off while a place is free. -/
  deferred_full : report.deferred ≠ [] → settings.maxConcurrentJobs ≤ later.running.length
  /-- The world, and with it the register, stays as it is. -/
  world_eq : later.around.world = s.around.world

variable {settings : ScheduleSettings} {s later : Scheduler σ} {d : Dealings} {report : TickReport}

theorem dealsWith_nil (settings : ScheduleSettings) {report : TickReport}
    (hlaunched : report.launched = []) (hdeferred : report.deferred = [])
    (hbusy : report.alreadyRunning = []) (hrunning : later.running = s.running)
    (hrounds : later.rounds = s.rounds) (hworld : later.around.world = s.around.world) :
    s.DealsWith settings [] report later where
  alreadyRunning_iff := by simp
  launched_eq := by simp [Dealings.meeting, Dealings.idle]
  deferred_eq := by simp [Dealings.meeting, Dealings.idle]
  deferred_last := .nil
  report_launched := by simp [Dealings.meeting, hlaunched]
  report_deferred := by simp [Dealings.meeting, hdeferred]
  report_alreadyRunning := by simp [Dealings.meeting, hbusy]
  launched_nodup := by simp [hlaunched]
  running_eq := by simp [hlaunched, hrunning]
  rounds_eq := by simp [hlaunched, hrounds]
  deferred_full := fun hnot => absurd hdeferred hnot
  world_eq := hworld

namespace DealsWith

/-- A site has a job by now if it had one before the tick or got one in it. -/
theorem isRunning_iff (h : s.DealsWith settings d report later) (siteId : String) :
    later.isRunning siteId = true ↔
      (∃ job ∈ s.running, job.siteId = siteId) ∨
        ∃ other ∈ d.meeting .launched, other.id = siteId := by
  have hsites : (∃ job ∈ report.launched, job.siteId = siteId) ↔
      ∃ other ∈ d.meeting .launched, other.id = siteId := by
    simpa only [List.mem_map] using
      (iff_of_eq (congrArg (siteId ∈ ·) h.report_launched))
  simp only [isRunning, h.running_eq, List.any_append, Bool.or_eq_true, List.any_eq_true,
    beq_iff_eq, hsites]

/-- As many jobs were launched as there were idle sites, or as there were free places. -/
theorem length_running (h : s.DealsWith settings d report later) :
    later.running.length = s.running.length +
      min (settings.maxConcurrentJobs - s.running.length) d.idle.length := by
  have hlaunched : report.launched.length = (d.meeting .launched).length := by
    simpa using congrArg List.length h.report_launched
  rw [h.running_eq, List.length_append, hlaunched, h.launched_eq, List.length_take]

/-- Who is passed over among registrations of which one more is looked at. -/
theorem alreadyRunning_iff_concat (h : s.DealsWith settings d report later) {r : Registration}
    {fate : Fate} (hfate : fate = .alreadyRunning ↔ later.isRunning r.id = true) :
    ∀ before q fate' after, d ++ [(r, fate)] = before ++ (q, fate') :: after →
      (fate' = .alreadyRunning ↔
        (∃ job ∈ s.running, job.siteId = q.id) ∨
          ∃ other ∈ Dealings.meeting .launched before, other.id = q.id) := by
  intro before q fate' after hsplit
  rcases List.eq_nil_or_concat after with rfl | ⟨rest, last, rfl⟩
  · obtain ⟨rfl, hlast⟩ := List.append_inj' hsplit rfl
    obtain ⟨rfl, rfl⟩ := Prod.mk.injEq .. ▸ (List.singleton_inj.mp hlast)
    exact hfate.trans (h.isRunning_iff r.id)
  · rw [List.concat_eq_append, ← List.cons_append, ← List.append_assoc] at hsplit
    exact h.alreadyRunning_iff before q fate' rest (List.append_inj' hsplit rfl).1

theorem deferred_last_concat (h : s.DealsWith settings d report later) {r : Registration}
    {fate : Fate} (hfate : fate = .launched → report.deferred = []) :
    (d ++ [(r, fate)]).Pairwise fun first next => first.2 = .deferred → next.2 ≠ .launched := by
  refine List.pairwise_append.mpr ⟨h.deferred_last, List.pairwise_singleton _ _, ?_⟩
  rintro first hfirst _ hlast hdeferred hlaunched
  obtain rfl := List.mem_singleton.mp hlast
  have hmem : first.1 ∈ d.meeting .deferred :=
    List.mem_map_of_mem (List.mem_filter.mpr ⟨hfirst, decide_eq_true hdeferred⟩)
  have hnone := hfate hlaunched
  rw [h.report_deferred, List.map_eq_nil_iff] at hnone
  exact List.not_mem_nil (hnone ▸ hmem)

/-- A registration whose site has a job by now is passed over. -/
theorem passOver (h : s.DealsWith settings d report later) {r : Registration}
    (hbusy : later.isRunning r.id = true) :
    s.DealsWith settings (d ++ [(r, .alreadyRunning)])
      { report with alreadyRunning := report.alreadyRunning ++ [r.id] } later where
  alreadyRunning_iff := h.alreadyRunning_iff_concat (iff_of_true rfl hbusy)
  launched_eq := by simpa [Dealings.meeting_concat, Dealings.idle_concat] using h.launched_eq
  deferred_eq := by simpa [Dealings.meeting_concat, Dealings.idle_concat] using h.deferred_eq
  deferred_last := h.deferred_last_concat nofun
  report_launched := by simpa [Dealings.meeting_concat] using h.report_launched
  report_deferred := by simpa [Dealings.meeting_concat] using h.report_deferred
  report_alreadyRunning := by simp [Dealings.meeting_concat, h.report_alreadyRunning]
  launched_nodup := h.launched_nodup
  running_eq := h.running_eq
  rounds_eq := by simpa [Dealings.meeting_concat] using h.rounds_eq
  deferred_full := h.deferred_full
  world_eq := h.world_eq

/-- A registration that finds no place is put off. -/
theorem putOff (h : s.DealsWith settings d report later) {r : Registration}
    (hfree : ¬ later.isRunning r.id = true)
    (hfull : settings.maxConcurrentJobs ≤ later.running.length) :
    s.DealsWith settings (d ++ [(r, .deferred)])
      { report with deferred := report.deferred ++ [r.id] } (later.tell (.deferred r.id)) := by
  have hlength := h.length_running
  have hplaces : settings.maxConcurrentJobs - s.running.length ≤ d.idle.length := by omega
  exact {
    alreadyRunning_iff := h.alreadyRunning_iff_concat (iff_of_false nofun hfree)
    launched_eq := by
      simpa [Dealings.meeting_concat, Dealings.idle_concat,
        List.take_append_of_le_length hplaces] using h.launched_eq
    deferred_eq := by
      simp [Dealings.meeting_concat, Dealings.idle_concat,
        List.drop_append_of_le_length hplaces, h.deferred_eq]
    deferred_last := h.deferred_last_concat nofun
    report_launched := by simpa [Dealings.meeting_concat] using h.report_launched
    report_deferred := by simp [Dealings.meeting_concat, h.report_deferred]
    report_alreadyRunning := by simpa [Dealings.meeting_concat] using h.report_alreadyRunning
    launched_nodup := h.launched_nodup
    running_eq := h.running_eq
    rounds_eq := by simpa [Dealings.meeting_concat, tell] using h.rounds_eq
    deferred_full := fun _ => hfull
    world_eq := h.world_eq }

/-- A registration that finds a place is given a job. -/
theorem launch (h : s.DealsWith settings d report later) {r : Registration} {job : Job}
    (hjob : job.siteId = r.id) (hfree : ¬ later.isRunning r.id = true)
    (hplace : later.running.length < settings.maxConcurrentJobs) :
    s.DealsWith settings (d ++ [(r, .launched)])
      { report with launched := report.launched ++ [job] } (later.launch job r) := by
  have hlength := h.length_running
  have hplaces : d.idle.length + 1 ≤ settings.maxConcurrentJobs - s.running.length := by omega
  have hall : d.meeting .launched = d.idle := by
    rw [h.launched_eq, List.take_of_length_le (by omega)]
  have hnone : report.deferred = [] := by
    rw [h.report_deferred, h.deferred_eq, List.drop_of_length_le (by omega), List.map_nil]
  have hsame : report.launched.length = (d.meeting .launched).length := by
    simpa using congrArg List.length h.report_launched
  exact {
    alreadyRunning_iff := h.alreadyRunning_iff_concat (iff_of_false nofun hfree)
    launched_eq := by
      rw [List.take_of_length_le (by simpa [Dealings.idle_concat] using hplaces)]
      simp [Dealings.meeting_concat, Dealings.idle_concat, hall]
    deferred_eq := by
      rw [List.drop_of_length_le (by simpa [Dealings.idle_concat] using hplaces)]
      simpa [Dealings.meeting_concat, h.report_deferred] using hnone
    deferred_last := h.deferred_last_concat fun _ => hnone
    report_launched := by simp [Dealings.meeting_concat, h.report_launched, hjob]
    report_deferred := by simpa [Dealings.meeting_concat] using h.report_deferred
    report_alreadyRunning := by simpa [Dealings.meeting_concat] using h.report_alreadyRunning
    launched_nodup := by
      rw [List.map_append, List.nodup_append]
      refine ⟨h.launched_nodup, by simp, ?_⟩
      intro siteId hold other hnew hsite
      have hother : other = r.id := by simpa [hjob] using hnew
      rw [h.report_launched, hsite, hother] at hold
      exact hfree ((h.isRunning_iff r.id).mpr (.inr (List.mem_map.mp hold)))
    running_eq := by simp [Scheduler.launch, h.running_eq]
    rounds_eq := by
      simp [Scheduler.launch, h.rounds_eq, Dealings.meeting_concat, List.zipWith_append hsame]
    deferred_full := fun hsome => absurd hnone hsome
    world_eq := h.world_eq }

/-- One more registration is looked at. -/
theorem consider {services : ScheduleServices σ}
    (h : s.DealsWith services.settings d report later) (r : Registration) :
    ∃ fate, s.DealsWith services.settings (d ++ [(r, fate)])
      (consider services (report, later) r).1 (consider services (report, later) r).2 := by
  simp only [Scheduler.consider]
  split
  case isTrue hbusy => exact ⟨.alreadyRunning, h.passOver hbusy⟩
  case isFalse hfree =>
    split
    case isTrue hfull => exact ⟨.deferred, h.putOff hfree hfull⟩
    case isFalse hplace => exact ⟨.launched, h.launch rfl hfree (Nat.not_le.mp hplace)⟩

/-- All registrations are looked at, in their order. -/
theorem foldl_consider {services : ScheduleServices σ} (due : List Registration)
    (h : s.DealsWith services.settings d report later) :
    ∃ more : Dealings, more.map Prod.fst = due ∧
      s.DealsWith services.settings (d ++ more)
        (due.foldl (Scheduler.consider services) (report, later)).1
        (due.foldl (Scheduler.consider services) (report, later)).2 := by
  induction due generalizing d report later with
  | nil => exact ⟨[], rfl, by simpa using h⟩
  | cons r due ih =>
      obtain ⟨fate, hone⟩ := h.consider r
      obtain ⟨more, hdue, hall⟩ := ih hone
      refine ⟨(r, fate) :: more, by simp [hdue], ?_⟩
      simpa using hall

end DealsWith

/-- Looking at registrations does not change how many are reported as due. -/
theorem due_foldl_consider (services : ScheduleServices σ) (due : List Registration)
    (progress : TickReport × Scheduler σ) :
    (due.foldl (consider services) progress).1.due = progress.1.due := by
  refine List.foldlRecOn due (consider services)
    (motive := fun later => later.1.due = progress.1.due) rfl ?_
  intro later hlater r _
  rw [← hlater, consider]
  dsimp only
  split
  · rfl
  · split <;> rfl

/-- Whatever a tick has read, and whatever the scheduler is like when it launches jobs for it. -/
theorem exists_dealsWith (services : ScheduleServices σ) (s : Scheduler σ)
    (due : List Registration) :
    ∃ d : Dealings, d.map Prod.fst = due ∧
      s.DealsWith services.settings d (s.launchDue services due).1 (s.launchDue services due).2 := by
  have hbegun : s.DealsWith services.settings [] { due := due.length : TickReport }
      { s.tell (.tick due.length s.running.length) with lastTickAt := some (s.now services) } :=
    dealsWith_nil services.settings rfl rfl rfl rfl rfl rfl
  exact hbegun.foldl_consider due

/-- One tick. It looks at exactly what is due, by priority, then by the time of the next round, and
then in the order of the register. Each due registration is launched, put off or passed over: passed
over if a job of its site runs, be it one of this tick; launched if it is among the first ones of
the rest, as many as there are free places; and else put off. The tick reports this, no site gets
two jobs, and the register stays as it is. Another scheduler that launches for the same registrations
later, when other jobs run, deals with them by the same rules. -/
theorem tick_dealsWith (services : ScheduleServices σ) (s : Scheduler σ)
    {register : List Registration} (hregister : services.register s.around.world = .ok register) :
    ∃ due report later, s.tick services = (.ok report, later) ∧
      IsAgenda (s.now services) register due ∧ report.due = due.length ∧
      (∃ d : Dealings, d.map Prod.fst = due ∧ s.DealsWith services.settings d report later) ∧
      ∀ t : Scheduler σ, ∃ d : Dealings, d.map Prod.fst = due ∧
        t.DealsWith services.settings d (t.launchDue services due).1
          (t.launchDue services due).2 := by
  refine ⟨inOrder (s.now services) register, _, _, ?_, isAgenda_inOrder _ _, ?_,
    exists_dealsWith services s _, fun t => exists_dealsWith services t _⟩
  · simp only [tick, due, hregister]
    rfl
  · exact due_foldl_consider services _ _

end Scheduler

/-! ## A crowded register -/

namespace Rehearsal.Backstage

/-- Seven registrations: one whose site has a job, two of one id, two that are due behind these, one
that is disabled and one that is due later. -/
def crowd : Register :=
  [{ site := { id := "late", domain := "example.com" }, history := { nextCheckAt := some ⟨0, 0⟩ } },
    { site := { id := "events", domain := "example.com" }, priority := 5 },
    { site := { id := "busy", domain := "example.net" }, priority := 9 },
    { site := { id := "events", domain := "example.org" }, priority := 1 },
    { site := { id := "news", domain := "example.com" }, priority := 1 },
    { site := { id := "off", domain := "example.com", enabled := false }, priority := 7 },
    { site := { id := "later", domain := "example.com" }, priority := 7,
      history := { nextCheckAt := some ⟨60, 0⟩ } }]

/-- A scheduler with one job of the site `busy`, over the crowded register. -/
def crowded : Scheduler Backstage where
  around := { world := { register := crowd, scraping := { world := {} } } }
  running := [(Job.create ⟨0⟩ "busy" ⟨0, 0⟩).start ⟨0, 0⟩]
  launched := 1

/-- A tick of this scheduler finds the register readable and deals with what is due. -/
theorem crowded_tick_dealsWith :
    let services := services {} ⟨0, 0⟩ (scrape ⟨0, 0⟩)
    services.register crowded.around.world = .ok crowd ∧
      ∃ due report later, crowded.tick services = (.ok report, later) ∧
        Scheduler.IsAgenda ⟨0, 0⟩ crowd due ∧ report.due = due.length ∧
        (∃ d : Dealings, d.map Prod.fst = due ∧
          crowded.DealsWith services.settings d report later) ∧
        ∀ t : Scheduler Backstage, ∃ d : Dealings, d.map Prod.fst = due ∧
          t.DealsWith services.settings d (t.launchDue services due).1
            (t.launchDue services due).2 :=
  ⟨rfl, Scheduler.tick_dealsWith (services {} ⟨0, 0⟩ (scrape ⟨0, 0⟩)) crowded rfl⟩

end Rehearsal.Backstage

end SiteWatch
