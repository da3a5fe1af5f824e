/-
# The count of runs

Every site has a count of its runs in the register. A job raises it by writing back a copy of the
bookkeeping that a tick has read for it, once at its start and once more at its end, so that the
count is right only as long as no other job of the site has written in between. A stop abandons jobs
that still run and leaves them to go on, which makes room for such other jobs. This module says
exactly when the count is right: when every writing is timely.
-/

import Mathlib.Data.List.Induction
import Mathlib.Data.List.Nodup
import SiteWatch.Proofs.Schedule.Lineage
import SiteWatch.Rehearsal.Schedule

namespace SiteWatch

variable {σ : Type}

/-! ## Counts in a register -/

namespace Register

/-- The count of runs on record for an id. -/
def runsOf (register : Register) (id : String) : Nat :=
  (register.get? id).elim 0 (·.history.totalRuns)

/-- Bookkeeping leaves the ids as they are. -/
@[simp]
theorem map_id_record (register : Register) (id : String) (history : Bookkeeping) :
    (register.record id history).map Registration.id = register.map Registration.id := by
  induction register with
  | nil => rfl
  | cons r rest ih =>
      simp only [record, amend]
      split
      · rfl
      · simpa [record] using ih

theorem runsOf_cons (r : Registration) (rest : Register) (id : String) :
    runsOf (r :: rest) id = if r.id == id then r.history.totalRuns else runsOf rest id := by
  simp only [runsOf, get?, List.find?_cons]
  cases r.id == id <;> rfl

theorem runsOf_record_self {register : Register} {id : String} (history : Bookkeeping)
    (hregistered : id ∈ register.map Registration.id) :
    (register.record id history).runsOf id = history.totalRuns := by
  induction register with
  | nil => simp at hregistered
  | cons r rest ih =>
      simp only [record, amend]
      split
      · rename_i hsame
        rw [runsOf_cons]
        exact if_pos hsame
      · rename_i hother
        rw [runsOf_cons, if_neg hother]
        have hne : id ≠ r.id := fun hid => hother (beq_iff_eq.mpr hid.symm)
        exact ih ((List.mem_cons.mp hregistered).resolve_left hne)

theorem runsOf_record_of_ne {register : Register} {id other : String} (history : Bookkeeping)
    (hother : other ≠ id) : (register.record id history).runsOf other = register.runsOf other := by
  induction register with
  | nil => rfl
  | cons r rest ih =>
      simp only [record, amend]
      split
      · rename_i hsame
        have hne : ¬ (r.id == other) = true := fun hid =>
          hother ((beq_iff_eq.mp hid).symm.trans (beq_iff_eq.mp hsame))
        rw [runsOf_cons, runsOf_cons, if_neg hne]
        exact if_neg hne
      · rw [runsOf_cons, runsOf_cons]
        exact congrArg _ ih

/-- With distinct ids every registration has its own count on record. -/
theorem runsOf_of_mem {register : Register} (hnodup : (register.map Registration.id).Nodup)
    {r : Registration} (hr : r ∈ register) : register.runsOf r.id = r.history.totalRuns := by
  induction register with
  | nil => cases hr
  | cons first rest ih =>
      obtain ⟨hfirst, hrest⟩ := List.nodup_cons.mp hnodup
      rw [runsOf_cons]
      rcases List.mem_cons.mp hr with rfl | hr
      · simp
      · have hne : ¬ (first.id == r.id) = true := fun hid =>
          hfirst (beq_iff_eq.mp hid ▸ List.mem_map_of_mem hr)
        rw [if_neg hne]
        exact ih hrest hr

end Register

/-! ## Counting the starts of a course -/

namespace Course

/-- How many starts of a site are on record. -/
def starts (c : Course σ) (siteId : String) : Nat := c.begun.countP (·.1 == siteId)

/-- The jobs of a site whose start was recorded after the tick that launched a job had read the
register. -/
def newcomers (c : Course σ) (job : JobId) (siteId : String) : List JobId :=
  ((c.begun.drop (c.begunBefore job)).filter (·.1 == siteId)).map (·.2)

/-- The count of runs of every site is the one it began with and one for every start on record. -/
def Tallies (view : σ → Register) (initial : Register) (c : Course σ) : Prop :=
  ∀ siteId, (view c.world).runsOf siteId = initial.runsOf siteId + c.starts siteId

end Course

namespace Happening

/-- What happens elsewhere leaves the register alone. -/
def IsInside (view : σ → Register) : Happening σ → Prop
  | .elsewhere change => ∀ world, view (change world) = view world
  | _ => True

/-- The round that takes a step, if one does. -/
def round? (c : Course σ) : Happening σ → Option (Round σ)
  | .advance job _ => c.scheduler.round? job
  | _ => none

theorem eq_advance_of_round? {c : Course σ} {happening : Happening σ} {round : Round σ}
    (hround : happening.round? c = some round) :
    ∃ job elapsed, happening = .advance job elapsed ∧ c.scheduler.round? job = some round := by
  cases happening with
  | advance job elapsed => exact ⟨job, elapsed, rfl, hround⟩
  | _ => cases hround

/-- The end that a job puts on record overwrites nothing that another job of the site has put there
since the bookkeeping of the former was read. -/
def Spares (services : ScheduleServices σ) (c : Course σ) (happening : Happening σ) : Prop :=
  ∀ round ∈ happening.round? c, round.records services c.world → ¬ round.isStarting →
    ∀ other ∈ c.newcomers round.job.id round.registration.id, other = round.job.id

/-- A job that puts its start on record is the first one of its site to do so since its bookkeeping
was read, and one that puts its end there is the only one. -/
def IsTimely (services : ScheduleServices σ) (c : Course σ) (happening : Happening σ) : Prop :=
  ∀ round ∈ happening.round? c, round.records services c.world →
    c.newcomers round.job.id round.registration.id = if round.isStarting then [] else [round.job.id]

instance (services : ScheduleServices σ) (c : Course σ) (happening : Happening σ) :
    Decidable (happening.IsTimely services c) :=
  inferInstanceAs (Decidable (∀ round ∈ happening.round? c, _))

end Happening

namespace Course

variable {services : ScheduleServices σ} {view : σ → Register} {initial : Register} {c : Course σ}

/-- A count is one more than the register had when so many starts were on record. -/
structure Counts (initial : Register) (begun : List (String × JobId)) (before : Nat)
    (siteId : String) (count : Nat) : Prop where
  before_le : before ≤ begun.length
  registered : siteId ∈ initial.map Registration.id
  count_eq : count = initial.runsOf siteId + (begun.take before).countP (·.1 == siteId) + 1

/-- What every happening preserves as long as the register tallies: whatever was read for a job, and
is to be written back by it, counts the starts that were on record when it was read. -/
structure Informed (view : σ → Register) (initial : Register) (c : Course σ) : Prop where
  ids_eq : (view c.world).map Registration.id = initial.map Registration.id
  readings : ∀ reading ∈ c.readings, ∀ r ∈ reading.due,
    Counts initial c.begun reading.begunBefore r.id (r.history.totalRuns + 1)
  rounds : ∀ round ∈ c.scheduler.rounds,
    Counts initial c.begun (c.begunBefore round.job.id) round.registration.id round.count
  rounds_lt : ∀ round ∈ c.scheduler.rounds, round.job.id.number < c.scheduler.launched
  rounds_quiet : ∀ round ∈ c.scheduler.rounds, round.ScrapesQuietly view

theorem Counts.mono {begun later : List (String × JobId)} {before : Nat} {siteId : String}
    {count : Nat} (hcounts : Counts initial begun before siteId count) (hbegun : begun <+: later) :
    Counts initial later before siteId count := by
  obtain ⟨more, rfl⟩ := hbegun
  refine ⟨?_, hcounts.registered, ?_⟩
  · rw [List.length_append]
    exact Nat.le_add_right_of_le hcounts.before_le
  · rw [List.take_append_of_le_length hcounts.before_le]
    exact hcounts.count_eq

theorem informed_fresh (view : σ → Register) (world : σ) :
    (Course.fresh world).Informed view (view world) where
  ids_eq := rfl
  readings := by simp [Course.fresh]
  rounds := by simp [Course.fresh]
  rounds_lt := by simp [Course.fresh]
  rounds_quiet := by simp [Course.fresh]

theorem tallies_fresh (view : σ → Register) (world : σ) :
    (Course.fresh world).Tallies view (view world) := by
  intro siteId
  simp [Course.fresh, Course.world, starts]

/-- The starts on record and the count of a round differ by the newcomers. -/
theorem Counts.starts_eq {siteId : String} {job : JobId} {count : Nat}
    (hcounts : Counts initial c.begun (c.begunBefore job) siteId count) :
    initial.runsOf siteId + c.starts siteId + 1 = count + (c.newcomers job siteId).length := by
  have hsplit : c.starts siteId = (c.begun.take (c.begunBefore job)).countP (·.1 == siteId) +
      (c.newcomers job siteId).length := by
    rw [starts, newcomers, List.length_map, ← List.countP_eq_length_filter, ← List.countP_append,
      List.take_append_drop]
  rw [hcounts.count_eq, hsplit]
  omega

/-! ## What a happening does to the register -/

/-- Only the step of a round changes the register or the starts on record. -/
theorem view_after_of_round?_eq_none (services : ScheduleServices σ) {happening : Happening σ}
    (hinside : happening.IsInside view) (hround : happening.round? c = none) :
    view (c.after services happening).world = view c.world ∧
      (c.after services happening).begun = c.begun := by
  cases happening with
  | start =>
      refine ⟨?_, rfl⟩
      simp only [after, world, Scheduler.start]
      split <;> rfl
  | endStop inFlight =>
      exact ⟨congrArg view (Scheduler.world_endStop services inFlight c.scheduler), rfl⟩
  | read =>
      simp only [after, read]
      split <;> exact ⟨rfl, rfl⟩
  | launch place =>
      simp only [after, launch]
      split
      · exact ⟨rfl, rfl⟩
      · exact ⟨congrArg view (Scheduler.launches_launchDue services _ c.scheduler).world_eq, rfl⟩
  | advance job elapsed =>
      have hnone : c.scheduler.round? job = none := hround
      constructor
      · simp [after, world, Scheduler.stepRound_of_none hnone]
      · simp [after, begunAfter, hnone]
  | elsewhere change => exact ⟨hinside c.world, rfl⟩
  | unwant | announceStop | callOff | planTick => exact ⟨rfl, rfl⟩

/-- The step of a round that writes nothing back changes neither. -/
theorem view_after_of_not_records (hstore : services.KeepsRegister view)
    {happening : Happening σ} {round : Round σ} (hround : happening.round? c = some round)
    (hquiet : round.ScrapesQuietly view) (hrecords : round.records services c.world = false) :
    view (c.after services happening).world = view c.world ∧
      (c.after services happening).begun = c.begun := by
  obtain ⟨job, elapsed, rfl, hjob⟩ := Happening.eq_advance_of_round? hround
  refine ⟨Scheduler.view_stepRound_of_not_records hstore hjob hquiet elapsed hrecords, ?_⟩
  simp [after, begunAfter, hjob, hrecords]

/-- The step of a round that writes its count back. -/
theorem view_after_of_records (hstore : services.KeepsRegister view) {happening : Happening σ}
    {round : Round σ} (hround : happening.round? c = some round)
    (hrecords : round.records services c.world = true) :
    (∃ history : Bookkeeping, history.totalRuns = round.count ∧
      view (c.after services happening).world =
        (view c.world).record round.registration.id history) ∧
      (c.after services happening).begun =
        if round.isStarting then c.begun ++ [(round.registration.id, round.job.id)]
        else c.begun := by
  obtain ⟨job, elapsed, rfl, hjob⟩ := Happening.eq_advance_of_round? hround
  refine ⟨Scheduler.view_stepRound_of_records hstore hjob elapsed hrecords, ?_⟩
  simp [after, begunAfter, hjob, hrecords]

theorem begun_prefix_after (services : ScheduleServices σ) (c : Course σ)
    (happening : Happening σ) : c.begun <+: (c.after services happening).begun := by
  cases happening with
  | read =>
      simp only [after, read]
      split <;> exact List.prefix_rfl
  | launch place =>
      simp only [after, launch]
      split <;> exact List.prefix_rfl
  | advance job elapsed =>
      simp only [after, begunAfter]
      split
      · exact List.prefix_rfl
      · split
        · exact List.prefix_append _ _
        · exact List.prefix_rfl
  | start | unwant | announceStop | endStop | callOff | planTick | elsewhere =>
      exact List.prefix_rfl

/-- A round that takes a step is one of those at work. -/
theorem mem_rounds_of_round? {happening : Happening σ} {round : Round σ}
    (hround : happening.round? c = some round) : round ∈ c.scheduler.rounds := by
  obtain ⟨job, elapsed, rfl, hround⟩ := Happening.eq_advance_of_round? hround
  exact List.mem_of_find?_eq_some hround

/-- The ids in the register stay as they are. -/
theorem Informed.ids_after (hstore : services.KeepsRegister view) (hc : c.Informed view initial)
    {happening : Happening σ} (hinside : happening.IsInside view) :
    (view (c.after services happening).world).map Registration.id =
      initial.map Registration.id := by
  rw [← hc.ids_eq]
  cases hround : happening.round? c with
  | none => rw [(view_after_of_round?_eq_none services hinside hround).1]
  | some round =>
      have hquiet := hc.rounds_quiet round (mem_rounds_of_round? hround)
      cases hrecords : round.records services c.world with
      | false => rw [(view_after_of_not_records hstore hround hquiet hrecords).1]
      | true =>
          obtain ⟨⟨history, -, hview⟩, -⟩ := view_after_of_records hstore hround hrecords
          rw [hview, Register.map_id_record]

/-- A happening that reads nothing and launches nothing. -/
theorem Informed.goOn {d : Course σ} (hc : c.Informed view initial)
    (hids : (view d.world).map Registration.id = initial.map Registration.id)
    (hbegun : c.begun <+: d.begun) (hreadings : d.readings = c.readings)
    (hbefore : d.begunBefore = c.begunBefore)
    (hrounds : Scheduler.GoesOn view c.scheduler d.scheduler) : d.Informed view initial where
  ids_eq := hids
  readings := by
    intro reading hreading r hr
    exact (hc.readings reading (hreadings ▸ hreading) r hr).mono hbegun
  rounds := by
    intro round hround
    obtain ⟨old, hold, hcome⟩ := hrounds.rounds round hround
    rw [hbefore, hcome.job_id, hcome.registration_id, hcome.count]
    exact (hc.rounds old hold).mono hbegun
  rounds_lt := by
    intro round hround
    obtain ⟨old, hold, hcome⟩ := hrounds.rounds round hround
    rw [hcome.job_id, hrounds.launched_eq]
    exact hc.rounds_lt old hold
  rounds_quiet := by
    intro round hround
    obtain ⟨old, hold, hcome⟩ := hrounds.rounds round hround
    exact hcome.quiet (hc.rounds_quiet old hold)

/-- A tick reads what the register counts now. -/
theorem Informed.read (hstore : services.KeepsRegister view)
    (hnodup : (initial.map Registration.id).Nodup) (hc : c.Informed view initial)
    (htallies : c.Tallies view initial) : (c.read services).Informed view initial := by
  simp only [Course.read]
  split
  · rename_i due hdue
    refine ⟨hc.ids_eq, ?_, hc.rounds, hc.rounds_lt, hc.rounds_quiet⟩
    intro reading hreading r hr
    rcases List.mem_append.mp hreading with hreading | hreading
    · exact hc.readings reading hreading r hr
    · rw [List.mem_singleton.mp hreading] at hr ⊢
      simp only [Scheduler.due, Except.map] at hdue
      split at hdue
      · cases hdue
      · rename_i registrations hregister
        cases hdue
        have hmem : r ∈ view c.world := by
          rw [Course.world, ← hstore.register_ok _ _ hregister]
          exact List.mem_of_mem_filter (List.mem_mergeSort.mp hr)
        refine ⟨Nat.le_refl _, hc.ids_eq ▸ List.mem_map_of_mem hmem, ?_⟩
        rw [← Register.runsOf_of_mem (hc.ids_eq ▸ hnodup) hmem, htallies r.id, List.take_length]
        rfl
  · exact hc

/-- A tick launches jobs with what it has read. -/
theorem Informed.launch (hc : c.Informed view initial) (place : Nat) :
    (c.launch services place).Informed view initial := by
  simp only [Course.launch]
  split
  · exact hc
  · rename_i reading hplace
    have hreading : reading ∈ c.readings := List.mem_of_getElem? hplace
    have hlaunches := Scheduler.launches_launchDue services reading.due c.scheduler
    refine ⟨?_, ?_, ?_, ?_, ?_⟩
    · exact (congrArg (List.map Registration.id ∘ view) hlaunches.world_eq).trans hc.ids_eq
    · exact fun other hother => hc.readings other (List.mem_of_mem_eraseIdx hother)
    · intro round hround
      rcases hlaunches.rounds round hround with hold | ⟨job, r, hr, rfl, hnew, -⟩
      · simpa [hc.rounds_lt round hold] using hc.rounds round hold
      · simpa [Round.launch, Round.count, Round.isStarting, Nat.not_lt.mpr hnew] using
          hc.readings reading hreading r hr
    · intro round hround
      rcases hlaunches.rounds round hround with hold | ⟨job, r, -, rfl, -, hlt⟩
      · exact Nat.lt_of_lt_of_le (hc.rounds_lt round hold) hlaunches.launched_le
      · exact hlt
    · intro round hround
      rcases hlaunches.rounds round hround with hold | ⟨job, r, -, rfl, -, -⟩
      · exact hc.rounds_quiet round hold
      · intro url rest work hphase
        cases hphase

/-- As long as the register tallies, every happening preserves what jobs are informed of. -/
theorem Informed.after (hstore : services.KeepsRegister view)
    (hnodup : (initial.map Registration.id).Nodup) (hc : c.Informed view initial)
    (htallies : c.Tallies view initial) {happening : Happening σ}
    (hinside : happening.IsInside view) : (c.after services happening).Informed view initial := by
  have hids := hc.ids_after hstore hinside
  have hbegun := begun_prefix_after services c happening
  cases happening with
  | read => exact hc.read hstore hnodup htallies
  | launch place => exact hc.launch place
  | start =>
      refine hc.goOn hids hbegun rfl rfl ?_
      simp only [Course.after, Scheduler.start]
      split <;> exact .of_eq rfl rfl
  | endStop inFlight =>
      exact hc.goOn hids hbegun rfl rfl (Scheduler.goesOn_endStop services inFlight c.scheduler)
  | advance job elapsed =>
      exact hc.goOn hids hbegun rfl rfl (Scheduler.goesOn_stepRound hstore c.scheduler job elapsed)
  | callOff job => exact hc.goOn hids hbegun rfl rfl (Scheduler.goesOn_callOff c.scheduler job)
  | unwant | announceStop | planTick | elsewhere =>
      exact hc.goOn hids hbegun rfl rfl (.of_eq rfl rfl)

/-! ## When the register tallies -/

/-- A writing that is taken leaves the register tallying exactly if no start has come between, other
than that of the job itself. -/
theorem tallies_after_of_records_iff (hstore : services.KeepsRegister view)
    (hc : c.Informed view initial) (htallies : c.Tallies view initial) {happening : Happening σ}
    {round : Round σ} (hround : happening.round? c = some round)
    (hrecords : round.records services c.world = true) :
    (c.after services happening).Tallies view initial ↔
      (c.newcomers round.job.id round.registration.id).length =
        if round.isStarting then 0 else 1 := by
  obtain ⟨⟨history, hcount, hview⟩, hbegun⟩ := view_after_of_records hstore hround hrecords
  have hcounts := hc.rounds round (mem_rounds_of_round? hround)
  have hregistered : round.registration.id ∈ (view c.world).map Registration.id :=
    hc.ids_eq ▸ hcounts.registered
  have hstarts : ∀ siteId, (c.after services happening).starts siteId =
      c.starts siteId + if round.isStarting ∧ siteId = round.registration.id then 1 else 0 := by
    intro siteId
    rw [starts, hbegun]
    cases round.isStarting with
    | false => simp [starts]
    | true =>
        by_cases hsite : siteId = round.registration.id
        · simp [starts, hsite]
        · simp [starts, hsite, Ne.symm hsite]
  have hsum := hcounts.starts_eq
  -- The other sites tally anyway, so that it is the site of the round that decides.
  have hself : (c.after services happening).Tallies view initial ↔
      round.count = initial.runsOf round.registration.id +
        (c.starts round.registration.id + if round.isStarting then 1 else 0) := by
    constructor
    · intro hafter
      have hsite := hafter round.registration.id
      rw [hview, Register.runsOf_record_self history hregistered, hcount, hstarts] at hsite
      simpa using hsite
    · intro hsite siteId
      rw [hview, hstarts]
      by_cases hsame : siteId = round.registration.id
      · subst hsame
        rw [Register.runsOf_record_self history hregistered, hcount]
        simpa using hsite
      · rw [Register.runsOf_record_of_ne history hsame, htallies siteId]
        simp [hsame]
  rw [hself]
  split <;> omega

/-- A happening keeps the register tallying and spares what others have recorded exactly if it is
timely. -/
theorem tallies_after_iff (hstore : services.KeepsRegister view) (hc : c.Informed view initial)
    (htallies : c.Tallies view initial) {happening : Happening σ}
    (hinside : happening.IsInside view) :
    (c.after services happening).Tallies view initial ∧ happening.Spares services c ↔
      happening.IsTimely services c := by
  have hsame : view (c.after services happening).world = view c.world ∧
      (c.after services happening).begun = c.begun →
      (c.after services happening).Tallies view initial := by
    rintro ⟨hview, hbegun⟩ siteId
    rw [hview, starts, hbegun]
    exact htallies siteId
  cases hround : happening.round? c with
  | none =>
      have hafter := hsame (view_after_of_round?_eq_none services hinside hround)
      simp [hafter, Happening.Spares, Happening.IsTimely, hround]
  | some round =>
      cases hrecords : round.records services c.world with
      | false =>
          have hquiet := hc.rounds_quiet round (mem_rounds_of_round? hround)
          have hafter := hsame (view_after_of_not_records hstore hround hquiet hrecords)
          simp [hafter, Happening.Spares, Happening.IsTimely, hround, hrecords]
      | true =>
          rw [tallies_after_of_records_iff hstore hc htallies hround hrecords]
          cases hstarting : round.isStarting with
          | true => simp [Happening.Spares, Happening.IsTimely, hround, hrecords, hstarting]
          | false =>
              simp [Happening.Spares, Happening.IsTimely, hround, hrecords, hstarting,
                ← List.eq_replicate_iff]

/-- The count of runs of every site is right all along: it is what it was and one for every start on
record, it never drops, and no end overwrites what another job has recorded in the meantime. -/
structure CountsRuns (services : ScheduleServices σ) (view : σ → Register) (c : Course σ)
    (happenings : List (Happening σ)) : Prop where
  tallies : ∀ past, past <+: happenings → (c.run services past).Tallies view (view c.world)
  never_drops : ∀ past next, past ++ [next] <+: happenings → ∀ siteId,
    (view (c.run services past).world).runsOf siteId ≤
      (view (c.run services (past ++ [next])).world).runsOf siteId
  spares : ∀ past next, past ++ [next] <+: happenings → next.Spares services (c.run services past)

/-- Every happening is timely when it comes. -/
def IsTimelyThroughout (services : ScheduleServices σ) (c : Course σ)
    (happenings : List (Happening σ)) : Prop :=
  ∀ past next, past ++ [next] <+: happenings → next.IsTimely services (c.run services past)

theorem isTimelyThroughout_nil (services : ScheduleServices σ) (c : Course σ) :
    c.IsTimelyThroughout services [] := by
  intro past next hearly
  simp at hearly

theorem isTimelyThroughout_cons {happening : Happening σ} {rest : List (Happening σ)} :
    c.IsTimelyThroughout services (happening :: rest) ↔
      happening.IsTimely services c ∧
        (c.after services happening).IsTimelyThroughout services rest := by
  constructor
  · intro htimely
    refine ⟨htimely [] happening (by simp), fun past next hearly => ?_⟩
    exact htimely (happening :: past) next (List.prefix_cons_inj happening |>.mpr hearly)
  · rintro ⟨hfirst, hrest⟩ past next hearly
    cases past with
    | nil =>
        obtain ⟨rfl, -⟩ := List.cons_prefix_cons.mp hearly
        exact hfirst
    | cons first past =>
        obtain ⟨rfl, hlater⟩ := List.cons_prefix_cons.mp hearly
        exact hrest past next hlater

instance decidableIsTimelyThroughout (services : ScheduleServices σ) :
    (c : Course σ) → (happenings : List (Happening σ)) →
      Decidable (c.IsTimelyThroughout services happenings)
  | c, [] => isTrue (isTimelyThroughout_nil services c)
  | c, happening :: rest =>
    have := decidableIsTimelyThroughout services (c.after services happening) rest
    decidable_of_iff _ isTimelyThroughout_cons.symm

theorem run_concat (services : ScheduleServices σ) (c : Course σ) (past : List (Happening σ))
    (next : Happening σ) :
    c.run services (past ++ [next]) = (c.run services past).after services next := by
  simp [run_append]

/-- A register that tallied all along has informed every job rightly. -/
theorem informed_run (hstore : services.KeepsRegister view)
    (hnodup : (initial.map Registration.id).Nodup) (hc : c.Informed view initial)
    (happenings : List (Happening σ)) (hinside : ∀ happening ∈ happenings, happening.IsInside view)
    (htallies : ∀ past, past <+: happenings → (c.run services past).Tallies view initial) :
    (c.run services happenings).Informed view initial := by
  induction happenings using List.reverseRecOn with
  | nil => exact hc
  | append_singleton past next ih =>
      rw [run_concat]
      have hpast : past <+: past ++ [next] := List.prefix_append past [next]
      exact (ih (fun happening hmem => hinside happening (hpast.subset hmem))
        (fun earlier hearlier => htallies earlier (hearlier.trans hpast))).after hstore hnodup
        (htallies past hpast) (hinside next (by simp))

/-- If all writings are timely the register tallies in the end, and hence all along. -/
theorem tallies_run_of_timely (hstore : services.KeepsRegister view)
    (hnodup : (initial.map Registration.id).Nodup) (hc : c.Informed view initial)
    (hstart : c.Tallies view initial) (happenings : List (Happening σ))
    (hinside : ∀ happening ∈ happenings, happening.IsInside view)
    (htimely : c.IsTimelyThroughout services happenings) :
    (c.run services happenings).Informed view initial ∧
      (c.run services happenings).Tallies view initial := by
  induction happenings using List.reverseRecOn with
  | nil => exact ⟨hc, hstart⟩
  | append_singleton past next ih =>
      rw [run_concat]
      have hpast : past <+: past ++ [next] := List.prefix_append past [next]
      obtain ⟨hinformed, htallies⟩ :=
        ih (fun happening hmem => hinside happening (hpast.subset hmem))
          (fun earlier happening hearlier => htimely earlier happening (hearlier.trans hpast))
      have hnext : next.IsInside view := hinside next (by simp)
      exact ⟨hinformed.after hstore hnodup htallies hnext,
        ((tallies_after_iff hstore hinformed htallies hnext).mpr
          (htimely past next List.prefix_rfl)).1⟩

/-- Over a register in which every site has an id of its own and that nobody else writes to, the
count of runs is right all along exactly if every writing is timely. -/
theorem countsRuns_iff_timely (hstore : services.KeepsRegister view) (world : σ)
    (hnodup : ((view world).map Registration.id).Nodup) (happenings : List (Happening σ))
    (hinside : ∀ happening ∈ happenings, happening.IsInside view) :
    CountsRuns services view (Course.fresh world) happenings ↔
      (Course.fresh world).IsTimelyThroughout services happenings := by
  have hinformed := informed_fresh view world
  have hstart := tallies_fresh view world
  constructor
  · rintro ⟨htallies, -, hspares⟩ past next hearly
    have hpast : past <+: happenings := (List.prefix_append past [next]).trans hearly
    have hnext := htallies (past ++ [next]) hearly
    rw [run_concat] at hnext
    refine (tallies_after_iff hstore ?_ (htallies past hpast)
      (hinside next (hearly.subset (by simp)))).mp ⟨hnext, hspares past next hearly⟩
    exact informed_run hstore hnodup hinformed past
      (fun happening hmem => hinside happening (hpast.subset hmem))
      (fun earlier hearlier => htallies earlier (hearlier.trans hpast))
  · intro htimely
    have hpast : ∀ past, past <+: happenings →
        ((Course.fresh world).run services past).Informed view (view world) ∧
          ((Course.fresh world).run services past).Tallies view (view world) := by
      intro past hearly
      exact tallies_run_of_timely hstore hnodup hinformed hstart past
        (fun happening hmem => hinside happening (hearly.subset hmem))
        (fun earlier next hearlier => htimely earlier next (hearlier.trans hearly))
    refine ⟨fun past hearly => (hpast past hearly).2, ?_, ?_⟩
    · intro past next hearly siteId
      rw [(hpast past ((List.prefix_append past [next]).trans hearly)).2 siteId,
        (hpast (past ++ [next]) hearly).2 siteId, run_concat]
      exact Nat.add_le_add_left
        ((begun_prefix_after services _ next).sublist.countP_le) _
    · intro past next hearly
      obtain ⟨hinformed, htallies⟩ :=
        hpast past ((List.prefix_append past [next]).trans hearly)
      exact ((tallies_after_iff hstore hinformed htallies
        (hinside next (hearly.subset (by simp)))).mpr (htimely past next hearly)).2

end Course

/-! ## A run that is lost -/

namespace Rehearsal.Backstage

/-- A rehearsed scheduler keeps its register in memory. -/
theorem keepsRegister (settings : ScheduleSettings) (now : Instant) :
    (services settings now (scrape now)).KeepsRegister Backstage.register where
  register_ok := by
    intro world registrations hregister
    simp only [services] at hregister
    split at hregister
    · cases hregister
    · exact (Except.ok.inj hregister).symm
  record_taken := by
    intro siteId history world htaken
    simp only [services, record] at htaken ⊢
    split at htaken
    · cases htaken
    · split at htaken
      · cases htaken
      · simp_all
  record_refused := by
    intro siteId history world hrefused
    simp only [services, record] at hrefused ⊢
    split
    · rfl
    · split
      · rfl
      · simp_all
  save := by
    intro siteId result world
    simp only [services, save]
    split <;> rfl
  notify := fun notice world => rfl
  scrape := by
    intro request
    have harrive : ∀ b : Backstage, b.arrive.2.register = b.register := by
      intro b
      simp only [arrive]
      split <;> rfl
    refine ⟨fun b => harrive _, fun b => ?_⟩
    simp only [Activity.bind]
    split
    · exact ⟨fun _ => rfl, fun _ => trivial⟩
    · intro wake elapsed
      cases wake with
      | cancelled => exact ⟨fun _ => rfl, fun _ => trivial⟩
      | due | ready => exact ⟨fun _ => rfl, fun _ => ⟨fun _ => rfl, fun _ => trivial⟩⟩

/-- One site whose page cannot be scraped, behind a gate that lets nobody through. -/
def closedGate : Backstage where
  register := [{ site := { id := "events", domain := "example.com" } }]
  failing := ["https://example.com/"]
  gate := some {}
  scraping := { world := {} }

/-- A job waits at the gate until a stop abandons it; after a new start another job of the site puts
its start on record; then the first one comes to its end. -/
def overtaken : List (Happening Backstage) :=
  [.start, .read, .launch 0, .advance ⟨0⟩ 0, .advance ⟨0⟩ 0, .advance ⟨0⟩ 0, .unwant, .announceStop,
    .endStop 1, .start, .read, .launch 0, .advance ⟨1⟩ 0, .advance ⟨0⟩ 1000, .advance ⟨0⟩ 0,
    .advance ⟨0⟩ 0, .advance ⟨0⟩ 0, .advance ⟨0⟩ 0]

/-- The services of an ordinary rehearsal. -/
def ordinary : ScheduleServices Backstage := services {} ⟨0, 0⟩ (scrape ⟨0, 0⟩)

/-- Up to the end of the abandoned job every writing is timely, and the count is right. -/
theorem countsRuns_before_overtaken :
    Course.CountsRuns ordinary Backstage.register (Course.fresh closedGate) (overtaken.take 17) :=
  (Course.countsRuns_iff_timely (keepsRegister {} ⟨0, 0⟩) closedGate (by decide) _
    (by simp [overtaken, Happening.IsInside])).mpr (by decide +kernel)

/-- That end brings the count from two back to one, with both starts on record. -/
theorem overtaken_run_is_lost :
    let before := (Course.fresh closedGate).run ordinary (overtaken.take 17)
    let after := (Course.fresh closedGate).run ordinary overtaken
    before.world.register.runsOf "events" = 2 ∧ after.world.register.runsOf "events" = 1 ∧
      after.starts "events" = 2 ∧
      (∀ happening ∈ overtaken, happening.IsInside Backstage.register) ∧
      ¬ Course.CountsRuns ordinary Backstage.register (Course.fresh closedGate) overtaken := by
  refine ⟨by decide +kernel, by decide +kernel, by decide +kernel,
    by simp [overtaken, Happening.IsInside], fun hcounts => ?_⟩
  have htallies := hcounts.tallies overtaken List.prefix_rfl "events"
  exact absurd htallies (by decide +kernel)

end Rehearsal.Backstage

end SiteWatch
