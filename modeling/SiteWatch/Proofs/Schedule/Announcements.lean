/-
# What is announced of jobs

Launches and ends of jobs are announced as events. The end of a job is announced in two places that do
not ask each other: the round of the job announces the end that it comes to by itself, and a stop
announces the jobs that it abandons. Each place announces a job once at most; this module says when
each of them has done so, and how what is remembered of a job goes with what was announced, along
every course of happenings.
-/

import SiteWatch.Proofs.Schedule.Independence
import SiteWatch.Proofs.Schedule.Stopping

namespace SiteWatch

variable {σ : Type}

/-- Nobody but a stop ends a job as cancelled. -/
theorem Job.IsDone.ne_cancelled {job : Job} (hdone : job.IsDone) : job.status ≠ .cancelled := by
  rcases hdone with hdone | hdone <;> simp [hdone]

/-! ## Announcements -/

namespace ScheduleEvent

/-- The end that an event announces for a job: the state that the job has ended in. -/
def end? (id : JobId) : ScheduleEvent → Option JobStatus
  | finished job _ status _ => if job = id then some status else none
  | abandoned job _ => if job = id then some .cancelled else none
  | _ => none

/-- Whether an event announces the launch or the end of a job. -/
def marks : ScheduleEvent → Bool
  | launched .. | finished .. | abandoned .. => true
  | _ => false

theorem end?_eq_none_of_marks {event : ScheduleEvent} (hevent : event.marks = false) (id : JobId) :
    event.end? id = none := by
  cases event with
  | launched | finished | abandoned => cases hevent
  | _ => rfl

end ScheduleEvent

namespace Surroundings

/-- The ends that were announced for a job, in order. -/
def endings (s : Surroundings σ) (id : JobId) : List JobStatus := s.events.filterMap (·.end? id)

/-- The launch of a job was announced. -/
def HasLaunched (s : Surroundings σ) (id : JobId) : Prop := ∃ siteId, .launched id siteId ∈ s.events

variable {s t : Surroundings σ} {told : List ScheduleEvent}

theorem endings_of_append (htold : t.events = s.events ++ told) (id : JobId) :
    t.endings id = s.endings id ++ told.filterMap (·.end? id) := by
  simp [endings, htold]

theorem endings_of_not_marks (htold : t.events = s.events ++ told)
    (hmarks : ∀ event ∈ told, event.marks = false) (id : JobId) :
    t.endings id = s.endings id := by
  rw [endings_of_append htold, List.filterMap_eq_nil_iff.mpr, List.append_nil]
  exact fun event hevent => ScheduleEvent.end?_eq_none_of_marks (hmarks event hevent) id

theorem hasLaunched_of_append (htold : t.events = s.events ++ told)
    (hnone : ∀ id siteId, .launched id siteId ∉ told) (id : JobId) :
    t.HasLaunched id ↔ s.HasLaunched id := by
  simp [HasLaunched, htold, hnone]

theorem not_mem_launched_of_marks (hmarks : ∀ event ∈ told, event.marks = false) (id : JobId)
    (siteId : String) : .launched id siteId ∉ told := by
  intro hmem
  cases hmarks _ hmem

end Surroundings

namespace Round

/-- What a step of a round tells: remarks, or the end of its job, when the round comes to the point
of leaving. -/
theorem exists_told_step (services : ScheduleServices σ) (elapsed : Nat) {round : Round σ}
    (s : Surroundings σ) (hbefore : round.phase ≠ .leaving) :
    ∃ told, (round.step services elapsed s).2.events = s.events ++ told ∧
      ((round.step services elapsed s).1.phase ≠ .leaving ∧ (∀ event ∈ told, event.marks = false) ∨
        (round.step services elapsed s).1.phase = .leaving ∧ ∃ siteId summary, told =
          [.finished round.job.id siteId (round.step services elapsed s).1.job.status summary]) := by
  cases hphase : round.phase with
  | starting => exact ⟨[], by simp [step, hphase, start], .inl (by simp [step, hphase, start])⟩
  | choosing urls =>
      refine ⟨[], ?_, .inl ⟨?_, by simp⟩⟩ <;> cases urls <;> simp [step, hphase, choose]
  | scraping url rest work =>
      refine ⟨[], by simp [step, hphase, proceed], .inl ⟨?_, by simp⟩⟩
      simp only [step, hphase, proceed]
      split <;> simp
  | received url rest result =>
      simp only [step, hphase, receive, store, complain]
      split
      · exact ⟨[], by split <;> simp, .inl ⟨by simp, by simp⟩⟩
      · exact ⟨[.urlFailed round.job.id url ("; ".intercalate result.errors)],
          by simp [Surroundings.tell], .inl ⟨by simp, by simp [ScheduleEvent.marks]⟩⟩
  | concluding =>
      simp only [step, hphase, conclude]
      split
      · exact ⟨[], by simp, .inl ⟨by simp, by simp⟩⟩
      · split
        · exact ⟨[.newContent round.registration.id round.harvest.digest],
            by simp [Surroundings.tell], .inl ⟨by simp, by simp [ScheduleEvent.marks]⟩⟩
        · exact ⟨[], by simp, .inl ⟨by simp, by simp⟩⟩
  | finishing =>
      simp only [step, hphase, finish]
      split
      · exact ⟨[], by simp, .inl ⟨by simp, by simp⟩⟩
      · exact ⟨[], by simp, .inl ⟨by simp, by simp⟩⟩
  | reporting =>
      simp only [step, hphase, report, Surroundings.tell]
      exact ⟨_, rfl, .inr ⟨trivial, _, _, rfl⟩⟩
  | leaving => exact absurd hphase hbefore
  | lost => exact ⟨[], by simp [step, hphase], .inl (by simp [step, hphase])⟩

end Round

namespace Scheduler

/-- The ends of a job that its own round announced. -/
def ownEnds (s : Scheduler σ) (id : JobId) : List JobStatus :=
  (s.around.endings id).filter (· != .cancelled)

/-- How often a stop announced that it abandons a job. -/
def abandonments (s : Scheduler σ) (id : JobId) : Nat := (s.around.endings id).count .cancelled

/-- The jobs whose rounds are at work. -/
def roundIds (s : Scheduler σ) : List JobId := s.rounds.map (·.job.id)

/-- Rounds and open jobs are known by their numbers, and every open job has a round. -/
structure Roster (s : Scheduler σ) (opened : List JobId) : Prop where
  opened_nodup : opened.Nodup
  roundIds_nodup : s.roundIds.Nodup
  number_lt : ∀ id ∈ s.roundIds, id.number < s.launched
  attended : opened ⊆ s.roundIds

/-- Every launch is announced, and every round announces the end of its job when it comes to the
point of leaving. -/
structure TellsRounds (s : Scheduler σ) : Prop where
  launched_iff : ∀ id, s.around.HasLaunched id ↔ id.number < s.launched
  unborn : ∀ id, s.launched ≤ id.number → s.around.endings id = []
  underWay : ∀ round ∈ s.rounds, round.phase ≠ .leaving → s.ownEnds round.job.id = []
  leaving : ∀ round ∈ s.rounds, round.phase = .leaving →
    s.ownEnds round.job.id = [round.job.status]
  left : ∀ id, id.number < s.launched → id ∉ s.roundIds → ∃ status, s.ownEnds id = [status]

/-- A stop announces whom it abandons, and a job is remembered as it left the open ones: abandoned,
or with the end that its round announced. -/
structure TellsStops (s : Scheduler σ) (opened : List JobId) : Prop where
  kept : ∀ id ∈ opened, s.abandonments id = 0
  closed : ∀ id, id.number < s.launched → id ∉ opened →
    s.abandonments id = 1 ∨ s.abandonments id = 0 ∧ id ∉ s.roundIds
  recorded : ∀ job ∈ s.history, job.status = .cancelled ∧ s.abandonments job.id = 1 ∨
    s.abandonments job.id = 0 ∧ job.id ∉ s.roundIds ∧ s.ownEnds job.id = [job.status]

/-- What was announced of every job is what has become of it. The open jobs are the running ones,
except while a stop abandons these one by one. -/
structure Announces (s : Scheduler σ) (opened : List JobId) : Prop where
  roster : s.Roster opened
  rounds : s.TellsRounds
  stops : s.TellsStops opened

variable {services : ScheduleServices σ} {s t : Scheduler σ} {opened : List JobId} {id : JobId}
  {round last : Round σ} {job : Job}

theorem mem_roundIds (hround : round ∈ s.rounds) : round.job.id ∈ s.roundIds :=
  List.mem_map_of_mem hround

theorem announces_fresh (world : σ) : (Course.fresh world).scheduler.Announces [] where
  roster := ⟨List.nodup_nil, List.nodup_nil, by simp [roundIds, Course.fresh], by simp⟩
  rounds := ⟨by simp [Course.fresh, Surroundings.HasLaunched], fun _ _ => rfl,
    by simp [Course.fresh], by simp [Course.fresh], fun id hid => absurd hid (Nat.not_lt_zero _)⟩
  stops := ⟨by simp, fun id hid => absurd hid (Nat.not_lt_zero _), by simp [Course.fresh]⟩

/-- A round is found by the number of its job. -/
theorem Roster.eq_of_id_eq (h : s.Roster opened) {other : Round σ} (hround : round ∈ s.rounds)
    (hother : other ∈ s.rounds) (hid : other.job.id = round.job.id) : other = round :=
  List.inj_on_of_nodup_map h.roundIds_nodup hother hround hid

/-- A job whose end its round has announced was launched. -/
theorem TellsRounds.lt_of_ownEnds (h : s.TellsRounds) {status : JobStatus}
    (hends : s.ownEnds id = [status]) : id.number < s.launched := by
  refine Nat.lt_of_not_le fun hle => ?_
  rw [ownEnds, h.unborn id hle] at hends
  cases hends

/-! ## The same rounds -/

theorem Roster.of_eq (h : s.Roster opened) (hids : t.roundIds = s.roundIds)
    (hlaunched : t.launched = s.launched) : t.Roster opened where
  opened_nodup := h.opened_nodup
  roundIds_nodup := hids ▸ h.roundIds_nodup
  number_lt := by
    rw [hids, hlaunched]
    exact h.number_lt
  attended := hids ▸ h.attended

/-- Every round gives way to one for the same job that stands as far from its end, and no round
announces its end. -/
theorem TellsRounds.mapRounds (h : s.TellsRounds) {f : Round σ → Round σ}
    (hrounds : t.rounds = s.rounds.map f) (hlaunched : t.launched = s.launched)
    (hends : ∀ id, s.launched ≤ id.number → t.around.endings id = s.around.endings id)
    (hown : ∀ id, t.ownEnds id = s.ownEnds id)
    (htold : ∀ id, t.around.HasLaunched id ↔ s.around.HasLaunched id)
    (hid : ∀ round, (f round).job.id = round.job.id)
    (hleaving : ∀ round ∈ s.rounds, (f round).phase = .leaving →
      round.phase = .leaving ∧ (f round).job.status = round.job.status)
    (hstays : ∀ round ∈ s.rounds, round.phase = .leaving → (f round).phase = .leaving) :
    t.TellsRounds where
  launched_iff id := by rw [htold, hlaunched, h.launched_iff]
  unborn id hle := by
    rw [hlaunched] at hle
    rw [hends id hle, h.unborn id hle]
  underWay := by
    rw [hrounds, List.forall_mem_map]
    intro round hround hphase
    rw [hown, hid]
    exact h.underWay round hround fun hold => hphase (hstays round hround hold)
  leaving := by
    rw [hrounds, List.forall_mem_map]
    intro round hround hphase
    obtain ⟨hold, hstatus⟩ := hleaving round hround hphase
    rw [hown, hid, hstatus]
    exact h.leaving round hround hold
  left id hlt hgone := by
    have hids : t.roundIds = s.roundIds := by simp [roundIds, hrounds, hid]
    rw [hids] at hgone
    rw [hown]
    exact h.left id (hlaunched ▸ hlt) hgone

/-- No stop announces anything, and only jobs at work announce their ends. -/
theorem TellsStops.of_eq (h : s.TellsStops opened) (hids : t.roundIds = s.roundIds)
    (hlaunched : t.launched = s.launched) (hhistory : t.history = s.history)
    (hcount : ∀ id, t.abandonments id = s.abandonments id)
    (hown : ∀ id ∉ s.roundIds, t.ownEnds id = s.ownEnds id) : t.TellsStops opened where
  kept id hopen := by rw [hcount, h.kept id hopen]
  closed id hlt hnone := by
    rw [hcount, hids]
    exact h.closed id (hlaunched ▸ hlt) hnone
  recorded job hjob := by
    rw [hcount, hids]
    rw [hhistory] at hjob
    refine (h.recorded job hjob).imp_right fun hrecorded => ?_
    rw [hown _ hrecorded.2.1]
    exact hrecorded

/-- Something that looks at neither the jobs nor the rounds, and makes remarks at most. -/
theorem Announces.of_eq (h : s.Announces opened) {told : List ScheduleEvent}
    (hrounds : t.rounds = s.rounds) (hlaunched : t.launched = s.launched)
    (hhistory : t.history = s.history) (htold : t.around.events = s.around.events ++ told)
    (hmarks : ∀ event ∈ told, event.marks = false) : t.Announces opened := by
  have hends := Surroundings.endings_of_not_marks htold hmarks
  have hids : t.roundIds = s.roundIds := by rw [roundIds, hrounds, roundIds]
  have hown : ∀ id, t.ownEnds id = s.ownEnds id := fun id => by rw [ownEnds, hends, ownEnds]
  have hcount : ∀ id, t.abandonments id = s.abandonments id := fun id => by
    rw [abandonments, hends, abandonments]
  have hlaunch := Surroundings.hasLaunched_of_append htold
    (Surroundings.not_mem_launched_of_marks hmarks)
  refine ⟨h.roster.of_eq hids hlaunched, ?_,
    h.stops.of_eq hids hlaunched hhistory hcount fun id _ => hown id⟩
  exact h.rounds.mapRounds (f := fun round => round) (by simp [hrounds]) hlaunched
    (fun id _ => hends id) hown hlaunch (fun _ => rfl) (fun _ _ hphase => ⟨hphase, rfl⟩)
    fun _ _ hphase => hphase

/-! ## Calling off -/

@[simp]
theorem roundIds_callOff (s : Scheduler σ) (id : JobId) : (s.callOff id).roundIds = s.roundIds := by
  simp only [roundIds, Scheduler.callOff, List.map_map]
  refine List.map_congr_left fun round _ => ?_
  simp only [Function.comp_apply]
  split <;> rfl

/-- To call a round off changes neither its job nor where it stands. -/
theorem TellsRounds.callOff (h : s.TellsRounds) (id : JobId) : (s.callOff id).TellsRounds := by
  have hsame : ∀ round : Round σ,
      (if round.job.id == id then { round with cancelled := true } else round).job = round.job ∧
        (if round.job.id == id then { round with cancelled := true } else round).phase =
          round.phase := by
    intro round
    split <;> exact ⟨rfl, rfl⟩
  refine h.mapRounds rfl rfl (fun _ _ => rfl) (fun _ => rfl) (fun _ => .rfl) (fun round => ?_)
    (fun round _ hphase => ?_) (fun round _ hphase => ?_)
  · rw [(hsame round).1]
  · rw [(hsame round).2] at hphase
    exact ⟨hphase, by rw [(hsame round).1]⟩
  · rw [(hsame round).2]
    exact hphase

theorem Announces.callOff (h : s.Announces opened) (id : JobId) :
    (s.callOff id).Announces opened where
  roster := h.roster.of_eq (roundIds_callOff s id) rfl
  rounds := h.rounds.callOff id
  stops := h.stops.of_eq (roundIds_callOff s id) rfl rfl (fun _ => rfl) fun _ _ => rfl

/-! ## A launch is announced -/

theorem events_launch (s : Scheduler σ) (job : Job) (registration : Registration) :
    (s.launch job registration).around.events =
      s.around.events ++ [.launched job.id job.siteId] := rfl

theorem endings_launch (s : Scheduler σ) (job : Job) (registration : Registration) (id : JobId) :
    (s.launch job registration).around.endings id = s.around.endings id := by
  rw [Surroundings.endings_of_append (events_launch s job registration)]
  simp [ScheduleEvent.end?]

theorem ownEnds_launch (s : Scheduler σ) (job : Job) (registration : Registration) (id : JobId) :
    (s.launch job registration).ownEnds id = s.ownEnds id := by
  rw [ownEnds, endings_launch, ownEnds]

theorem abandonments_launch (s : Scheduler σ) (job : Job) (registration : Registration)
    (id : JobId) : (s.launch job registration).abandonments id = s.abandonments id := by
  rw [abandonments, endings_launch, abandonments]

theorem roundIds_launch (s : Scheduler σ) (job : Job) (registration : Registration) :
    (s.launch job registration).roundIds = s.roundIds ++ [job.id] := by
  simp [roundIds, Scheduler.launch, Round.launch]

/-- The job that is launched next is the only one with its number. -/
theorem number_lt_or_eq (hnumber : job.id = ⟨s.launched⟩) (hlt : id.number < s.launched + 1) :
    id.number < s.launched ∨ id = job.id := by
  obtain ⟨n⟩ := id
  rw [hnumber]
  rcases Nat.lt_succ_iff_lt_or_eq.mp hlt with hlt | rfl
  · exact .inl hlt
  · exact .inr rfl

theorem ne_of_number_lt (hnumber : job.id = ⟨s.launched⟩) (hlt : id.number < s.launched) :
    id ≠ job.id := by
  rintro rfl
  rw [hnumber] at hlt
  exact absurd hlt (Nat.lt_irrefl _)

theorem Roster.launch (h : s.Roster opened) (registration : Registration)
    (hnumber : job.id = ⟨s.launched⟩) :
    (s.launch job registration).Roster (opened ++ [job.id]) := by
  have hnew : ∀ id ∈ s.roundIds, id ≠ job.id := fun id hid =>
    ne_of_number_lt hnumber (h.number_lt id hid)
  refine ⟨?_, ?_, ?_, ?_⟩
  · exact List.nodup_append.mpr ⟨h.opened_nodup, List.nodup_singleton _, fun id hid last hlast =>
      List.mem_singleton.mp hlast ▸ hnew id (h.attended hid)⟩
  · rw [roundIds_launch]
    exact List.nodup_append.mpr ⟨h.roundIds_nodup, List.nodup_singleton _, fun id hid last hlast =>
      List.mem_singleton.mp hlast ▸ hnew id hid⟩
  · rw [roundIds_launch, List.forall_mem_append, List.forall_mem_singleton]
    refine ⟨fun id hid => Nat.lt_succ_of_lt (h.number_lt id hid), ?_⟩
    rw [hnumber]
    exact Nat.lt_succ_self _
  · rw [roundIds_launch]
    exact List.append_subset.mpr ⟨fun id hid => List.mem_append_left _ (h.attended hid), by simp⟩

theorem TellsRounds.launch (h : s.TellsRounds) (registration : Registration)
    (hnumber : job.id = ⟨s.launched⟩) : (s.launch job registration).TellsRounds := by
  refine ⟨fun id => ?_, fun id hle => ?_, ?_, ?_, fun id hlt hgone => ?_⟩
  · have htold : (s.launch job registration).around.HasLaunched id ↔
        s.around.HasLaunched id ∨ id = job.id := by
      simp [Surroundings.HasLaunched, Scheduler.launch, Scheduler.tell, Surroundings.tell,
        exists_or]
    rw [htold, h.launched_iff]
    refine ⟨?_, number_lt_or_eq hnumber⟩
    rintro (hlt | rfl)
    · exact Nat.lt_succ_of_lt hlt
    · rw [hnumber]
      exact Nat.lt_succ_self _
  · rw [endings_launch]
    exact h.unborn id (Nat.le_of_succ_le hle)
  · simp only [Scheduler.launch, List.forall_mem_append, List.forall_mem_singleton]
    refine ⟨fun round hround hphase => ?_, fun _ => ?_⟩
    · exact (ownEnds_launch s job registration _).trans (h.underWay round hround hphase)
    · have hborn := h.unborn job.id (Nat.le_of_eq (congrArg JobId.number hnumber).symm)
      exact (ownEnds_launch s job registration _).trans (by rw [Round.launch, ownEnds, hborn]; rfl)
  · simp only [Scheduler.launch, List.forall_mem_append, List.forall_mem_singleton]
    refine ⟨fun round hround hphase => ?_, fun hphase => by cases hphase⟩
    exact (ownEnds_launch s job registration _).trans (h.leaving round hround hphase)
  · rw [roundIds_launch, List.mem_append, List.mem_singleton, not_or] at hgone
    rw [ownEnds_launch]
    exact h.left id ((number_lt_or_eq hnumber hlt).resolve_right hgone.2) hgone.1

theorem TellsStops.launch (h : s.TellsStops opened) (hrounds : s.TellsRounds)
    (registration : Registration) (hnumber : job.id = ⟨s.launched⟩) :
    (s.launch job registration).TellsStops (opened ++ [job.id]) := by
  refine ⟨?_, fun id hlt hnone => ?_, fun other hother => ?_⟩
  · rw [List.forall_mem_append, List.forall_mem_singleton]
    have hborn := hrounds.unborn job.id (Nat.le_of_eq (congrArg JobId.number hnumber).symm)
    refine ⟨fun id hid => (abandonments_launch ..).trans (h.kept id hid), ?_⟩
    rw [abandonments_launch, abandonments, hborn, List.count_nil]
  · rw [List.mem_append, List.mem_singleton, not_or] at hnone
    rw [abandonments_launch, roundIds_launch, List.mem_append, List.mem_singleton, not_or]
    refine (h.closed id ((number_lt_or_eq hnumber hlt).resolve_right hnone.2) hnone.1).imp_right ?_
    exact fun hclosed => ⟨hclosed.1, hclosed.2, hnone.2⟩
  · rw [abandonments_launch, roundIds_launch, ownEnds_launch, List.mem_append, List.mem_singleton,
      not_or]
    refine (h.recorded other hother).imp_right fun hrecorded => ?_
    have hlt := hrounds.lt_of_ownEnds hrecorded.2.2
    exact ⟨hrecorded.1, ⟨hrecorded.2.1, ne_of_number_lt hnumber hlt⟩, hrecorded.2.2⟩

/-- A launch announces no end, and its job has a number that is new. -/
theorem Announces.launch (h : s.Announces opened) (registration : Registration)
    (hnumber : job.id = ⟨s.launched⟩) :
    (s.launch job registration).Announces (opened ++ [job.id]) :=
  ⟨h.roster.launch registration hnumber, h.rounds.launch registration hnumber,
    h.stops.launch h.rounds registration hnumber⟩

theorem Announces.launchDue (h : s.Announces (s.running.map Job.id)) (due : List Registration) :
    (s.launchDue services due).2.Announces ((s.launchDue services due).2.running.map Job.id) := by
  refine List.foldlRecOn due (consider services)
    (motive := fun progress => progress.2.Announces (progress.2.running.map Job.id)) ?_ ?_
  · exact h.of_eq rfl rfl rfl rfl (by simp [ScheduleEvent.marks])
  · rintro ⟨report, progress⟩ hprogress registration -
    simp only [consider]
    split
    · exact hprogress
    · split
      · exact hprogress.of_eq rfl rfl rfl rfl (by simp [ScheduleEvent.marks])
      · simpa [Scheduler.launch] using hprogress.launch registration rfl

/-! ## A stop announces whom it abandons -/

theorem events_abandon (services : ScheduleServices σ) (s : Scheduler σ) (job : Job) :
    (s.abandon services job).around.events =
      s.around.events ++ [.abandoned job.id job.siteId] := rfl

/-- A stop tells at its end whom it abandons, and that it is over. -/
theorem events_endStop (services : ScheduleServices σ) (s : Scheduler σ) (inFlight : Nat) :
    (s.endStop services inFlight).2.around.events = s.around.events ++
      (s.running.map (fun job => .abandoned job.id job.siteId) ++ [.stopped]) := by
  have habandoned : ∀ (jobs : List Job) (s : Scheduler σ),
      (jobs.foldl (abandon services) s).around.events =
        s.around.events ++ jobs.map fun job => .abandoned job.id job.siteId := by
    intro jobs
    induction jobs with
    | nil => simp
    | cons job rest ih =>
        intro s
        rw [List.foldl_cons, ih, events_abandon, List.map_cons, ← List.append_cons]
  rw [← List.append_assoc, ← habandoned]
  rfl

theorem endings_abandon (services : ScheduleServices σ) (s : Scheduler σ) (job : Job) (id : JobId) :
    (s.abandon services job).around.endings id =
      s.around.endings id ++ if job.id = id then [.cancelled] else [] := by
  rw [Surroundings.endings_of_append (events_abandon services s job)]
  by_cases hid : job.id = id <;> simp [ScheduleEvent.end?, hid]

theorem ownEnds_abandon (services : ScheduleServices σ) (s : Scheduler σ) (job : Job) (id : JobId) :
    (s.abandon services job).ownEnds id = s.ownEnds id := by
  rw [ownEnds, endings_abandon, ownEnds]
  split <;> simp

theorem abandonments_abandon (services : ScheduleServices σ) (s : Scheduler σ) (job : Job)
    (id : JobId) : (s.abandon services job).abandonments id =
      s.abandonments id + if job.id = id then 1 else 0 := by
  rw [abandonments, endings_abandon, abandonments]
  split <;> simp

theorem roundIds_abandon (services : ScheduleServices σ) (s : Scheduler σ) (job : Job) :
    (s.abandon services job).roundIds = s.roundIds := roundIds_callOff s job.id

theorem TellsRounds.abandon (h : s.TellsRounds) (hborn : job.id.number < s.launched) :
    (s.abandon services job).TellsRounds := by
  refine (h.callOff job.id).mapRounds (f := fun round => round) (by simp [Scheduler.abandon,
    Scheduler.remember, Scheduler.tell]) rfl (fun id hle => ?_) (ownEnds_abandon services s job)
    (Surroundings.hasLaunched_of_append (events_abandon services s job) (by simp))
    (fun _ => rfl) (fun _ _ hphase => ⟨hphase, rfl⟩) fun _ _ hphase => hphase
  have hne : job.id ≠ id := by
    rintro rfl
    exact absurd hborn (Nat.not_lt.mpr hle)
  rw [endings_abandon, if_neg hne, List.append_nil]
  rfl

theorem TellsStops.abandon (h : s.TellsStops (job.id :: opened)) (hnew : job.id ∉ opened)
    (hround : job.id ∈ s.roundIds) : (s.abandon services job).TellsStops opened := by
  have hself : s.abandonments job.id = 0 := h.kept job.id List.mem_cons_self
  refine ⟨fun id hid => ?_, fun id hlt hnone => ?_, fun last hlast => ?_⟩
  · have hne : job.id ≠ id := by
      rintro rfl
      exact hnew hid
    rw [abandonments_abandon, if_neg hne, h.kept id (List.mem_cons_of_mem _ hid)]
  · rw [abandonments_abandon, roundIds_abandon]
    by_cases hid : job.id = id
    · subst hid
      exact .inl (by simp [hself])
    · rw [if_neg hid]
      exact h.closed id hlt (List.not_mem_cons_of_ne_of_not_mem (Ne.symm hid) hnone)
  · rw [abandonments_abandon, roundIds_abandon, ownEnds_abandon]
    rcases List.mem_cons.mp (List.mem_of_mem_take hlast) with rfl | hlast
    · refine .inl ⟨rfl, ?_⟩
      show s.abandonments job.id + (if job.id = job.id then 1 else 0) = 1
      rw [hself, if_pos rfl]
    · -- Whoever is remembered already was open no more.
      have hne : job.id ≠ last.id := by
        intro hsame
        rcases h.recorded last hlast with ⟨-, hone⟩ | ⟨-, hgone, -⟩
        · rw [← hsame, hself] at hone
          cases hone
        · exact hgone (hsame ▸ hround)
      rw [if_neg hne]
      exact h.recorded last hlast

/-- To abandon an open job is to announce it, once, and to record it as cancelled. -/
theorem Announces.abandon (h : s.Announces (job.id :: opened)) :
    (s.abandon services job).Announces opened := by
  obtain ⟨hnew, hopened⟩ := List.nodup_cons.mp h.roster.opened_nodup
  obtain ⟨hround, hattended⟩ := List.cons_subset.mp h.roster.attended
  refine ⟨?_, h.rounds.abandon (h.roster.number_lt job.id hround), h.stops.abandon hnew hround⟩
  exact Roster.of_eq ⟨hopened, h.roster.roundIds_nodup, h.roster.number_lt, hattended⟩
    (roundIds_abandon services s job) rfl

theorem Announces.foldl_abandon (jobs : List Job) (h : s.Announces (jobs.map Job.id)) :
    (jobs.foldl (Scheduler.abandon services) s).Announces [] := by
  induction jobs generalizing s with
  | nil => exact h
  | cons job rest ih => exact ih h.abandon

theorem Announces.endStop (h : s.Announces (s.running.map Job.id)) (inFlight : Nat) :
    (s.endStop services inFlight).2.Announces [] :=
  (h.foldl_abandon s.running).of_eq rfl rfl rfl rfl (by simp [ScheduleEvent.marks])

/-! ## A round leaves -/

theorem launched_leave (services : ScheduleServices σ) (round : Round σ) (s : Scheduler σ) :
    (s.leave services round).launched = s.launched := by
  simp only [Scheduler.leave]
  split <;> rfl

theorem running_leave (services : ScheduleServices σ) (round : Round σ) (s : Scheduler σ) :
    (s.leave services round).running.map Job.id =
      (s.running.map Job.id).filter (· != round.job.id) := by
  simp only [Scheduler.leave]
  split <;> simp [Scheduler.remember, List.filter_map, Function.comp_def]

theorem roundIds_leave (services : ScheduleServices σ) (round : Round σ) (s : Scheduler σ) :
    (s.leave services round).roundIds = s.roundIds.filter (· != round.job.id) := by
  simp [roundIds, rounds_leave, List.filter_map, Function.comp_def]

theorem Roster.leave (h : s.Roster opened) :
    (s.leave services round).Roster (opened.filter (· != round.job.id)) where
  opened_nodup := h.opened_nodup.filter _
  roundIds_nodup := roundIds_leave services round s ▸ h.roundIds_nodup.filter _
  number_lt id hid := by
    rw [roundIds_leave] at hid
    rw [launched_leave]
    exact h.number_lt id (List.mem_of_mem_filter hid)
  attended := roundIds_leave services round s ▸ List.filter_subset _ h.attended

theorem TellsRounds.leave (h : s.TellsRounds) (hround : round ∈ s.rounds)
    (hphase : round.phase = .leaving) : (s.leave services round).TellsRounds := by
  have hown : ∀ id, (s.leave services round).ownEnds id = s.ownEnds id :=
    fun id => by rw [ownEnds, world_leave, ownEnds]
  refine ⟨fun id => ?_, fun id hle => ?_, ?_, ?_, fun id hlt hgone => ?_⟩
  · rw [world_leave, launched_leave]
    exact h.launched_iff id
  · rw [launched_leave] at hle
    rw [world_leave]
    exact h.unborn id hle
  · rw [rounds_leave]
    exact fun other hother hbefore =>
      (hown _).trans (h.underWay other (List.mem_of_mem_filter hother) hbefore)
  · rw [rounds_leave]
    exact fun other hother hbefore =>
      (hown _).trans (h.leaving other (List.mem_of_mem_filter hother) hbefore)
  · rw [launched_leave] at hlt
    rw [roundIds_leave, List.mem_filter, bne_iff_ne, not_and, not_ne_iff] at hgone
    rw [hown]
    by_cases hmem : id ∈ s.roundIds
    · obtain rfl := hgone hmem
      exact ⟨_, h.leaving round hround hphase⟩
    · exact h.left id hlt hmem

/-- Only a job that still runs is remembered when its round leaves, and nobody has abandoned it. -/
theorem TellsStops.leave (h : s.TellsStops (s.running.map Job.id))
    (hends : s.ownEnds round.job.id = [round.job.status]) :
    (s.leave services round).TellsStops ((s.running.map Job.id).filter (· != round.job.id)) := by
  have hown : ∀ id, (s.leave services round).ownEnds id = s.ownEnds id :=
    fun id => by rw [ownEnds, world_leave, ownEnds]
  have hcount : ∀ id, (s.leave services round).abandonments id = s.abandonments id :=
    fun id => by rw [abandonments, world_leave, abandonments]
  have hgone : ∀ id ∉ s.roundIds, id ∉ (s.leave services round).roundIds := by
    intro id hid hmem
    rw [roundIds_leave] at hmem
    exact hid (List.mem_of_mem_filter hmem)
  refine ⟨fun id hid => ?_, fun id hlt hnone => ?_, fun job hjob => ?_⟩
  · rw [hcount, h.kept id (List.mem_of_mem_filter hid)]
  · rw [launched_leave] at hlt
    rw [List.mem_filter, bne_iff_ne, not_and, not_ne_iff] at hnone
    rw [hcount]
    by_cases hrun : id ∈ s.running.map Job.id
    · refine .inr ⟨h.kept id hrun, ?_⟩
      rw [roundIds_leave, hnone hrun]
      simp
    · exact (h.closed id hlt hrun).imp_right fun hclosed => ⟨hclosed.1, hgone id hclosed.2⟩
  · have hold : ∀ job ∈ s.history, job.status = .cancelled ∧ s.abandonments job.id = 1 ∨
        s.abandonments job.id = 0 ∧ job.id ∉ (s.leave services round).roundIds ∧
          s.ownEnds job.id = [job.status] := fun job hjob =>
      (h.recorded job hjob).imp_right fun hrecorded =>
        ⟨hrecorded.1, hgone _ hrecorded.2.1, hrecorded.2.2⟩
    rw [hcount, hown]
    simp only [Scheduler.leave] at hjob
    split at hjob
    · rename_i hrun
      obtain ⟨runner, hrunner, hid⟩ := List.any_eq_true.mp hrun
      have hmem : round.job.id ∈ s.running.map Job.id :=
        List.mem_map.mpr ⟨runner, hrunner, beq_iff_eq.mp hid⟩
      rcases List.mem_cons.mp (List.mem_of_mem_take hjob) with rfl | hjob
      · refine .inr ⟨h.kept _ hmem, ?_, hends⟩
        rw [roundIds_leave]
        simp
      · exact hold job hjob
    · exact hold job hjob

/-- A round that leaves has announced its end before, whether it was abandoned or not. -/
theorem Announces.leave (h : s.Announces (s.running.map Job.id)) (hround : round ∈ s.rounds)
    (hphase : round.phase = .leaving) :
    (s.leave services round).Announces ((s.leave services round).running.map Job.id) := by
  rw [running_leave]
  exact ⟨h.roster.leave, h.rounds.leave hround hphase,
    h.stops.leave (h.rounds.leaving round hround hphase)⟩

/-! ## A round announces its end -/

section

variable {around : Surroundings σ} {siteId : String} {summary : JobSummary}

/-- The round of a job gives way to another one for the same job. -/
theorem roundIds_setRound : ({ s with around }.setRound last).roundIds = s.roundIds := by
  simp only [roundIds, Scheduler.setRound, List.map_map]
  refine List.map_congr_left fun other _ => ?_
  simp only [Function.comp_apply]
  split
  · rename_i hsame
    exact (beq_iff_eq.mp hsame).symm
  · rfl

theorem eq_or_mem_of_mem_setRound {other : Round σ} (hid : last.job.id = round.job.id)
    (hother : other ∈ ({ s with around }.setRound last).rounds) :
    other = last ∨ other ∈ s.rounds ∧ other.job.id ≠ round.job.id := by
  obtain ⟨old, hold, rfl⟩ := List.mem_map.mp hother
  by_cases hsame : old.job.id = last.job.id
  · simp [hsame]
  · simp [hsame, hold, hid ▸ hsame]

theorem endings_of_finished (htold : around.events = s.around.events ++
      [.finished round.job.id siteId last.job.status summary]) (id : JobId) :
    around.endings id =
      s.around.endings id ++ if round.job.id = id then [last.job.status] else [] := by
  rw [Surroundings.endings_of_append htold]
  by_cases hid : round.job.id = id <;> simp [ScheduleEvent.end?, hid]

variable (htold : around.events = s.around.events ++
  [.finished round.job.id siteId last.job.status summary])
  (hstatus : last.job.status ≠ .cancelled)

include htold hstatus

theorem ownEnds_setRound (id : JobId) : ({ s with around }.setRound last).ownEnds id =
    s.ownEnds id ++ if round.job.id = id then [last.job.status] else [] := by
  show (around.endings id).filter _ = _
  rw [endings_of_finished htold, ownEnds, List.filter_append]
  split <;> simp [hstatus]

theorem abandonments_setRound (id : JobId) :
    ({ s with around }.setRound last).abandonments id = s.abandonments id := by
  show (around.endings id).count _ = _
  rw [endings_of_finished htold, abandonments, List.count_append]
  split <;> simp [hstatus]

theorem TellsRounds.setRound (h : s.TellsRounds) (hround : round ∈ s.rounds)
    (hlt : round.job.id.number < s.launched) (hbefore : round.phase ≠ .leaving)
    (hid : last.job.id = round.job.id) (hafter : last.phase = .leaving) :
    ({ s with around }.setRound last).TellsRounds := by
  refine ⟨fun id => ?_, fun id hle => ?_, fun other hmem hphase => ?_, fun other hmem hphase => ?_,
    fun id hborn hgone => ?_⟩
  · exact (Surroundings.hasLaunched_of_append htold (by simp) id).trans (h.launched_iff id)
  · have hne : round.job.id ≠ id := by
      rintro rfl
      exact absurd hlt (Nat.not_lt.mpr hle)
    show around.endings id = []
    rw [endings_of_finished htold, h.unborn id hle, if_neg hne, List.append_nil]
  · rcases eq_or_mem_of_mem_setRound hid hmem with rfl | ⟨hmem, hne⟩
    · exact absurd hafter hphase
    · rw [ownEnds_setRound htold hstatus, h.underWay other hmem hphase, if_neg (Ne.symm hne),
        List.append_nil]
  · rcases eq_or_mem_of_mem_setRound hid hmem with rfl | ⟨hmem, hne⟩
    · rw [ownEnds_setRound htold hstatus, hid, h.underWay round hround hbefore, if_pos rfl,
        List.nil_append]
    · rw [ownEnds_setRound htold hstatus, h.leaving other hmem hphase, if_neg (Ne.symm hne),
        List.append_nil]
  · rw [roundIds_setRound] at hgone
    have hne : round.job.id ≠ id := by
      rintro rfl
      exact hgone (mem_roundIds hround)
    rw [ownEnds_setRound htold hstatus, if_neg hne, List.append_nil]
    exact h.left id hborn hgone

/-- A round comes to the point of leaving by announcing its end, which it has not done before. -/
theorem Announces.setRound (h : s.Announces opened) (hround : round ∈ s.rounds)
    (hbefore : round.phase ≠ .leaving) (hid : last.job.id = round.job.id)
    (hafter : last.phase = .leaving) : ({ s with around }.setRound last).Announces opened where
  roster := h.roster.of_eq roundIds_setRound rfl
  rounds := h.rounds.setRound htold hstatus hround
    (h.roster.number_lt _ (mem_roundIds hround)) hbefore hid hafter
  stops := by
    refine h.stops.of_eq roundIds_setRound rfl rfl (abandonments_setRound htold hstatus)
      fun id hgone => ?_
    have hne : round.job.id ≠ id := by
      rintro rfl
      exact hgone (mem_roundIds hround)
    rw [ownEnds_setRound htold hstatus, if_neg hne, List.append_nil]

end

/-- A round goes on without coming to the point of leaving, and makes remarks at most. -/
theorem Announces.goOn (h : s.Announces opened) (hround : round ∈ s.rounds)
    (hbefore : round.phase ≠ .leaving) (hid : last.job.id = round.job.id)
    (hafter : last.phase ≠ .leaving) {around : Surroundings σ} {told : List ScheduleEvent}
    (htold : around.events = s.around.events ++ told)
    (hmarks : ∀ event ∈ told, event.marks = false) :
    ({ s with around }.setRound last).Announces opened := by
  have hends : ∀ id, around.endings id = s.around.endings id :=
    Surroundings.endings_of_not_marks htold hmarks
  have hown : ∀ id, ({ s with around }.setRound last).ownEnds id = s.ownEnds id := fun id =>
    congrArg (List.filter _) (hends id)
  refine ⟨h.roster.of_eq roundIds_setRound rfl, ?_,
    h.stops.of_eq roundIds_setRound rfl rfl (fun id => congrArg (List.count _) (hends id))
      fun id _ => hown id⟩
  refine h.rounds.mapRounds rfl rfl (fun id _ => hends id) hown
    (Surroundings.hasLaunched_of_append htold (Surroundings.not_mem_launched_of_marks hmarks))
    (fun other => ?_) (fun other hother hleaving => ?_) (fun other hother hleaving => ?_)
  · split
    · rename_i hsame
      exact (beq_iff_eq.mp hsame).symm
    · rfl
  · split at hleaving
    · exact absurd hleaving hafter
    · rename_i hne
      rw [if_neg hne]
      exact ⟨hleaving, rfl⟩
  · rw [if_neg]
    · exact hleaving
    · rw [beq_iff_eq, hid]
      intro hsame
      exact hbefore (h.roster.eq_of_id_eq hround hother hsame ▸ hleaving)

theorem Announces.stepRound (h : s.Announces (s.running.map Job.id)) (id : JobId) (elapsed : Nat) :
    (s.stepRound services id elapsed).Announces
      ((s.stepRound services id elapsed).running.map Job.id) := by
  cases hfound : s.round? id with
  | none => rwa [stepRound_of_none hfound]
  | some round =>
      have hround : round ∈ s.rounds := List.mem_of_find?_eq_some hfound
      by_cases hphase : round.phase = .leaving
      · rw [stepRound_eq_leave hfound hphase]
        exact h.leave hround hphase
      · rw [stepRound_eq_step hfound hphase]
        have hid := Round.step_job_id services elapsed round s.around
        obtain ⟨told, htold, ⟨hnext, hmarks⟩ | ⟨hnext, siteId, summary, rfl⟩⟩ :=
          Round.exists_told_step services elapsed s.around hphase
        · exact h.goOn hround hphase hid hnext htold hmarks
        · exact h.setRound htold (Round.isDone_of_step_leaving hphase hnext).1.ne_cancelled hround
            hphase hid hnext

/-! ## Courses -/

theorem Announces.after {c : Course σ}
    (h : c.scheduler.Announces (c.scheduler.running.map Job.id)) (happening : Happening σ) :
    (c.after services happening).scheduler.Announces
      ((c.after services happening).scheduler.running.map Job.id) := by
  cases happening with
  | start =>
      simp only [Course.after, Scheduler.start]
      split
      · exact h
      · exact h.of_eq rfl rfl rfl rfl (by simp [ScheduleEvent.marks])
  | unwant => exact h.of_eq rfl rfl rfl (List.append_nil _).symm (by simp)
  | announceStop => exact h.of_eq rfl rfl rfl rfl (by simp [ScheduleEvent.marks])
  | endStop inFlight => exact h.endStop inFlight
  | read =>
      simp only [Course.after, Course.read]
      split <;> exact h
  | launch place =>
      simp only [Course.after, Course.launch]
      split
      · exact h
      · exact h.launchDue _
  | advance job elapsed => exact h.stepRound job elapsed
  | callOff job => exact h.callOff job
  | planTick next => exact h.of_eq rfl rfl rfl (List.append_nil _).symm (by simp)
  | elsewhere change =>
      exact h.of_eq rfl rfl rfl (List.append_nil _).symm (by simp)

theorem announces_of_course (services : ScheduleServices σ) (world : σ)
    (happenings : List (Happening σ)) :
    ((Course.fresh world).run services happenings).scheduler.Announces
      (((Course.fresh world).run services happenings).scheduler.running.map Job.id) :=
  Course.run_induction
    (motive := fun c => c.scheduler.Announces (c.scheduler.running.map Job.id))
    (announces_fresh world) (fun _ happening hc => hc.after happening) happenings

end Scheduler

end SiteWatch
