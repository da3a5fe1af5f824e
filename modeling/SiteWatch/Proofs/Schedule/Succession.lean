/-
# Jobs one after another

Jobs of different sites that take their steps in any order leave the same behind as when they run
one after another. They can be run so in any order of the jobs, if there is a day for the next round
of each and no wait of a scrape is without end: a job that alone takes steps, and is given the time
that it waits for, comes to its end, and the others stay where they are.
-/

import SiteWatch.Proofs.Schedule.Independence

namespace SiteWatch

variable {σ α : Type}

/-! ## Work whose waits are bounded -/

namespace Activity

/-- Work none of whose waits is longer than a number of milliseconds. -/
def WaitsWithin (limit : Nat) : Activity σ α → Prop
  | done _ => True
  | act _ next => ∀ s, (next s).WaitsWithin limit
  | wait pause next =>
    pause.after.any (· ≤ limit) = true ∧ ∀ wake elapsed, (next wake elapsed).WaitsWithin limit

/-- A wait is over when its time is up. -/
theorem exists_wakeNow? {pause : Pause σ} {limit : Nat}
    (hafter : pause.after.any (· ≤ limit) = true) (cancelled : Bool) (s : σ) :
    ∃ wake, wakeNow? pause cancelled limit s = some wake := by
  unfold wakeNow?
  rw [if_pos hafter]
  split
  · exact ⟨_, rfl⟩
  · split <;> exact ⟨_, rfl⟩

theorem WaitsWithin.resume {limit : Nat} {work : Activity σ α} (hwork : work.WaitsWithin limit)
    (cancelled : Bool) (elapsed : Nat) (s : σ) :
    (work.resume cancelled elapsed s).1.WaitsWithin limit := by
  induction work generalizing elapsed s with
  | done value => trivial
  | act update next ih => exact ih s (hwork s) elapsed (update s)
  | wait pause next ih =>
      unfold Activity.resume
      split
      · exact ih _ _ (hwork.2 _ _) 0 s
      · exact hwork

theorem WaitsWithin.answering {limit : Nat} {work : Activity σ ScrapeResult}
    (hwork : work.WaitsWithin limit) : work.answering.WaitsWithin limit := by
  induction work with
  | done result => exact fun _ => trivial
  | act update next ih => exact fun w => ih w.2 (hwork w.2)
  | wait pause next ih =>
      exact ⟨hwork.1, fun wake elapsed => ih wake elapsed (hwork.2 wake elapsed)⟩

end Activity

/-! ## Rounds that come to their end -/

theorem Phase.eq_leaving_of_plain {habits : Habits} {phase : Phase σ}
    (hplain : phase.plain habits = .leaving) : phase = .leaving := by
  cases phase <;> first | rfl | cases hplain

theorem Phase.eq_lost_of_plain {habits : Habits} {phase : Phase σ}
    (hplain : phase.plain habits = .lost) : phase = .lost := by
  cases phase <;> first | rfl | cases hplain

namespace Round

variable {services : ScheduleServices σ} {view : σ → Register} {habits : Habits} {limit : Nat}

/-- A round breaks off only when there is no day for the next one. -/
theorem lost_step {services : ScheduleServices σ} {elapsed : Nat} {round : Round σ}
    {s : Surroundings σ} (hlost : (round.step services elapsed s).1.phase = .lost) :
    round.phase = .lost ∨
      (services.now s.world).plusDays? round.registration.checkIntervalDays = none := by
  cases hphase : round.phase with
  | starting => simp [step, hphase, start] at hlost
  | choosing urls => cases urls <;> simp [step, hphase, choose] at hlost
  | scraping url rest work =>
      simp only [step, hphase, proceed] at hlost
      split at hlost <;> cases hlost
  | received url rest result => simp [step, hphase, receive] at hlost
  | concluding =>
      simp only [step, hphase, conclude] at hlost
      split at hlost <;> cases hlost
  | finishing =>
      simp only [step, hphase, finish] at hlost
      split at hlost
      · rename_i hnone
        simp only [Registration.markFinished?, Bookkeeping.finished?,
          Option.map_eq_none_iff] at hnone
        exact .inr hnone
      · cases hlost
  | reporting | leaving => simp [step, hphase, report] at hlost
  | lost => exact .inl rfl

/-- An orderly round that comes to its end if it is given time: it has not broken off, there is
always a day for the next one, and its scrape waits no longer than a number of milliseconds. -/
structure CanGoOn (services : ScheduleServices σ) (view : σ → Register) (habits : Habits)
    (limit : Nat) (round : Round (Logged σ)) : Prop extends round.IsOrderly view habits where
  going : round.phase ≠ .lost
  dates : ∀ world, ((services.now world).plusDays? round.registration.checkIntervalDays).isSome
  waits : ∀ url rest work, round.phase = .scraping url rest work → work.WaitsWithin limit

theorem CanGoOn.step (hservices : services.HasHabits view habits)
    (hscrapes : ∀ url,
      (services.scrape { url : ScrapeRequest }.withoutCache).WaitsWithin limit)
    {round : Round (Logged σ)} (hround : round.CanGoOn services view habits limit) (elapsed : Nat)
    (s : Surroundings (Logged σ)) :
    (round.step services.logged elapsed s).1.CanGoOn services view habits limit where
  toIsOrderly := hround.toIsOrderly.step hservices elapsed s
  going := by
    intro hlost
    obtain hbefore | hnone := lost_step hlost
    · exact hround.going hbefore
    · have hdate := hround.dates s.world.2
      rw [ScheduleServices.now_logged] at hnone
      rw [hnone] at hdate
      cases hdate
  dates := by
    rw [(fixed_step ..).2]
    exact hround.dates
  waits := by
    intro url rest work hafter
    obtain rfl | ⟨before, hphase, rfl⟩ := scraping_step hafter
    · exact fun _ => (hscrapes url).answering
    · exact (hround.waits url rest before hphase).resume round.cancelled elapsed s.world

end Round

/-! ## One job at work -/

namespace Happening

/-- A step of a job, or something that happens elsewhere. -/
def IsOf (job : JobId) : Happening σ → Prop
  | .advance other _ => other = job
  | .elsewhere _ => True
  | _ => False

end Happening

namespace Course

variable {services : ScheduleServices σ} {view : σ → Register} {habits : Habits} {limit : Nat}
  {c d e : Course (Logged σ)} {job other : JobId} {round : Round (Logged σ)}

/-- One job takes some steps. -/
def Advances (services : ScheduleServices σ) (job : JobId) (d e : Course (Logged σ)) : Prop :=
  ∃ turns : List Nat, e = d.run services.logged (turns.map (.advance job))

theorem Advances.rfl : Advances services job d d := ⟨[], Eq.refl _⟩

theorem Advances.trans (hfirst : Advances services job c d) (hsecond : Advances services job d e) :
    Advances services job c e := by
  obtain ⟨turns, rfl⟩ := hfirst
  obtain ⟨more, rfl⟩ := hsecond
  exact ⟨turns ++ more, by rw [List.map_append, run_append]⟩

theorem advances_step (services : ScheduleServices σ) (d : Course (Logged σ)) (job : JobId)
    (elapsed : Nat) : Advances services job d (d.after services.logged (.advance job elapsed)) :=
  ⟨[elapsed], Eq.refl _⟩

/-- The steps of one job leave the rounds of all others alone. -/
theorem Advances.round?_eq (hadvances : Advances services job d e) (hother : other ≠ job) :
    e.scheduler.round? other = d.scheduler.round? other := by
  obtain ⟨turns, rfl⟩ := hadvances
  induction turns generalizing d with
  | nil => rfl
  | cons elapsed turns ih =>
      rw [List.map_cons, run_cons, ih]
      exact Scheduler.round?_stepRound_of_ne services.logged hother elapsed d.scheduler

/-- Jobs take their turns one after another: all that is done for the first one comes before
anything is done for the second, and so on. -/
inductive OneAfterAnother : List JobId → List (Happening σ) → Prop where
  | nil : OneAfterAnother [] []
  | cons {job : JobId} {order : List JobId} {part rest : List (Happening σ)}
      (hpart : ∀ happening ∈ part, happening.IsOf job) (hrest : OneAfterAnother order rest) :
      OneAfterAnother (job :: order) (part ++ rest)

/-- A job at work: the round that it is at, in some state of the scheduler. -/
structure IsAt (services : ScheduleServices σ) (view : σ → Register) (habits : Habits)
    (limit : Nat) (job : JobId) (d : Course (Logged σ)) (round : Round (Logged σ)) : Prop where
  round?_eq : d.scheduler.round? job = some round
  canGoOn : round.CanGoOn services view habits limit

section

variable (hservices : services.HasHabits view habits)
  (hscrapes : ∀ url, (services.scrape { url : ScrapeRequest }.withoutCache).WaitsWithin limit)

include hservices hscrapes

/-- A job that does not leave takes a step. -/
theorem IsAt.advance (hat : IsAt services view habits limit job d round)
    (hmoves : round.phase ≠ .leaving) (elapsed : Nat) :
    IsAt services view habits limit job (d.after services.logged (.advance job elapsed))
      (round.step services.logged elapsed d.scheduler.around).1 ∧
    (d.after services.logged (.advance job elapsed)).world =
      (round.step services.logged elapsed d.scheduler.around).2.world := by
  have hstep : (d.after services.logged (.advance job elapsed)).scheduler = _ :=
    Scheduler.stepRound_eq_step hat.round?_eq hmoves elapsed
  refine ⟨⟨?_, hat.canGoOn.step hservices hscrapes elapsed d.scheduler.around⟩, ?_⟩
  · rw [hstep]
    refine Scheduler.round?_setRound_self hat.round?_eq ?_
    rw [Round.step_job_id, Scheduler.job_id_of_round? hat.round?_eq]
  · rw [world, hstep]
    rfl

/-- A scrape that is under way is answered if it is given the time that it waits for. -/
theorem IsAt.exists_answered (work : Activity (Logged σ) ScrapeResult) {url : String}
    {rest : List String} (elapsed : Nat) (w : Logged σ)
    (hat : IsAt services view habits limit job d round)
    (hphase : round.phase = .scraping url rest (work.resume false elapsed w).1) :
    ∃ e later, Advances services job d e ∧ IsAt services view habits limit job e later ∧
      later.alone view habits e.world = Round.next habits (round.alone view habits d.world) := by
  -- The induction is on the work of the scrape before the last step, which left it where it waits;
  -- one step with the bound of the waits brings it past that wait, to a smaller tree.
  induction work generalizing elapsed w d round with
  | done result =>
      obtain ⟨hlater, hworld⟩ := hat.advance hservices hscrapes (by simp [hphase]) limit
      obtain hnext | ⟨⟨hwaits, -⟩, -⟩ := Round.alone_step_of_scraping services
        hat.canGoOn.toIsOrderly hphase limit d.scheduler.around
      · exact ⟨_, _, advances_step services d job limit, hlater, by rw [hworld, hnext]; rfl⟩
      · exact absurd rfl (hwaits result)
  | act update next ih => exact ih w elapsed (update w) hat hphase
  | wait pause next ih =>
      cases hwake : Activity.wakeNow? pause false elapsed w with
      | some wake =>
          rw [Activity.resume, hwake] at hphase
          exact ih wake elapsed 0 w hat hphase
      | none =>
          rw [Activity.resume, hwake] at hphase
          obtain ⟨wake, hwoken⟩ := Activity.exists_wakeNow?
            (hat.canGoOn.waits url rest _ hphase).1 false d.world
          obtain ⟨hlater, hworld⟩ := hat.advance hservices hscrapes (by simp [hphase]) limit
          obtain hnext | ⟨⟨-, hafter⟩, hstays⟩ := Round.alone_step_of_scraping
            services hat.canGoOn.toIsOrderly hphase limit d.scheduler.around
          · exact ⟨_, _, advances_step services d job limit, hlater, by rw [hworld, hnext]; rfl⟩
          · have hgone : (Activity.wait pause next).resume false limit d.world =
                (next wake limit).resume false 0 d.world := by rw [Activity.resume, hwoken]
            rw [← world, hgone] at hafter
            obtain ⟨e, last, hadvances, hlast, halone⟩ := ih wake limit 0 d.world hlater hafter
            refine ⟨e, last, (advances_step services d job limit).trans hadvances, hlast, ?_⟩
            rw [halone, hworld, hstays]
            rfl

/-- A job that is given time takes the next step of its round by itself. -/
theorem IsAt.exists_next (hat : IsAt services view habits limit job d round)
    (hmoves : round.phase ≠ .leaving) :
    ∃ e later, Advances services job d e ∧ IsAt services view habits limit job e later ∧
      later.alone view habits e.world = Round.next habits (round.alone view habits d.world) := by
  by_cases hscraping : ∃ url rest work, round.phase = .scraping url rest work
  · obtain ⟨url, rest, work, hphase⟩ := hscraping
    obtain ⟨hlater, hworld⟩ := hat.advance hservices hscrapes hmoves limit
    obtain hnext | ⟨⟨-, hafter⟩, hstays⟩ := Round.alone_step_of_scraping
      services hat.canGoOn.toIsOrderly hphase limit d.scheduler.around
    · exact ⟨_, _, advances_step services d job limit, hlater, by rw [hworld, hnext]; rfl⟩
    · obtain ⟨e, last, hadvances, hlast, halone⟩ :=
        IsAt.exists_answered hservices hscrapes work limit d.world hlater hafter
      refine ⟨e, last, (advances_step services d job limit).trans hadvances, hlast, ?_⟩
      rw [halone, hworld, hstays]
      rfl
  · obtain ⟨hlater, hworld⟩ := hat.advance hservices hscrapes hmoves limit
    refine ⟨_, _, advances_step services d job limit, hlater, ?_⟩
    rw [hworld]
    refine Round.alone_step hservices ?_ limit d.scheduler.around hlater.canGoOn.going
    exact fun url rest work hphase => hscraping ⟨url, rest, work, hphase⟩

/-- A job that is given time comes to its end. -/
theorem IsAt.exists_leaving (hat : IsAt services view habits limit job d round) {steps : Nat}
    (hsteps : ((Round.next habits)^[steps] (round.alone view habits d.world)).1.phase = .leaving) :
    ∃ e later, Advances services job d e ∧ IsAt services view habits limit job e later ∧
      later.phase = .leaving := by
  induction steps generalizing d round with
  | zero => exact ⟨d, round, .rfl, hat, Phase.eq_leaving_of_plain hsteps⟩
  | succ steps ih =>
      by_cases hleaving : round.phase = .leaving
      · exact ⟨d, round, .rfl, hat, hleaving⟩
      · obtain ⟨e, later, hadvances, hlater, halone⟩ :=
          hat.exists_next hservices hscrapes hleaving
        rw [Function.iterate_succ_apply, ← halone] at hsteps
        obtain ⟨f, last, hmore, hlast, hend⟩ := ih hlater hsteps
        exact ⟨f, last, hadvances.trans hmore, hlast, hend⟩

/-- A job that is given time leaves. -/
theorem IsAt.exists_left (hat : IsAt services view habits limit job d round) :
    ∃ e, Advances services job d e ∧ e.scheduler.round? job = none := by
  have hgoing : (round.alone view habits d.world).1.phase ≠ .lost :=
    fun hlost => hat.canGoOn.going (Phase.eq_lost_of_plain hlost)
  obtain ⟨steps, hsteps⟩ := Round.exists_leaving (Round.plain_plain habits round) hgoing
  obtain ⟨e, later, hadvances, hlater, hleaving⟩ :=
    hat.exists_leaving hservices hscrapes hsteps
  refine ⟨_, hadvances.trans (advances_step services e job 0), ?_⟩
  obtain rfl := Scheduler.job_id_of_round? hlater.round?_eq
  show (e.scheduler.stepRound services.logged later.job.id 0).round? later.job.id = none
  rw [Scheduler.stepRound_eq_leave hlater.round?_eq hleaving]
  exact Scheduler.round?_leave_self services.logged later e.scheduler

/-- Jobs that are given time can take their turns one after another, until all of them have left. -/
theorem exists_oneAfterAnother (order : List JobId)
    (hrounds : ∀ job round, d.scheduler.round? job = some round →
      round.CanGoOn services view habits limit) :
    ∃ happenings, OneAfterAnother order happenings ∧
      (∀ happening ∈ happenings, happening.IsPeaceful view) ∧
      (∀ job ∈ order, (d.run services.logged happenings).scheduler.round? job = none) ∧
      ∀ job, job ∉ order →
        (d.run services.logged happenings).scheduler.round? job = d.scheduler.round? job := by
  induction order generalizing d with
  | nil => exact ⟨[], .nil, by simp, by simp, fun _ _ => rfl⟩
  | cons job order ih =>
      obtain ⟨e, ⟨turns, rfl⟩, hleft⟩ :
          ∃ e, Advances services job d e ∧ e.scheduler.round? job = none := by
        cases hround : d.scheduler.round? job with
        | none => exact ⟨d, .rfl, hround⟩
        | some round =>
            exact IsAt.exists_left hservices hscrapes ⟨hround, hrounds job round hround⟩
      have hstays : ∀ other, other ≠ job →
          (d.run services.logged (turns.map (.advance job))).scheduler.round? other =
            d.scheduler.round? other :=
        fun other hother => Advances.round?_eq ⟨turns, rfl⟩ hother
      obtain ⟨rest, hrest, hpeaceful, hdone, hothers⟩ := ih (by
        intro other round hround
        by_cases hother : other = job
        · rw [hother, hleft] at hround
          cases hround
        · exact hrounds other round (hstays other hother ▸ hround))
      refine ⟨turns.map (.advance job) ++ rest, .cons ?_ hrest, ?_, ?_, ?_⟩
      · simp [Happening.IsOf]
      · intro happening hhappening
        obtain hfirst | hlater := List.mem_append.mp hhappening
        · obtain ⟨elapsed, -, rfl⟩ := List.mem_map.mp hfirst
          trivial
        · exact hpeaceful happening hlater
      · intro other hother
        rw [run_append]
        by_cases hmem : other ∈ order
        · exact hdone other hmem
        · rw [hothers other hmem, (List.mem_cons.mp hother).resolve_right hmem, hleft]
      · intro other hother
        obtain ⟨hne, hmem⟩ := List.ne_and_not_mem_of_not_mem_cons hother
        rw [run_append, hothers other hmem, hstays other hne]

/-- In whatever order of the jobs, they can run one after another to the end of the last one. -/
theorem exists_completes (hlaunched : c.HasLaunched)
    (hdates : ∀ round ∈ c.scheduler.rounds, ∀ world,
      ((services.now world).plusDays? round.registration.checkIntervalDays).isSome)
    {order : List JobId} (horder : order.Perm (c.scheduler.rounds.map (·.job.id))) :
    ∃ alone, OneAfterAnother order alone ∧ c.Completes services view alone := by
  have hbegun := tracks_launched view habits hlaunched
  obtain ⟨alone, hturns, hpeaceful, hdone, -⟩ := exists_oneAfterAnother (d := c)
    hservices hscrapes order (by
      intro job round hround
      have hmem : round ∈ c.scheduler.rounds := List.mem_of_find?_eq_some hround
      have hstarting : round.phase = .starting := by rw [hlaunched.starting round hmem]; rfl
      exact ⟨hbegun.orderly round hmem, by simp [hstarting], hdates round hmem,
        by simp [hstarting]⟩)
  refine ⟨alone, hturns, hpeaceful, ?_⟩
  rw [List.eq_nil_iff_forall_not_mem]
  intro round hround
  obtain ⟨first, hfirst, hid, -⟩ :=
    (tracks_run hservices hlaunched hbegun hpeaceful).launched round hround
  have hnone := hdone first.job.id (horder.mem_iff.mpr (List.mem_map_of_mem hfirst))
  exact absurd hid.symm (by simpa using List.find?_eq_none.mp hnone round hround)

end

/-- Jobs of different sites do not interfere. However the jobs that were launched take their steps,
to the end of the last one, they leave the same behind as when they run one after another: whatever
the order of the jobs, every such run leaves the same register, apart from times of day, the same
results and the same notices of each site, in the same order, and the same jobs with their states,
errors and summaries. There is such a run where no wait of a scrape is without end and there is a
day for the next round of each job. -/
theorem legacy_eq_of_oneAfterAnother (hservices : services.HasHabits view habits)
    (hlaunched : c.HasLaunched) (hids : ((view c.world.2).map Registration.id).Nodup)
    {mixed : List (Happening (Logged σ))} (hmixed : c.Completes services view mixed)
    {order : List JobId} (horder : order.Perm (c.scheduler.rounds.map (·.job.id))) :
    (∀ alone, OneAfterAnother order alone → c.Completes services view alone →
      c.legacy services view mixed = c.legacy services view alone) ∧
    ∀ limit,
      (∀ url, (services.scrape { url : ScrapeRequest }.withoutCache).WaitsWithin limit) →
      (∀ round ∈ c.scheduler.rounds, ∀ world,
        ((services.now world).plusDays? round.registration.checkIntervalDays).isSome) →
      ∃ alone, OneAfterAnother order alone ∧ c.Completes services view alone :=
  ⟨fun _ _ halone => legacy_eq hservices hlaunched hids hmixed halone,
    fun _ hscrapes hdates => exists_completes hservices hscrapes hlaunched hdates horder⟩

end Course

/-! ## Two jobs -/

namespace Rehearsal.Clockwork

/-- What the scrape of a page brings: the address as the title. -/
def answer (url : String) : ScrapeResult := .succeeded url [("title", .string url)] {} ⟨0, 0⟩

/-- Services around a register, before or after noon. Scrapes take ten milliseconds, and no notice
gets through. -/
def services : ScheduleServices (Bool × Register) where
  settings := {}
  now w := ⟨if w.1 then 43200 else 0, 0⟩
  register w := .ok w.2
  record siteId history w := (.ok (w.2.has siteId), w.1, w.2.record siteId history)
  scrape request := .wait { after := some 10 } fun _ _ => .done (answer request.url)
  save siteId _ w := (.ok s!"{siteId}.json", w)
  notify _ w := (.error (.networkFailed "connection refused"), w)

def habits : Habits where
  answer := answer
  recordFault _ := none
  saveFault _ _ := none
  notifyFault _ := some (.networkFailed "connection refused")

theorem hasHabits : services.HasHabits Prod.snd habits where
  register_ok := by
    intro w registrations hregister
    exact (Except.ok.inj hregister).symm
  record_taken := fun _ _ _ _ => rfl
  record_refused := by
    intro siteId history w hrefused
    apply Register.record_of_not_has
    simpa [services] using hrefused
  save := fun _ _ _ => rfl
  notify := fun _ _ => rfl
  scrape := fun _ _ _ => trivial
  scrape_answers := fun _ _ _ _ => rfl
  record_answer := fun _ _ _ => rfl
  save_fault := fun _ _ _ => rfl
  notify_fault := fun _ _ => rfl

def events : Registration := { site := { id := "events", domain := "example.com" } }

def news : Registration :=
  { site := { id := "news", domain := "example.org" }, checkIntervalDays := 7 }

/-- Two jobs that were just launched, in the morning. -/
def launched : Course (Logged (Bool × Register)) where
  scheduler := {
    around := { world := ([], false, [events, news]) }
    rounds := [
      Round.launch ((Job.create ⟨0⟩ "events" ⟨0, 0⟩).start ⟨0, 0⟩) events,
      Round.launch ((Job.create ⟨1⟩ "news" ⟨0, 0⟩).start ⟨0, 0⟩) news] }

/-- The jobs take turns; after the first turns it is noon. -/
def mixed : List (Happening (Logged (Bool × Register))) :=
  [.advance ⟨0⟩ 0, .advance ⟨1⟩ 0, .elsewhere fun w => (w.1, true, w.2.2)] ++
    (List.replicate 9 [.advance ⟨0⟩ 10, .advance ⟨1⟩ 10]).flatten

theorem launched_hasLaunched : launched.HasLaunched where
  starting := by simp [launched, Round.launch]
  jobs_nodup := by decide
  sites_nodup := by decide

theorem completes_mixed : launched.Completes services Prod.snd mixed where
  peaceful := by simp [mixed, Happening.IsPeaceful]
  rounds_eq := List.isEmpty_iff.mp (by decide +kernel)

/-- The jobs leave the same behind as when the second one runs before the first one. -/
theorem legacy_mixed_eq :
    ∃ alone, Course.OneAfterAnother [⟨1⟩, ⟨0⟩] alone ∧ launched.Completes services Prod.snd alone ∧
      launched.legacy services Prod.snd mixed = launched.legacy services Prod.snd alone := by
  have horder : List.Perm [⟨1⟩, ⟨0⟩] (launched.scheduler.rounds.map (·.job.id)) := .swap ..
  obtain ⟨hsame, hexists⟩ := Course.legacy_eq_of_oneAfterAnother hasHabits launched_hasLaunched
    (by decide) completes_mixed horder
  have hdates : ∀ round ∈ launched.scheduler.rounds, ∀ w,
      ((services.now w).plusDays? round.registration.checkIntervalDays).isSome := by
    rintro round hround ⟨afternoon, register⟩
    simp only [launched, List.mem_cons, List.not_mem_nil, or_false] at hround
    rcases hround with rfl | rfl <;> cases afternoon <;> rfl
  obtain ⟨alone, hturns, halone⟩ := hexists 10 (fun url => ⟨rfl, fun _ _ => trivial⟩) hdates
  exact ⟨alone, hturns, halone, hsame alone hturns halone⟩

end Rehearsal.Clockwork

end SiteWatch
