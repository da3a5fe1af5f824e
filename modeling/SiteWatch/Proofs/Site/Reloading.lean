/-
# Reloads that overtake each other

Several callers share one folder of sites, while its directory is edited. A question that finds no
snapshot waits for a lock, and holds it while it loads the directory and until it has put its snapshot in
place. A reload loads the directory without the lock and takes it only to put its snapshot in place, so
that another reload may come between.

Each load sees the directory after a number of edits, and by these numbers snapshots are told to be older
or newer. What is invariant is that no snapshot is older than the beginning of any reload that is done.
A question never breaks it, since it puts a snapshot in place only where there was none, and then no
reload is done. A reload breaks it exactly if it has been overtaken: if what it has seen is older than the
beginning of another one that is done by now.
-/

import Mathlib.Data.List.Induction
import Mathlib.Logic.Function.Basic
import SiteWatch.Proofs.Outcome
import SiteWatch.Site.Folder

namespace SiteWatch

/-! ## Questions -/

/-- A question to a source of sites. -/
inductive SiteQuestion where
  | list
  | resolve (url : Url)

/-- The answer to a question. -/
inductive SiteAnswer where
  | all (sites : List Site)
  | one (site : Option Site)

/-- The answer from sites. -/
def SiteQuestion.answer (sites : List Site) : SiteQuestion → SiteAnswer
  | list => .all sites
  | resolve url => .one (Site.bestFor? sites url)

/-- Ask a folder that nobody else uses. -/
def SiteFolder.ask (files : Files) (folder : SiteFolder) :
    SiteQuestion → Outcome SiteAnswer × SiteFolder
  | .list => ((folder.current files).1.map .all, (folder.current files).2)
  | .resolve url => ((folder.resolve files url).1.map .one, (folder.resolve files url).2)

theorem SiteFolder.ask_eq (files : Files) (folder : SiteFolder) (question : SiteQuestion) :
    folder.ask files question =
      ((folder.current files).1.map question.answer, (folder.current files).2) := by
  cases question with
  | list => rfl
  | resolve url =>
      simp only [ask, resolve]
      cases (folder.current files).1 <;> rfl

/-! ## Calls in steps -/

/-- The sites of a directory as a load has seen them. -/
structure Sighting where
  sites : List Site
  /-- How often the directory had been edited. -/
  edits : Nat

/-- A question that a caller has asked. -/
structure Asked where
  question : SiteQuestion
  /-- After how many edits the reloads had begun that were done by then. -/
  settled : List Nat

/-- How far a caller has come. -/
inductive Progress where
  | idle
  | asking (asked : Asked)
  /-- It has found no snapshot and waits for the lock. -/
  | queueing (asked : Asked)
  /-- It holds the lock. -/
  | looking (asked : Asked)
  /-- It holds the lock and has seen the directory. -/
  | keeping (asked : Asked) (seen : Sighting)
  /-- It has begun a reload after so many edits. -/
  | reloading (since : Nat)
  /-- It has seen the directory and waits for the lock. -/
  | reloaded (since : Nat) (seen : Sighting)

namespace Progress

/-- Whether a caller is to hold the lock. -/
def holds : Progress → Bool
  | looking _ | keeping _ _ => true
  | idle | asking _ | queueing _ | reloading _ | reloaded _ _ => false

/-- The question of a caller. -/
def asked? : Progress → Option Asked
  | asking asked | queueing asked | looking asked | keeping asked _ => some asked
  | idle | reloading _ | reloaded _ _ => none

/-- After how many edits the reload of a caller has begun. -/
def since? : Progress → Option Nat
  | reloading since | reloaded since _ => some since
  | idle | asking _ | queueing _ | looking _ | keeping _ _ => none

/-- What a caller has seen. -/
def seen? : Progress → Option Sighting
  | keeping _ seen | reloaded _ seen => some seen
  | idle | asking _ | queueing _ | looking _ | reloading _ => none

end Progress

/-- What has become of a question. -/
structure Answered (ι : Type) where
  caller : ι
  asked : Asked
  outcome : Outcome SiteAnswer

/-- A folder of sites that callers share. -/
structure SharedFolder (ι : Type) where
  directory : String
  files : Files
  /-- The files before each of the edits. -/
  past : List Files := []
  snapshot : Option Sighting := none
  /-- Who holds the lock. -/
  holder : Option ι := none
  progress : ι → Progress := fun _ => .idle
  /-- After how many edits the reloads had begun that are done: that have succeeded and returned. -/
  settled : List Nat := []
  answers : List (Answered ι) := []
  counts : List (ι × Outcome Nat) := []

namespace SharedFolder

variable {ι : Type} [DecidableEq ι]

/-- What happens to a shared folder. -/
inductive Event (ι : Type) where
  | ask (caller : ι) (question : SiteQuestion)
  | reload (caller : ι)
  /-- A caller takes its next step, unless it has to wait. -/
  | turn (caller : ι)
  /-- A caller gives up what it has begun. -/
  | leave (caller : ι)
  | edit (files : Files)

/-- How often the directory has been edited. -/
def edits (s : SharedFolder ι) : Nat := s.past.length

/-- The sites of the directory. -/
def load (s : SharedFolder ι) : Outcome (List Site) := SiteFolder.load { directory := s.directory } s.files

/-- A caller comes further. -/
def advance (s : SharedFolder ι) (caller : ι) (progress : Progress) : SharedFolder ι :=
  { s with progress := Function.update s.progress caller progress }

/-- A caller is rid of its call, and of the lock. -/
def drop (s : SharedFolder ι) (caller : ι) : SharedFolder ι :=
  { s.advance caller .idle with holder := if s.holder = some caller then none else s.holder }

/-- A question comes to its end. -/
def finish (s : SharedFolder ι) (caller : ι) (asked : Asked) (outcome : Outcome (List Site)) :
    SharedFolder ι :=
  { s.drop caller with
    answers := s.answers ++ [⟨caller, asked, outcome.map asked.question.answer⟩] }

/-- A reload comes to its end. -/
def finishReload (s : SharedFolder ι) (caller : ι) (outcome : Outcome (List Site)) : SharedFolder ι :=
  { s.drop caller with counts := s.counts ++ [(caller, outcome.map List.length)] }

/-- A caller takes its next step. -/
def turn (s : SharedFolder ι) (caller : ι) : SharedFolder ι :=
  match s.progress caller with
  | .idle => s
  | .asking asked =>
    if s.holder.isSome then s
    else
      match s.snapshot with
      | some seen => s.finish caller asked (.ok seen.sites)
      | none => s.advance caller (.queueing asked)
  | .queueing asked =>
    if s.holder.isSome then s
    else
      match s.snapshot with
      | some seen => s.finish caller asked (.ok seen.sites)
      | none => { s.advance caller (.looking asked) with holder := some caller }
  | .looking asked =>
    match s.load with
    | .error cause => s.finish caller asked (.error cause)
    | .ok sites => s.advance caller (.keeping asked ⟨sites, s.edits⟩)
  | .keeping asked seen => { s.finish caller asked (.ok seen.sites) with snapshot := some seen }
  | .reloading since =>
    match s.load with
    | .error cause => s.finishReload caller (.error cause)
    | .ok sites => s.advance caller (.reloaded since ⟨sites, s.edits⟩)
  | .reloaded since seen =>
    if s.holder.isSome then s
    else
      -- It does nothing after this, so it counts as done from here on.
      { s.finishReload caller (.ok seen.sites) with
        snapshot := some seen
        settled := s.settled ++ [since] }

/-- What a shared folder is after something has happened. A caller does one thing at a time. -/
def after (s : SharedFolder ι) : Event ι → SharedFolder ι
  | .ask caller question =>
    match s.progress caller with
    | .idle => s.advance caller (.asking ⟨question, s.settled⟩)
    | _ => s
  | .reload caller =>
    match s.progress caller with
    | .idle => s.advance caller (.reloading s.edits)
    | _ => s
  | .turn caller => s.turn caller
  | .leave caller => s.drop caller
  | .edit files => { s with files, past := s.past ++ [s.files] }

/-- What a shared folder is after a course of events. -/
def run (s : SharedFolder ι) (events : List (Event ι)) : SharedFolder ι := events.foldl after s

/-- What can happen to a shared folder. -/
inductive Step (s : SharedFolder ι) : Event ι → SharedFolder ι → Prop where
  | rest {event : Event ι} : Step s event s
  | edit (files : Files) : Step s (.edit files) { s with files, past := s.past ++ [s.files] }
  | leave (caller : ι) : Step s (.leave caller) (s.drop caller)
  | ask {caller : ι} (question : SiteQuestion) (hidle : s.progress caller = .idle) :
      Step s (.ask caller question) (s.advance caller (.asking ⟨question, s.settled⟩))
  | reload {caller : ι} (hidle : s.progress caller = .idle) :
      Step s (.reload caller) (s.advance caller (.reloading s.edits))
  | hear {caller : ι} {asked : Asked} {seen : Sighting}
      (hcaller : s.progress caller = .asking asked ∨ s.progress caller = .queueing asked)
      (hsnapshot : s.snapshot = some seen) :
      Step s (.turn caller) (s.finish caller asked (.ok seen.sites))
  | queue {caller : ι} {asked : Asked} (hcaller : s.progress caller = .asking asked) :
      Step s (.turn caller) (s.advance caller (.queueing asked))
  | lock {caller : ι} {asked : Asked} (hcaller : s.progress caller = .queueing asked)
      (hfree : s.holder = none) (hsnapshot : s.snapshot = none) :
      Step s (.turn caller) { s.advance caller (.looking asked) with holder := some caller }
  | fail {caller : ι} {asked : Asked} {cause : Failure}
      (hcaller : s.progress caller = .looking asked) :
      Step s (.turn caller) (s.finish caller asked (.error cause))
  | look {caller : ι} {asked : Asked} {sites : List Site}
      (hcaller : s.progress caller = .looking asked) (hload : s.load = .ok sites) :
      Step s (.turn caller) (s.advance caller (.keeping asked ⟨sites, s.edits⟩))
  | keep {caller : ι} {asked : Asked} {seen : Sighting}
      (hcaller : s.progress caller = .keeping asked seen) :
      Step s (.turn caller) { s.finish caller asked (.ok seen.sites) with snapshot := some seen }
  | failReload {caller : ι} {since : Nat} {cause : Failure}
      (hcaller : s.progress caller = .reloading since) :
      Step s (.turn caller) (s.finishReload caller (.error cause))
  | lookAgain {caller : ι} {since : Nat} {sites : List Site}
      (hcaller : s.progress caller = .reloading since) (hload : s.load = .ok sites) :
      Step s (.turn caller) (s.advance caller (.reloaded since ⟨sites, s.edits⟩))
  | publish {caller : ι} {since : Nat} {seen : Sighting}
      (hcaller : s.progress caller = .reloaded since seen) (hfree : s.holder = none) :
      Step s (.turn caller) { s.finishReload caller (.ok seen.sites) with
        snapshot := some seen
        settled := s.settled ++ [since] }

theorem step_turn (s : SharedFolder ι) (caller : ι) : Step s (.turn caller) (s.turn caller) := by
  cases hcaller : s.progress caller with
  | idle =>
      simp only [turn, hcaller]
      exact .rest
  | asking asked =>
      simp only [turn, hcaller]
      split
      · exact .rest
      · split
        · exact .hear (.inl hcaller) ‹_›
        · exact .queue hcaller
  | queueing asked =>
      simp only [turn, hcaller]
      split
      · exact .rest
      · rename_i hfree
        split
        · exact .hear (.inr hcaller) ‹_›
        · exact .lock hcaller (by simpa using hfree) ‹_›
  | looking asked =>
      simp only [turn, hcaller]
      split
      · exact .fail hcaller
      · exact .look hcaller ‹_›
  | keeping asked seen =>
      simp only [turn, hcaller]
      exact .keep hcaller
  | reloading since =>
      simp only [turn, hcaller]
      split
      · exact .failReload hcaller
      · exact .lookAgain hcaller ‹_›
  | reloaded since seen =>
      simp only [turn, hcaller]
      split
      · exact .rest
      · rename_i hfree
        exact .publish hcaller (by simpa using hfree)

theorem step_after (s : SharedFolder ι) (event : Event ι) : Step s event (s.after event) := by
  cases event with
  | ask caller question =>
      simp only [after]
      split
      · exact .ask question ‹_›
      · exact .rest
  | reload caller =>
      simp only [after]
      split
      · exact .reload ‹_›
      · exact .rest
  | turn caller => exact step_turn s caller
  | leave caller => exact .leave caller
  | edit files => exact .edit files

/-! ## The lock -/

variable {s next : SharedFolder ι} {event : Event ι}

/-- What holds of a caller after one of them has come further. -/
theorem of_update {p : Progress → Prop} {progress : ι → Progress} {caller other : ι} {now : Progress}
    (hp : p (Function.update progress caller now other)) :
    other = caller ∧ p now ∨ other ≠ caller ∧ p (progress other) := by
  by_cases hother : other = caller
  · subst hother
    rw [Function.update_self] at hp
    exact .inl ⟨rfl, hp⟩
  · rw [Function.update_of_ne hother] at hp
    exact .inr ⟨hother, hp⟩

/-- Who is to hold the lock does, there is no snapshot while somebody holds it, and there is one as soon
as a reload is done. -/
structure IsLocked (s : SharedFolder ι) : Prop where
  holder {caller : ι} : (s.progress caller).holds = true → s.holder = some caller
  held : s.holder ≠ none → s.snapshot = none
  kept : s.settled ≠ [] → s.snapshot ≠ none

/-- A caller that holds the lock lets go of it as it drops its call. -/
theorem IsLocked.holder_drop_self (hlocked : s.IsLocked) {caller : ι}
    (hholds : (s.progress caller).holds = true) : (s.drop caller).holder = none :=
  if_pos (hlocked.holder hholds)

theorem holder_of_holder_drop {caller other : ι} (hholder : (s.drop caller).holder = some other) :
    s.holder = some other := by
  unfold drop at hholder
  split at hholder
  · cases hholder
  · exact hholder

theorem IsLocked.advance (hlocked : s.IsLocked) {caller : ι} {now : Progress}
    (hnow : now.holds = true → (s.progress caller).holds = true) :
    (s.advance caller now).IsLocked where
  holder hholds := by
    rcases of_update (p := fun progress => progress.holds = true) hholds with
      ⟨rfl, hown⟩ | ⟨-, hbefore⟩
    · exact hlocked.holder (hnow hown)
    · exact hlocked.holder hbefore
  held := hlocked.held
  kept := hlocked.kept

theorem IsLocked.drop (hlocked : s.IsLocked) (caller : ι) : (s.drop caller).IsLocked where
  holder {other} hholds := by
    rcases of_update (p := fun progress => progress.holds = true) hholds with
      ⟨rfl, hown⟩ | ⟨hother, hbefore⟩
    · cases hown
    · have hholder := hlocked.holder hbefore
      refine (if_neg ?_).trans hholder
      rw [hholder]
      exact fun hsame => hother (Option.some.inj hsame)
  held hheld := by
    obtain ⟨other, hholder⟩ := Option.ne_none_iff_exists'.mp hheld
    exact hlocked.held (by rw [holder_of_holder_drop hholder]; exact nofun)
  kept := hlocked.kept

theorem Step.isLocked (hstep : Step s event next) (hlocked : s.IsLocked) : next.IsLocked := by
  cases hstep with
  | rest => exact hlocked
  | edit files => exact ⟨hlocked.holder, hlocked.held, hlocked.kept⟩
  | leave caller => exact hlocked.drop caller
  | ask | reload | queue | lookAgain => exact hlocked.advance nofun
  | look hcaller => exact hlocked.advance fun _ => by rw [hcaller]; rfl
  | @hear caller | @fail caller | @failReload caller =>
      have hdrop := hlocked.drop caller
      exact ⟨hdrop.holder, hdrop.held, hdrop.kept⟩
  | @lock caller asked hcaller hfree hsnapshot =>
      refine ⟨fun {other} hholds => ?_, fun _ => hsnapshot, hlocked.kept⟩
      rcases of_update (p := fun progress => progress.holds = true) hholds with
        ⟨rfl, -⟩ | ⟨-, hbefore⟩
      · rfl
      · rw [hlocked.holder hbefore] at hfree
        cases hfree
  | @keep caller asked seen hcaller =>
      have hfree : (s.drop caller).holder = none := hlocked.holder_drop_self (by rw [hcaller]; rfl)
      exact ⟨(hlocked.drop caller).holder, fun hheld => absurd hfree hheld, fun _ => nofun⟩
  | @publish caller since seen hcaller hfree =>
      have hfree : (s.drop caller).holder = none := by simp [SharedFolder.drop, advance, hfree]
      exact ⟨(hlocked.drop caller).holder, fun hheld => absurd hfree hheld, fun _ => nofun⟩

/-! ## What came before what -/

/-- A reload begins before it sees the directory and before it is done, and a question knows of no
reload that is not done. -/
structure IsTimely (s : SharedFolder ι) : Prop where
  settled : ∀ since ∈ s.settled, since ≤ s.edits
  begun (caller : ι) : ∀ since ∈ (s.progress caller).since?, since ≤ s.edits
  seen {caller : ι} {since : Nat} {seen : Sighting} : s.progress caller = .reloaded since seen →
    since ≤ seen.edits
  asked {caller : ι} : ∀ asked ∈ (s.progress caller).asked?, asked.settled ⊆ s.settled

theorem IsTimely.advance (htimely : s.IsTimely) {caller : ι} {now : Progress}
    (hbegun : ∀ since ∈ now.since?, since ≤ s.edits)
    (hseen : ∀ since seen, now = .reloaded since seen → since ≤ seen.edits)
    (hasked : ∀ asked ∈ now.asked?, asked.settled ⊆ s.settled) :
    (s.advance caller now).IsTimely where
  settled := htimely.settled
  begun other since hsince := by
    rcases of_update (p := fun progress => since ∈ progress.since?) hsince with
      ⟨-, hown⟩ | ⟨-, hbefore⟩
    · exact hbegun since hown
    · exact htimely.begun other since hbefore
  seen {other since seen} hother := by
    rcases of_update (p := fun progress => progress = .reloaded since seen) hother with
      ⟨-, hown⟩ | ⟨-, hbefore⟩
    · exact hseen since seen hown
    · exact htimely.seen hbefore
  asked {other} asked hother := by
    rcases of_update (p := fun progress => asked ∈ progress.asked?) hother with
      ⟨-, hown⟩ | ⟨-, hbefore⟩
    · exact hasked asked hown
    · exact htimely.asked asked hbefore

/-- A caller that comes further with its question. -/
theorem IsTimely.advance_asked (htimely : s.IsTimely) {caller : ι} {now : Progress}
    (hsince : now.since? = none) (hasked : now.asked? = (s.progress caller).asked?) :
    (s.advance caller now).IsTimely := by
  refine htimely.advance (by rw [hsince]; exact nofun) ?_ (by rw [hasked]; exact htimely.asked)
  rintro since seen rfl
  cases hsince

theorem IsTimely.drop (htimely : s.IsTimely) (caller : ι) : (s.drop caller).IsTimely := by
  have hidle : (s.advance caller .idle).IsTimely := htimely.advance nofun nofun nofun
  exact ⟨hidle.settled, hidle.begun, hidle.seen, hidle.asked⟩

theorem Step.isTimely (hstep : Step s event next) (htimely : s.IsTimely) : next.IsTimely := by
  cases hstep with
  | rest => exact htimely
  | edit files =>
      have hlater : ∀ {edits}, edits ≤ s.edits → edits ≤ (s.past ++ [s.files]).length := by
        intro edits hedits
        rw [List.length_append]
        exact Nat.le_add_right_of_le hedits
      exact ⟨fun since hsince => hlater (htimely.settled since hsince),
        fun caller since hsince => hlater (htimely.begun caller since hsince), htimely.seen, htimely.asked⟩
  | leave caller => exact htimely.drop caller
  | ask question hidle =>
      refine htimely.advance nofun nofun fun asked hasked => ?_
      obtain rfl := Option.some.inj hasked
      exact List.Subset.refl s.settled
  | reload hidle =>
      refine htimely.advance (fun since hsince => ?_) nofun nofun
      exact Nat.le_of_eq (Option.some.inj hsince).symm
  | queue hcaller => exact htimely.advance_asked rfl (by rw [hcaller]; rfl)
  | @lock caller asked hcaller =>
      have hlooking : (s.advance caller (.looking asked)).IsTimely :=
        htimely.advance_asked rfl (by rw [hcaller]; rfl)
      exact ⟨hlooking.settled, hlooking.begun, hlooking.seen, hlooking.asked⟩
  | look hcaller => exact htimely.advance_asked rfl (by rw [hcaller]; rfl)
  | @lookAgain caller since sites hcaller =>
      have hbegun : since ≤ s.edits := htimely.begun caller since (by rw [hcaller]; rfl)
      refine htimely.advance (fun other hother => ?_) (fun other seen hother => ?_) nofun
      · rwa [← Option.some.inj hother]
      · cases hother
        exact hbegun
  | @hear caller | @fail caller | @failReload caller | @keep caller =>
      have hdrop := htimely.drop caller
      exact ⟨hdrop.settled, hdrop.begun, hdrop.seen, hdrop.asked⟩
  | @publish caller since seen hcaller =>
      have hbegun : since ≤ s.edits := htimely.begun caller since (by rw [hcaller]; rfl)
      have hdrop := htimely.drop caller
      refine ⟨fun later hlater => ?_, hdrop.begun, hdrop.seen, fun asked hasked =>
        List.subset_append_of_subset_left _ (hdrop.asked asked hasked)⟩
      rcases List.mem_append.mp hlater with hbefore | hnow
      · exact htimely.settled later hbefore
      · rwa [List.mem_singleton.mp hnow]

/-! ## What is seen -/

/-- What has been seen are the sites that the directory had after so many edits. -/
def Shows (s : SharedFolder ι) (seen : Sighting) : Prop :=
  ∃ files, (s.past ++ [s.files])[seen.edits]? = some files ∧
    SiteFolder.load { directory := s.directory } files = .ok seen.sites

/-- The snapshot has been seen, and so has what callers say they have seen. -/
structure IsTruthful (s : SharedFolder ι) : Prop where
  snapshot : ∀ seen ∈ s.snapshot, s.Shows seen
  seen (caller : ι) : ∀ seen ∈ (s.progress caller).seen?, s.Shows seen

omit [DecidableEq ι] in
theorem shows_of_load {sites : List Site} (hload : s.load = .ok sites) : s.Shows ⟨sites, s.edits⟩ :=
  ⟨s.files, by simp [edits], hload⟩

/-- What has been seen once stays what has been seen. -/
theorem Step.shows (hstep : Step s event next) {seen : Sighting} (hseen : s.Shows seen) :
    next.Shows seen := by
  cases hstep with
  | edit files =>
      obtain ⟨before, hbefore, hload⟩ := hseen
      obtain ⟨hlt, -⟩ := List.getElem?_eq_some_iff.mp hbefore
      exact ⟨before, (List.getElem?_append_left hlt).trans hbefore, hload⟩
  | _ => exact hseen

theorem IsTruthful.advance (htruthful : s.IsTruthful) {caller : ι} {now : Progress}
    (hnow : ∀ seen ∈ now.seen?, s.Shows seen) : (s.advance caller now).IsTruthful where
  snapshot := htruthful.snapshot
  seen other seen hseen := by
    rcases of_update (p := fun progress => seen ∈ progress.seen?) hseen with
      ⟨-, hown⟩ | ⟨-, hbefore⟩
    · exact hnow seen hown
    · exact htruthful.seen other seen hbefore

theorem Step.isTruthful (hstep : Step s event next) (htruthful : s.IsTruthful) :
    next.IsTruthful := by
  have hshows {seen : Sighting} : s.Shows seen → next.Shows seen := hstep.shows
  have hidle (caller : ι) : (s.advance caller .idle).IsTruthful := htruthful.advance nofun
  cases hstep with
  | rest => exact htruthful
  | edit files =>
      exact ⟨fun seen hseen => hshows (htruthful.snapshot seen hseen),
        fun caller seen hseen => hshows (htruthful.seen caller seen hseen)⟩
  | leave caller | @hear caller | @fail caller | @failReload caller =>
      exact ⟨htruthful.snapshot, (hidle caller).seen⟩
  | ask | reload | queue => exact htruthful.advance nofun
  | @lock caller asked =>
      have hlooking : (s.advance caller (.looking asked)).IsTruthful := htruthful.advance nofun
      exact ⟨htruthful.snapshot, hlooking.seen⟩
  | look hcaller hload | lookAgain hcaller hload =>
      refine htruthful.advance fun seen hseen => ?_
      obtain rfl := Option.some.inj hseen
      exact shows_of_load hload
  | @keep caller asked seen hcaller | @publish caller since seen hcaller =>
      refine ⟨fun other hother => ?_, (hidle caller).seen⟩
      obtain rfl := Option.some.inj hother
      exact htruthful.seen caller seen (by rw [hcaller]; rfl)

/-! ## Reloads that are done -/

/-- All that holds of a folder whatever happens to it. -/
structure IsSound (s : SharedFolder ι) : Prop where
  locked : s.IsLocked
  timely : s.IsTimely
  truthful : s.IsTruthful

theorem Step.isSound (hstep : Step s event next) (hsound : s.IsSound) : next.IsSound :=
  ⟨hstep.isLocked hsound.locked, hstep.isTimely hsound.timely, hstep.isTruthful hsound.truthful⟩

/-- The snapshot is no older than the beginning of any reload that is done. -/
def IsFresh (s : SharedFolder ι) : Prop :=
  ∀ since ∈ s.settled, ∃ seen ∈ s.snapshot, since ≤ seen.edits

/-- A reload that is older than the beginning of another one, which is done, puts its snapshot in
place. -/
def Overtaken (s : SharedFolder ι) : Event ι → Prop
  | .turn caller => s.holder = none ∧ ∃ since seen, s.progress caller = .reloaded since seen ∧
      ∃ later ∈ s.settled, seen.edits < later
  | _ => False

omit [DecidableEq ι] in
/-- While somebody holds the lock, no reload is done. -/
theorem IsLocked.settled_eq_nil (hlocked : s.IsLocked) {caller : ι}
    (hholds : (s.progress caller).holds = true) : s.settled = [] := by
  have hsnapshot : s.snapshot = none := hlocked.held (by rw [hlocked.holder hholds]; exact nofun)
  by_contra hsettled
  exact hlocked.kept hsettled hsnapshot

theorem Step.isFresh (hstep : Step s event next) (hsound : s.IsSound) (hfresh : s.IsFresh)
    (hevent : ¬ s.Overtaken event) : next.IsFresh := by
  cases hstep with
  | @keep caller asked seen hcaller =>
      have hsettled : s.settled = [] := hsound.locked.settled_eq_nil (by rw [hcaller]; rfl)
      intro since hsince
      have hsince : since ∈ s.settled := hsince
      rw [hsettled] at hsince
      cases hsince
  | @publish caller since seen hcaller hfree =>
      intro later hlater
      refine ⟨seen, rfl, ?_⟩
      rcases List.mem_append.mp hlater with hbefore | hnow
      · by_contra hlt
        exact hevent ⟨hfree, since, seen, hcaller, later, hbefore, Nat.lt_of_not_le hlt⟩
      · rw [List.mem_singleton.mp hnow]
        exact hsound.timely.seen hcaller
  | _ => exact hfresh

/-- A reload that has been overtaken does undo another one. -/
theorem Overtaken.not_isFresh (hover : s.Overtaken event) : ¬ (s.after event).IsFresh := by
  cases event with
  | turn caller =>
      obtain ⟨hfree, since, seen, hcaller, later, hlater, hlt⟩ := hover
      intro hfresh
      obtain ⟨now, hnow, hle⟩ := hfresh later (by simp [after, turn, hcaller, hfree, hlater])
      have hnow : seen = now := by simpa [after, turn, hcaller, hfree] using hnow
      rw [hnow] at hlt
      omega
  | ask | reload | leave | edit => exact absurd hover id

/-- No reload that puts its snapshot in place has been overtaken. -/
def NothingOvertaken (s : SharedFolder ι) : List (Event ι) → Prop
  | [] => True
  | event :: events => ¬ s.Overtaken event ∧ (s.after event).NothingOvertaken events

/-- At no time there is a snapshot that is older than the beginning of a reload that is done. -/
def StaysFresh (s : SharedFolder ι) (events : List (Event ι)) : Prop :=
  ∀ done, done <+: events → (s.run done).IsFresh

theorem staysFresh_iff {events : List (Event ι)} (hsound : s.IsSound) (hfresh : s.IsFresh) :
    s.StaysFresh events ↔ s.NothingOvertaken events := by
  induction events generalizing s with
  | nil =>
      refine ⟨fun _ => trivial, fun _ done hdone => ?_⟩
      rw [List.prefix_nil.mp hdone]
      exact hfresh
  | cons event events ih =>
      have hstep := step_after s event
      constructor
      · intro hstays
        have hnext : (s.after event).IsFresh :=
          hstays [event] (List.prefix_append [event] events)
        refine ⟨fun hover => hover.not_isFresh hnext, (ih (hstep.isSound hsound) hnext).mp ?_⟩
        exact fun done hdone => hstays (event :: done) (List.cons_prefix_cons.mpr ⟨rfl, hdone⟩)
      · rintro ⟨hevent, hevents⟩ done hdone
        have hnext := hstep.isFresh hsound hfresh hevent
        rcases List.prefix_cons_iff.mp hdone with rfl | ⟨rest, rfl, hrest⟩
        · exact hfresh
        · exact (ih (hstep.isSound hsound) hnext).mpr hevents rest hrest

/-! ## Answers -/

/-- A question that was asked when a reload was done is answered from what the directory has held at the
beginning of that reload or since. -/
def Settles (s : SharedFolder ι) (answered : Answered ι) : Prop :=
  ∀ since ∈ answered.asked.settled, ∃ seen, s.Shows seen ∧ since ≤ seen.edits ∧
    answered.outcome = .ok (answered.asked.question.answer seen.sites)

omit [DecidableEq ι] in
/-- A question that holds the lock was asked before any reload was done. -/
theorem IsSound.not_mem_settled (hsound : s.IsSound) {caller : ι} {asked : Asked}
    (hholds : (s.progress caller).holds = true) (hasked : asked ∈ (s.progress caller).asked?)
    (since : Nat) : since ∉ asked.settled := by
  intro hsince
  have hsettled := hsound.timely.asked asked hasked hsince
  rw [hsound.locked.settled_eq_nil hholds] at hsettled
  cases hsettled

theorem Step.settles (hstep : Step s event next) (hsound : s.IsSound) (hfresh : s.IsFresh)
    (hanswers : ∀ answered ∈ s.answers, s.Settles answered) :
    ∀ answered ∈ next.answers, next.Settles answered := by
  have hold : ∀ answered ∈ s.answers, next.Settles answered := by
    intro answered hanswered since hsince
    obtain ⟨seen, hseen, hrest⟩ := hanswers answered hanswered since hsince
    exact ⟨seen, hstep.shows hseen, hrest⟩
  cases hstep with
  | @hear caller asked seen hcaller hsnapshot =>
      intro answered hanswered
      rcases List.mem_append.mp hanswered with hbefore | hnow
      · exact hold answered hbefore
      · obtain rfl := List.mem_singleton.mp hnow
        intro since hsince
        have hasked : asked ∈ (s.progress caller).asked? := by
          rcases hcaller with hcaller | hcaller <;> rw [hcaller] <;> rfl
        obtain ⟨other, hother, hrecent⟩ := hfresh since (hsound.timely.asked asked hasked hsince)
        obtain rfl := Option.some.inj (hsnapshot.symm.trans hother)
        exact ⟨seen, hsound.truthful.snapshot seen hsnapshot, hrecent, rfl⟩
  | @fail caller asked cause hcaller | @keep caller asked seen hcaller =>
      intro answered hanswered
      rcases List.mem_append.mp hanswered with hbefore | hnow
      · exact hold answered hbefore
      · obtain rfl := List.mem_singleton.mp hnow
        intro since hsince
        have hholds : (s.progress caller).holds = true := by rw [hcaller]; rfl
        exact absurd hsince (hsound.not_mem_settled hholds (by rw [hcaller]; rfl) since)
  | _ => exact hold

theorem run_concat (s : SharedFolder ι) (events : List (Event ι)) (event : Event ι) :
    s.run (events ++ [event]) = (s.run events).after event := by
  rw [run, List.foldl_append]
  rfl

theorem IsSound.run (hsound : s.IsSound) (events : List (Event ι)) : (s.run events).IsSound := by
  induction events using List.reverseRecOn with
  | nil => exact hsound
  | append_singleton events event ih =>
      rw [run_concat]
      exact (step_after _ event).isSound ih

/-- As long as no snapshot is too old, no answer is. -/
theorem StaysFresh.settles {events : List (Event ι)} (hstays : s.StaysFresh events)
    (hsound : s.IsSound) (hanswers : ∀ answered ∈ s.answers, s.Settles answered) :
    ∀ answered ∈ (s.run events).answers, (s.run events).Settles answered := by
  induction events using List.reverseRecOn with
  | nil => exact hanswers
  | append_singleton events event ih =>
      have hbefore : s.StaysFresh events := fun done hdone =>
        hstays done (hdone.trans (List.prefix_append events [event]))
      rw [run_concat]
      exact (step_after _ event).settles (hsound.run events)
        (hstays events (List.prefix_append events [event])) (ih hbefore)

/-- Where there is a snapshot, a question is answered from it at once. -/
theorem answers_run_ask (hlocked : s.IsLocked) {caller : ι} (hidle : s.progress caller = .idle)
    {seen : Sighting} (hsnapshot : s.snapshot = some seen) (question : SiteQuestion) :
    (s.run [.ask caller question, .turn caller]).answers =
      s.answers ++ [⟨caller, ⟨question, s.settled⟩, .ok (question.answer seen.sites)⟩] := by
  have hfree : s.holder = none := by
    by_contra hheld
    rw [hlocked.held hheld] at hsnapshot
    cases hsnapshot
  simp [run, after, turn, hidle, advance, hfree, hsnapshot, finish, drop, Except.map]

/-! ## Reloads apart from each other -/

/-- A reload begins only when no other one is under way. -/
def ReloadsApart (s : SharedFolder ι) : List (Event ι) → Prop
  | [] => True
  | event :: events =>
    (∀ caller, event = .reload caller → ∀ other, (s.progress other).since? = none) ∧
      (s.after event).ReloadsApart events

/-- A reload that is under way is the only one, and began after those that are done. -/
def IsApart (s : SharedFolder ι) : Prop :=
  ∀ caller, ∀ since ∈ (s.progress caller).since?,
    (∀ other, other ≠ caller → (s.progress other).since? = none) ∧ ∀ later ∈ s.settled, later ≤ since

theorem IsApart.advance (hapart : s.IsApart) {caller : ι} {now : Progress}
    (hnow : ∀ since ∈ now.since?, since ∈ (s.progress caller).since?) :
    (s.advance caller now).IsApart := by
  have hbefore : ∀ other, ∀ since ∈ ((s.advance caller now).progress other).since?,
      since ∈ (s.progress other).since? := by
    intro other since hsince
    rcases of_update (p := fun progress => since ∈ progress.since?) hsince with
      ⟨rfl, hown⟩ | ⟨-, hother⟩
    · exact hnow since hown
    · exact hother
  intro first since hsince
  obtain ⟨halone, hlater⟩ := hapart first since (hbefore first since hsince)
  refine ⟨fun other hother => ?_, hlater⟩
  cases hprogress : ((s.advance caller now).progress other).since? with
  | none => rfl
  | some another =>
      have hanother := hbefore other another hprogress
      rw [halone other hother] at hanother
      cases hanother

theorem Step.isApart (hstep : Step s event next) (hsound : s.IsSound) (hapart : s.IsApart)
    (hevent : ∀ caller, event = .reload caller → ∀ other, (s.progress other).since? = none) :
    next.IsApart := by
  have hidle (caller : ι) : (s.advance caller .idle).IsApart := hapart.advance nofun
  cases hstep with
  | rest | edit => exact hapart
  | leave caller | @hear caller | @fail caller | @keep caller | @failReload caller =>
      exact hidle caller
  | ask | queue | look => exact hapart.advance nofun
  | @lock caller asked =>
      have hlooking : (s.advance caller (.looking asked)).IsApart := hapart.advance nofun
      exact hlooking
  | @reload caller =>
      have hnone := hevent caller rfl
      intro first since hsince
      rcases of_update (p := fun progress => since ∈ progress.since?) hsince with
        ⟨rfl, hown⟩ | ⟨-, hbefore⟩
      · obtain rfl := Option.some.inj hown
        refine ⟨fun other hother => ?_, hsound.timely.settled⟩
        exact (congrArg Progress.since? (Function.update_of_ne hother _ _)).trans (hnone other)
      · rw [hnone first] at hbefore
        cases hbefore
  | lookAgain hcaller =>
      refine hapart.advance fun since hsince => ?_
      rw [hcaller]
      exact hsince
  | @publish caller since seen hcaller =>
      obtain ⟨halone, -⟩ := hapart caller since (by rw [hcaller]; rfl)
      intro first another hanother
      rcases of_update (p := fun progress => another ∈ progress.since?) hanother with
        ⟨-, hown⟩ | ⟨hother, hbefore⟩
      · cases hown
      · rw [halone first hother] at hbefore
        cases hbefore

omit [DecidableEq ι] in
theorem IsApart.not_overtaken (hapart : s.IsApart) (hsound : s.IsSound) : ¬ s.Overtaken event := by
  intro hover
  cases event with
  | turn caller =>
      obtain ⟨-, since, seen, hcaller, later, hlater, hlt⟩ := hover
      obtain ⟨-, hsettled⟩ := hapart caller since (by rw [hcaller]; rfl)
      have hsince := hsound.timely.seen hcaller
      have hbefore := hsettled later hlater
      omega
  | ask | reload | leave | edit => exact hover

/-- Reloads that come one after another are not overtaken. -/
theorem ReloadsApart.nothingOvertaken {events : List (Event ι)} (hevents : s.ReloadsApart events)
    (hsound : s.IsSound) (hapart : s.IsApart) : s.NothingOvertaken events := by
  induction events generalizing s with
  | nil => trivial
  | cons event events ih =>
      have hstep := step_after s event
      exact ⟨hapart.not_overtaken hsound,
        ih hevents.2 (hstep.isSound hsound) (hstep.isApart hsound hapart hevents.1)⟩

/-! ## Alone -/

/-- The folder that callers share, as one of its own. -/
def folder (s : SharedFolder ι) : SiteFolder := ⟨s.directory, s.snapshot.map (·.sites)⟩

/-- Calls that nobody comes between are those of the folder. -/
structure ActsAlone (s : SharedFolder ι) (caller : ι) : Prop where
  reload : ∃ next, s.run [.reload caller, .turn caller, .turn caller] = next ∧
    next.folder = (s.folder.reload s.files).2 ∧ next.progress caller = .idle ∧
    next.counts = s.counts ++ [(caller, (s.folder.reload s.files).1)]
  ask (question : SiteQuestion) :
    ∃ next, s.run (.ask caller question :: List.replicate 4 (.turn caller)) = next ∧
      next.folder = (s.folder.ask s.files question).2 ∧ next.progress caller = .idle ∧
      next.answers = s.answers ++
        [⟨caller, ⟨question, s.settled⟩, (s.folder.ask s.files question).1⟩]

theorem actsAlone {caller : ι} (hidle : s.progress caller = .idle) (hfree : s.holder = none) :
    s.ActsAlone caller := by
  have hload : s.folder.load s.files = SiteFolder.load { directory := s.directory } s.files := rfl
  constructor
  · refine ⟨_, rfl, ?_⟩
    rw [SiteFolder.reload, hload]
    cases hsites : SiteFolder.load { directory := s.directory } s.files with
    | error cause =>
        simp [run, after, turn, hidle, advance, load, hsites, finishReload, drop, Except.map, folder]
    | ok sites =>
        simp [run, after, turn, hidle, hfree, advance, load, hsites, finishReload, drop, Except.map,
          folder]
  · refine fun question => ⟨_, rfl, ?_⟩
    rw [SiteFolder.ask_eq, SiteFolder.current, hload]
    cases hsnapshot : s.snapshot with
    | some seen =>
        simp [run, after, turn, hidle, hfree, advance, hsnapshot, finish, drop, Except.map, folder]
    | none =>
        cases hsites : SiteFolder.load { directory := s.directory } s.files with
        | error cause | ok sites =>
            simp [run, after, turn, hidle, hfree, advance, hsnapshot, load, hsites, finish, drop,
              Except.map, folder]

/-! ## Courses of events -/

/-- A folder that nobody has used yet. -/
def opened (directory : String) (files : Files) : SharedFolder ι := { directory, files }

omit [DecidableEq ι] in
theorem isSound_opened (directory : String) (files : Files) :
    (opened directory files : SharedFolder ι).IsSound where
  locked := ⟨nofun, fun hheld => absurd rfl hheld, fun hsettled => absurd rfl hsettled⟩
  timely := ⟨nofun, nofun, nofun, nofun⟩
  truthful := ⟨nofun, nofun⟩

/-- What a course of events leaves of the reloads in it. -/
structure TellsReloads (s : SharedFolder ι) (events : List (Event ι)) : Prop where
  alone {caller : ι} : (s.run events).progress caller = .idle → (s.run events).holder = none →
    (s.run events).ActsAlone caller
  /-- Once a reload is done, a question is answered at once, from the snapshot. -/
  heard {caller : ι} (question : SiteQuestion) : (s.run events).progress caller = .idle →
    (s.run events).settled ≠ [] →
      ∃ seen ∈ (s.run events).snapshot, (s.run events).Shows seen ∧
        ((s.run events).run [.ask caller question, .turn caller]).answers = (s.run events).answers ++
          [⟨caller, ⟨question, (s.run events).settled⟩, .ok (question.answer seen.sites)⟩]
  /-- The snapshot is never too old exactly if no reload that has been overtaken puts its own in
  place. -/
  staysFresh_iff : s.StaysFresh events ↔ s.NothingOvertaken events
  /-- If none does, each question that was asked when a reload was done is answered from what the
  directory has held since the beginning of it. -/
  settles : s.NothingOvertaken events →
    ∀ answered ∈ (s.run events).answers, (s.run events).Settles answered
  apart : s.ReloadsApart events → s.NothingOvertaken events

/-- Whatever callers do on a folder and however its directory is edited meanwhile, reloads are undone
by those that have been overtaken, and by nothing else. -/
theorem tellsReloads_opened (directory : String) (files : Files) (events : List (Event ι)) :
    (opened directory files).TellsReloads events := by
  have hsound : (opened directory files : SharedFolder ι).IsSound := isSound_opened directory files
  have hfresh : (opened directory files : SharedFolder ι).IsFresh := fun since hsince =>
    absurd hsince List.not_mem_nil
  have hapart : (opened directory files : SharedFolder ι).IsApart := fun caller since hsince => by
    cases hsince
  have hrun := hsound.run events
  have hstays : (opened directory files).StaysFresh events ↔
      (opened directory files).NothingOvertaken events := staysFresh_iff hsound hfresh
  exact {
    alone := actsAlone
    heard := by
      intro caller question hidle hsettled
      obtain ⟨seen, hseen⟩ := Option.ne_none_iff_exists'.mp (hrun.locked.kept hsettled)
      exact ⟨seen, hseen, hrun.truthful.snapshot seen hseen,
        answers_run_ask hrun.locked hidle hseen question⟩
    staysFresh_iff := hstays
    settles := fun hevents => (hstays.mpr hevents).settles hsound
      fun answered hanswered => absurd hanswered List.not_mem_nil
    apart := fun hevents => hevents.nothingOvertaken hsound hapart }

end SharedFolder

namespace Rehearsal

/-- Two that use one folder. -/
inductive Visitor where
  | first
  | second
deriving DecidableEq

/-- A directory with the document of one site. -/
def shopDirectory : Files :=
  ⟨[(["sites"], .directory),
    (["sites", "shop.json"], .file
      "\x7b\"id\": \"shop\", \"domain\": \"example.com\"\x7d".toUTF8)]⟩

/-- The first visitor reloads, and has seen the directory when a document is added to it. The second one
reloads after that, and is done before the first one puts its snapshot in place. Then it asks. -/
def overtaking : List (SharedFolder.Event Visitor) :=
  [.reload .first, .turn .first, .edit shopDirectory, .reload .second, .turn .second, .turn .second,
    .turn .first, .ask .second .list, .turn .second]

/-- What is left of it. -/
def overtaken : SharedFolder Visitor where
  directory := "sites"
  files := shopDirectory
  past := [{}]
  snapshot := some ⟨[], 0⟩
  settled := [1, 0]
  answers := [⟨.second, ⟨.list, [1, 0]⟩, .ok (.all [])⟩]
  counts := [(.second, .ok 1), (.first, .ok 0)]

theorem load_shopDirectory : SiteFolder.load { directory := "sites" } shopDirectory =
    .ok [{ id := "shop", domain := "example.com" }] :=
  toOption_eq_some.mp (by decide +kernel)

theorem run_overtaking : (SharedFolder.opened "sites" {}).run overtaking = overtaken := by
  have hempty : SiteFolder.load { directory := "sites" } {} = .ok [] :=
    toOption_eq_some.mp (by decide +kernel)
  have hidle : Function.update (Function.update (Function.update (Function.update (fun _ => .idle)
      Visitor.first (.reloaded 0 ⟨[], 0⟩)) .second .idle) .first .idle) .second .idle =
        fun _ => Progress.idle := by
    funext visitor
    cases visitor <;> rfl
  simp [overtaking, SharedFolder.run, SharedFolder.after, SharedFolder.turn, SharedFolder.opened,
    SharedFolder.advance, SharedFolder.finish, SharedFolder.finishReload, SharedFolder.drop,
    SharedFolder.load, SharedFolder.edits, hempty, load_shopDirectory, hidle, Except.map,
    SiteQuestion.answer, overtaken]

/-- The second reload has counted the new site, and a list that is asked for afterwards is without it,
which the directory has not been since before that reload. -/
theorem overtaken_reload_undoes_later_one :
    ∃ ended, (SharedFolder.opened "sites" {}).run overtaking = ended ∧
      ended.counts = [(.second, .ok 1), (.first, .ok 0)] ∧
      ended.answers = [⟨.second, ⟨.list, [1, 0]⟩, .ok (.all [])⟩] ∧
      ¬ ∀ answered ∈ ended.answers, ended.Settles answered := by
  refine ⟨overtaken, run_overtaking, rfl, rfl, fun hsettles => ?_⟩
  obtain ⟨⟨sites, edits⟩, ⟨files, hfiles, hload⟩, hsince, hanswer⟩ :=
    hsettles _ List.mem_cons_self 1 List.mem_cons_self
  have hedits : edits = 1 := by
    have hlt : edits < 2 := (List.getElem?_eq_some_iff.mp hfiles).1
    have hle : 1 ≤ edits := hsince
    omega
  subst hedits
  obtain rfl : shopDirectory = files := Option.some.inj hfiles
  obtain rfl := Except.ok.inj (load_shopDirectory.symm.trans hload)
  cases hanswer

end Rehearsal

end SiteWatch
