/-
# Frames bring what they bring alone

The frames of a page are looked into one after another, and none of them has a say in what comes of
another one. A frame that does not load in time counts for nothing. One that does is counted, and
has a section just if asking it for fields, by itself, brings any; the section has the number of the
frame among all frames of the page, those that were left out included. So what stands in a section
is told by its own frame, and by nothing else on the page.
-/

import SiteWatch.Proofs.Extraction.Fields

namespace SiteWatch

variable {σ F α β : Type}

/-! ## Work that runs to one answer -/

namespace Activity

/-- Work that, left to itself, runs to one and the same answer from all states of a kind, at any
time, and leaves a state of that kind behind. -/
def RunsTo (steady : σ → Prop) (value : α) (work : Activity σ α) : Prop :=
  ∀ clock s, steady s → ∃ ended t, work.run none clock s = some (value, ended, t) ∧ steady t

variable {steady : σ → Prop}

theorem runsTo_done (steady : σ → Prop) (value : α) : (done value : Activity σ α).RunsTo steady value :=
  fun clock s hs => ⟨clock, s, rfl, hs⟩

theorem RunsTo.bind {first : Activity σ α} {andThen : α → Activity σ β} {a : α} {b : β}
    (hfirst : first.RunsTo steady a) (hthen : (andThen a).RunsTo steady b) :
    (first.bind andThen).RunsTo steady b := by
  intro clock s hs
  obtain ⟨between, u, hrun, hu⟩ := hfirst clock s hs
  obtain ⟨ended, t, hlast, ht⟩ := hthen between u hu
  refine ⟨ended, t, ?_, ht⟩
  rw [run_bind, hrun]
  exact hlast

theorem ComesTo.runsTo {work : Activity σ α} {value : α} (hwork : work.ComesTo steady value) :
    work.RunsTo steady value := by
  intro clock s hs
  obtain ⟨t, hends⟩ := hwork.halts s hs
  obtain ⟨ended, hrun⟩ := (canEnd_idle_iff clock).mp hends
  exact ⟨ended, t, hrun, (hwork.only s t value hs hends.keeping_of_idle).2⟩

/-- Work that leaves states as steady as they are does so when it runs by itself. -/
theorem Keeps.steady_of_run {work : Activity σ α} (hkeeps : work.Keeps steady) {clock ended : Nat}
    {s t : σ} {value : α} (hrun : work.run none clock s = some (value, ended, t)) (hs : steady s) :
    steady t := by
  have hview : steady t = steady s := by
    have hends : work.CanEnd Meantime.idle value t s := (canEnd_idle_iff clock).mpr ⟨ended, hrun⟩
    exact hkeeps.view_eq (fun _ _ _ _ _ hidle => congrArg steady hidle.2) hends
  exact hview.mpr hs

end Activity

/-! ## What is known of a frame -/

/-- How a frame loads when it is left to itself. -/
inductive Loading where
  | loads (after : Nat)
  | fails (after : Nat) (cause : Failure)
  | never

/-- A run as the loading of a frame says. -/
def Loading.Tells (loading : Loading) (clock : Nat) (ran : Option (Outcome Unit × Nat × σ)) : Prop :=
  match loading with
  | .loads after => ∃ t, ran = some (.ok (), clock + after, t)
  | .fails after cause => ∃ t, ran = some (.error cause, clock + after, t)
  | .never => ran = none

/-- Whether a frame loads within a time. -/
def Loading.inTime (limit : Nat) : Loading → Bool
  | .loads after => after ≤ limit
  | .fails _ _ | .never => false

/-- What is known of a frame: how it loads, and what its document shows. -/
structure FrameSight where
  loading : Loading
  sight : Sight

namespace FrameSight

variable (extractors : List Extractor) (limit : Nat)

/-- What comes of looking into a frame. -/
def brought (frame : FrameSight) : Option (Option Members) :=
  if frame.loading.inTime limit then some (frame.sight.outcome extractors).toOption else none

/-- Frames, each with what comes of looking into it. -/
def looked (frames : List FrameSight) : List (FrameSight × Option (Option Members)) :=
  frames.map fun frame => (frame, frame.brought extractors limit)

/-- What frames bring. -/
def fields (frames : List FrameSight) : FrameFields where
  sections := Members.ofList (FrameFields.sectionsFrom 0 (looked extractors limit frames))
  processed := frames.countP fun frame => frame.loading.inTime limit

variable {extractors limit} {frame : FrameSight} {frames : List FrameSight}

theorem brought_eq_some {members : Members} :
    frame.brought extractors limit = some (some members) ↔
      frame.loading.inTime limit = true ∧ frame.sight.outcome extractors = .ok members := by
  rw [brought, Option.ite_none_right_eq_some, Option.some.injEq, toOption_eq_some]

/-- The sections are those of the frames that load in time and bring any fields, each under its
number among all frames. -/
theorem get?_sections_fields {name : String} {value : Json} :
    (fields extractors limit frames).sections.get? name = some value ↔
      ∃ i frame members, frames[i]? = some frame ∧ frame.loading.inTime limit = true ∧
        frame.sight.outcome extractors = .ok members ∧ members ≠ [] ∧
        name = FrameFields.sectionName i ∧ value = .object members := by
  have hnodup := FrameFields.nodup_sectionsFrom 0 (looked extractors limit frames)
  rw [fields, Members.get?_ofList, Members.last?_eq_some_iff hnodup, FrameFields.mem_sectionsFrom]
  constructor
  · rintro ⟨i, frame, members, hlooked, hmembers, hpart⟩
    rw [looked, List.getElem?_map, Option.map_eq_some_iff] at hlooked
    obtain ⟨frame, hframe, hbrought⟩ := hlooked
    obtain ⟨htime, houtcome⟩ := brought_eq_some.mp (Prod.ext_iff.mp hbrought).2
    rw [Nat.zero_add, Prod.ext_iff] at hpart
    exact ⟨i, frame, members, hframe, htime, houtcome, hmembers, hpart⟩
  · rintro ⟨i, frame, members, hframe, htime, houtcome, hmembers, rfl, rfl⟩
    refine ⟨i, frame, members, ?_, hmembers, by rw [Nat.zero_add]⟩
    rw [looked, List.getElem?_map, hframe, Option.map_some, brought_eq_some.mpr ⟨htime, houtcome⟩]

/-- What stands in a section is told by the frame of its number. -/
theorem get?_sectionName_fields_congr {others : List FrameSight} {i : Nat}
    (hsame : others[i]? = frames[i]?) :
    (fields extractors limit others).sections.get? (FrameFields.sectionName i) =
      (fields extractors limit frames).sections.get? (FrameFields.sectionName i) := by
  have hsections {some' others' : List FrameSight} (hsame : others'[i]? = some'[i]?) {value : Json}
      (hget : (fields extractors limit some').sections.get? (FrameFields.sectionName i) =
        some value) :
      (fields extractors limit others').sections.get? (FrameFields.sectionName i) = some value := by
    obtain ⟨j, frame, members, hframe, htime, houtcome, hmembers, hname, hvalue⟩ :=
      get?_sections_fields.mp hget
    obtain rfl := FrameFields.sectionName_injective hname
    exact get?_sections_fields.mpr
      ⟨i, frame, members, hsame.trans hframe, htime, houtcome, hmembers, rfl, hvalue⟩
  exact Option.ext fun value => ⟨hsections hsame.symm, hsections hsame⟩

end FrameSight

/-! ## Looking into frames -/

namespace PageEngine

variable {engine : PageEngine σ F} {page : Page σ F} {steady : σ → Prop}
variable {extractors : List Extractor} {limit : Nat}

/-- A frame loads and shows what is known of it, in all states of a kind. -/
structure Follows (engine : PageEngine σ F) (steady : σ → Prop) (frame : F) (known : FrameSight) :
    Prop where
  loading : ∀ clock s, steady s →
    known.loading.Tells clock ((engine.awaitLoad frame).run.run none clock s)
  keeps : Attempt.Keeps steady (engine.awaitLoad frame)
  shows : (engine.document frame).Shows steady known.sight

/-- Listing the frames of a page comes to some outcome, and each of the frames, if there are any,
loads and shows what is known of it. -/
structure Stages (engine : PageEngine σ F) (page : Page σ F) (steady : σ → Prop)
    (listing : Outcome (List F)) (known : List FrameSight) : Prop where
  lists : page.frames.run.ComesTo steady listing
  follows : List.Forall₂ (engine.Follows steady) (listing.toOption.getD []) known

/-- What the frames of a page have to bring. -/
structure Collects (engine : PageEngine σ F) (steady : σ → Prop) (frames : List F)
    (known : List FrameSight) (extractors : List Extractor) (limit : Nat) (fields : FrameFields) :
    Prop where
  processed : fields.processed = known.countP fun frame => frame.loading.inTime limit
  /-- There is a section for every frame that loads in time and, asked by itself, brings any
  fields, and for no other one. -/
  sections : ∀ name value, fields.sections.get? name = some value ↔
    ∃ i frame seen members, frames[i]? = some frame ∧ known[i]? = some seen ∧
      seen.loading.inTime limit = true ∧
      ((engine.document frame).extract extractors).run.ComesTo steady (.ok members) ∧
      members ≠ [] ∧ name = FrameFields.sectionName i ∧ value = .object members
  sorted : fields.sections.IsAscending

section

variable {frame : F} {seen : FrameSight}

/-- Whether a frame loads within a time is told by how it loads. -/
theorem Follows.runsTo_loadsWithin (hfollows : engine.Follows steady frame seen) (limit : Nat) :
    (engine.loadsWithin limit frame).RunsTo steady (seen.loading.inTime limit) := by
  intro clock s hs
  obtain ⟨outcome, ended, t, hrun, hends⟩ := Activity.exists_endsUnder
    (.error (.timedOut limit)) limit clock s (engine.awaitLoad frame).run
  have hkeeps : Attempt.Keeps steady ((engine.awaitLoad frame).timeout limit) :=
    Attempt.keeps_timeout limit hfollows.keeps
  have hloading := hfollows.loading clock s hs
  have hloaded : outcome.toOption.isSome = seen.loading.inTime limit := by
    cases hloads : seen.loading with
    | loads after =>
        rw [hloads] at hloading
        obtain ⟨u, hloading⟩ := hloading
        cases hends with
        | inTime hended hle =>
            cases hended.symm.trans hloading
            exact (decide_eq_true (Nat.le_of_add_le_add_left hle)).symm
        | cutShort hbusy =>
            have hlate := hbusy _ _ _ hloading
            exact (decide_eq_false (by omega)).symm
    | fails after cause =>
        rw [hloads] at hloading
        obtain ⟨u, hloading⟩ := hloading
        cases hends with
        | inTime hended hle =>
            cases hended.symm.trans hloading
            rfl
        | cutShort hbusy => rfl
    | never =>
        rw [hloads] at hloading
        cases hends with
        | inTime hended hle => cases hended.symm.trans hloading
        | cutShort hbusy => rfl
  refine ⟨ended, t, ?_, hkeeps.steady_of_run hrun hs⟩
  rw [loadsWithin, Attempt.ok?, Activity.run_bind, Activity.run_bind]
  simp only [Attempt.timeout, ExceptT.run_mk, hrun, Option.bind_some, Activity.run, hloaded]

theorem Follows.runsTo_lookInto (hfollows : engine.Follows steady frame seen)
    (extractors : List Extractor) (limit : Nat) :
    (engine.lookInto extractors limit frame).RunsTo steady (seen.brought extractors limit) := by
  apply (hfollows.runsTo_loadsWithin limit).bind
  unfold FrameSight.brought
  by_cases htime : seen.loading.inTime limit = true
  · rw [if_pos htime, if_pos htime]
    exact (Attempt.comesTo_ok? (hfollows.shows.comesTo_extract extractors)).runsTo.bind
      (Activity.runsTo_done steady _)
  · rw [if_neg htime, if_neg htime]
    exact Activity.runsTo_done steady _

end

/-- Frames are looked into in turn, and each adds what it brings alone. -/
theorem exists_runsTo_extractFramesFrom {frames : List F} {known : List FrameSight}
    (hfollows : List.Forall₂ (engine.Follows steady) frames known) (extractors : List Extractor)
    (limit : Nat) (fields : FrameFields) (position : Nat) :
    ∃ last, (engine.extractFramesFrom extractors limit fields position frames).RunsTo steady last ∧
      last.processed =
        fields.processed + known.countP (fun frame => frame.loading.inTime limit) ∧
      last.sections =
        (FrameFields.sectionsFrom position (FrameSight.looked extractors limit known)).foldl
          (fun all part => Members.insert part.1 part.2 all) fields.sections := by
  induction hfollows generalizing fields position with
  | nil => exact ⟨fields, Activity.runsTo_done steady fields, rfl, rfl⟩
  | @cons frame seen frames known hframe _ ih =>
      obtain ⟨last, hruns, hprocessed, hsections⟩ :=
        ih (fields.after position (seen.brought extractors limit)) (position + 1)
      refine ⟨last, ?_, ?_, ?_⟩
      · rw [extractFramesFrom_cons]
        exact (hframe.runsTo_lookInto extractors limit).bind hruns
      · rw [hprocessed, List.countP_cons, FrameSight.brought]
        by_cases htime : seen.loading.inTime limit = true
        · simp only [if_pos htime, FrameFields.after, FrameFields.add]
          omega
        · simp only [if_neg htime, FrameFields.after]
          omega
      · have hlooked : FrameSight.looked extractors limit (seen :: known) =
            (seen, seen.brought extractors limit) :: FrameSight.looked extractors limit known := rfl
        rw [hsections, FrameFields.sections_after, hlooked, FrameFields.sectionsFrom_cons,
          List.foldl_append]

/-- What the frames of a page bring is told by what is known of them. -/
theorem Stages.runsTo_extractFrames {listing : Outcome (List F)} {known : List FrameSight}
    (hstages : engine.Stages page steady listing known) (extractors : List Extractor) (limit : Nat) :
    (engine.extractFrames page extractors limit).RunsTo steady
      (FrameSight.fields extractors limit known) := by
  obtain ⟨hlists, hfollows⟩ := hstages
  apply (Attempt.comesTo_ok? hlists).runsTo.bind
  cases listing with
  | error cause =>
      cases hfollows
      exact Activity.runsTo_done steady _
  | ok frames =>
      obtain ⟨⟨sections, processed⟩, hruns, hprocessed, hsections⟩ :=
        exists_runsTo_extractFramesFrom hfollows extractors limit {} 0
      obtain rfl : sections = (FrameSight.fields extractors limit known).sections := hsections
      obtain rfl : processed = (FrameSight.fields extractors limit known).processed :=
        hprocessed.trans (Nat.zero_add _)
      exact hruns

/-- What is known of frames is known of each of them. -/
theorem Follows.of_forall₂ {frames : List F} {known : List FrameSight}
    (hfollows : List.Forall₂ (engine.Follows steady) frames known) {i : Nat} {seen : FrameSight}
    (hseen : known[i]? = some seen) :
    ∃ frame, frames[i]? = some frame ∧ engine.Follows steady frame seen := by
  obtain ⟨hi, rfl⟩ := List.getElem?_eq_some_iff.mp hseen
  have hframe : i < frames.length := hfollows.length_eq ▸ hi
  exact ⟨frames[i], List.getElem?_eq_getElem hframe, hfollows.get hframe hi⟩

theorem Stages.collects {listing : Outcome (List F)} {known : List FrameSight}
    (hstages : engine.Stages page steady listing known) {s : σ} (hs : steady s) :
    engine.Collects steady (listing.toOption.getD []) known extractors limit
      (FrameSight.fields extractors limit known) where
  processed := rfl
  sections name value := by
    rw [FrameSight.get?_sections_fields]
    constructor
    · rintro ⟨i, seen, members, hseen, htime, houtcome, hsome, hname, hvalue⟩
      obtain ⟨frame, hframe, hfollows⟩ := Follows.of_forall₂ hstages.follows hseen
      have halone := hfollows.shows.comesTo_extract extractors
      rw [houtcome] at halone
      exact ⟨i, frame, seen, members, hframe, hseen, htime, halone, hsome, hname, hvalue⟩
    · rintro ⟨i, frame, seen, members, hframe, hseen, htime, halone, hsome, hname, hvalue⟩
      obtain ⟨same, hsame, hfollows⟩ := Follows.of_forall₂ hstages.follows hseen
      obtain rfl := Option.some.inj (hsame.symm.trans hframe)
      have houtcome := (hfollows.shows.comesTo_extract extractors).unique halone hs
      exact ⟨i, seen, members, hseen, htime, houtcome, hsome, hname, hvalue⟩
  sorted := Members.isAscending_ofList _

/-- The frames of every page are looked into by themselves: those that load in time are counted, and
those of them that bring any fields alone have a section with these fields under their number; if
the frames cannot be listed, there is nothing. Where a page has the same in the place of a frame,
with whatever else around it, on whatever engine, the section of that frame is the same. -/
theorem Stages.exists_run_extractFrames {listing : Outcome (List F)} {known : List FrameSight}
    (hstages : engine.Stages page steady listing known) (extractors : List Extractor) (limit : Nat)
    (clock : Nat) {s : σ} (hs : steady s) :
    ∃ fields ended t,
      (engine.extractFrames page extractors limit).run none clock s = some (fields, ended, t) ∧
      engine.Collects steady (listing.toOption.getD []) known extractors limit fields ∧
      (∀ cause, listing = .error cause → fields.sections = [] ∧ fields.processed = 0) ∧
      ∀ (other : PageEngine σ F) (its : Page σ F) (calm : σ → Prop) (found : Outcome (List F))
        (others : List FrameSight), other.Stages its calm found others →
        ∀ later u, calm u → ∃ theirs last v,
          (other.extractFrames its extractors limit).run none later u = some (theirs, last, v) ∧
          ∀ i, others[i]? = known[i]? →
            theirs.sections.get? (FrameFields.sectionName i) =
              fields.sections.get? (FrameFields.sectionName i) := by
  obtain ⟨ended, t, hrun, -⟩ := hstages.runsTo_extractFrames extractors limit clock s hs
  refine ⟨_, ended, t, hrun, hstages.collects hs, ?_, ?_⟩
  · rintro cause rfl
    cases hstages.follows
    exact ⟨rfl, rfl⟩
  · intro other its calm found others hothers later u hu
    obtain ⟨last, v, hruns, -⟩ := hothers.runsTo_extractFrames extractors limit later u hu
    exact ⟨_, last, v, hruns, fun i hsame => FrameSight.get?_sectionName_fields_congr hsame⟩

end PageEngine

/-! ## Rehearsed frames -/

namespace Rehearsal

/-- What is known of a scripted frame. -/
def FrameScript.known (frame : FrameScript) : FrameSight where
  loading := if frame.neverLoads then .never else .loads 0
  sight :=
    { address := .ok (some "https://example.com/frame")
      select := fun selector attributeName multiple =>
        if frame.failing.contains selector then .error (queryFailure selector)
        else match attributeName with
          | some _ => .ok []
          | none => .ok (found multiple (frame.texts.lookup selector)) }

theorem FrameScript.follows (script : PageScript) (frame : FrameScript) :
    script.engine.Follows (fun _ => True) frame frame.known where
  loading clock stage _ := by
    simp only [PageScript.engine, FrameScript.awaitLoad, FrameScript.known]
    cases frame.neverLoads with
    | true => rfl
    | false => exact ⟨stage, rfl⟩
  keeps := by
    simp only [PageScript.engine, FrameScript.awaitLoad]
    cases frame.neverLoads with
    | true => exact fun _ _ => trivial
    | false => trivial
  shows :=
    { select := fun selector attributeName multiple => by
        simp only [PageScript.engine, FrameScript.document, FrameScript.known]
        split
        · exact Activity.comesTo_done _ _
        · cases attributeName <;> exact Activity.comesTo_done _ _
      address := Activity.comesTo_done _ _ }

namespace PageScript

/-- The frames of a scripted page are known by their scripts. -/
theorem stages_frames (script : PageScript) (hfaults : script.faults.lookup .frames = none) :
    script.engine.Stages script.page (fun _ => True) (.ok script.frames)
      (script.frames.map FrameScript.known) where
  lists := by
    have hframes : script.page.frames = pure script.frames := by simp [page, faulty, hfaults]
    rw [hframes]
    exact Activity.comesTo_done _ _
  follows := by
    rw [List.forall₂_map_right_iff]
    exact List.forall₂_same.mpr fun frame _ => FrameScript.follows script frame

/-- A page with a frame that never loads, one whose price cannot be read, one with a price, and an
empty one. -/
def framedPrices : PageScript where
  frames :=
    [{ texts := [(".price", ["9"])], neverLoads := true }, { failing := [".price"] },
     { texts := [(".price", [" 12 EUR "])] }, {}]

/-- The price of the third frame is the only section, under its number. -/
theorem exists_run_extractFrames_framedPrices :
    framedPrices.engine.Stages framedPrices.page (fun _ => True) (.ok framedPrices.frames)
        (framedPrices.frames.map FrameScript.known) ∧
      ∃ fields ended t,
        (framedPrices.engine.extractFrames framedPrices.page
            [{ name := "price", selector := ".price", required := true }] 5000).run none 0 {} =
          some (fields, ended, t) ∧
        framedPrices.engine.Collects (fun _ => True) framedPrices.frames
          (framedPrices.frames.map FrameScript.known)
          [{ name := "price", selector := ".price", required := true }] 5000 fields ∧
        ended = 5000 ∧ fields.processed = 3 ∧ fields.sections.map Prod.fst = ["iframe_2"] := by
  have hstages := framedPrices.stages_frames rfl
  obtain ⟨fields, ended, t, hrun, hcollects, -, -⟩ := hstages.exists_run_extractFrames
    [{ name := "price", selector := ".price", required := true }] 5000 0 (s := {}) trivial
  have hruns : ((framedPrices.engine.extractFrames framedPrices.page
      [{ name := "price", selector := ".price", required := true }] 5000).run none 0 {}).map
        (fun last => (last.1.processed, last.1.sections.map Prod.fst, last.2.1)) =
      some (3, ["iframe_2"], 5000) := by
    decide +kernel
  rw [hrun, Option.map_some, Option.some.injEq, Prod.ext_iff, Prod.ext_iff] at hruns
  exact ⟨hstages, fields, ended, t, hrun, hcollects, hruns.2.2, hruns.1, hruns.2.1⟩

end PageScript

end Rehearsal

end SiteWatch
