/-
# Where a plan leads

Whatever the given instructions are, their plan opens the requested page: some step of it does, and
no run of it goes anywhere before it has gone there. Apart from that one step the plan is what was
given, in the order of the steps.

A step that opens a page may be given without an address. The plan fills in the address of the first
such step only, and another one without an address fails as soon as its turn comes. So a plan runs
into that failure if and only if a step after the first that opens a page has no address. The rules
for instructions do not tell: they never look at the address of a step.
-/

import SiteWatch.Proofs.Scrape.Itinerary
import SiteWatch.Proofs.Scrape.Turns
import SiteWatch.Proofs.Site.Plans

namespace SiteWatch

variable {σ F : Type}

/-! ## The requested page -/

/-- A list holds given instructions and no others, apart from one step that opens a page: it opens
the page instead of a given one, or has been added as a required step where none was given. -/
def HoldsOpening (url : String) (given plan : List Instruction) : Prop :=
  ∃ opening others, plan.Perm (opening :: others) ∧ opening.action = .navigate (some url) ∧
    ((∃ first : Instruction, first.action.isNavigate = true ∧ opening = first.sentTo url ∧
        given.Perm (first :: others)) ∨
      (opening.optional = false ∧ (∀ i ∈ given, i.action.isNavigate = false) ∧
        given.Perm others))

namespace IsPlan

variable {url : String} {given plan : List Instruction}

theorem holdsOpening (hplan : IsPlan url given plan) : HoldsOpening url given plan := by
  cases hplan with
  | @retargeted before after first horder hbefore hfirst =>
      exact ⟨first.sentTo url, before ++ after, List.perm_middle, rfl,
        .inl ⟨first, hfirst, rfl, horder.perm.symm.trans List.perm_middle⟩⟩
  | @preceded sorted horder hnone =>
      exact ⟨Instruction.navigateTo 0 url, sorted, .refl _, rfl,
        .inr ⟨rfl, fun i hi => hnone i (horder.mem_iff.mpr hi), horder.perm.symm⟩⟩

end IsPlan

/-- Where a list of steps leads that is to be the plan for a page. -/
structure LeadsTo (url : String) (given plan : List Instruction) : Prop where
  /-- It is the given instructions in the order of their steps, with a step that opens the page. -/
  isPlan : IsPlan url given plan
  /-- Nothing else is. -/
  unique : ∀ other, IsPlan url given other → other = plan
  /-- No instruction is lost or doubled. -/
  holds : HoldsOpening url given plan
  /-- Planning the plan again leaves it as it is. -/
  again : planFor url plan = plan
  /-- At every moment of a run, whatever fails and whatever others do in the meantime, the page has
  gone nowhere, or to the requested address first. -/
  begins : ∀ {σ F : Type} (service : ScrapeService σ F) (visit : Visit) (page : Page σ F)
    {s t : Noted (Watched σ)},
    (service.watched.follow visit page.watched plan).run.CanReach Noted.Underway t s →
      ∃ gone, t.way = s.way ++ gone.map .going ∧ (gone = [] ∨ gone.head? = some url)
  /-- A run that is not cut short has gone there. -/
  goes : ∀ {σ F : Type} (service : ScrapeService σ F) (visit : Visit) (page : Page σ F)
    {s t : Noted (Watched σ)},
    (service.watched.follow visit page.watched plan).run.CanEnd Noted.Underway (.ok ()) t s →
      ∃ gone, t.way = s.way ++ (url :: gone).map .going

/-- Every list of instructions has a plan for every page, and it leads to the page. -/
theorem leadsTo_planFor (url : String) (instructions : List Instruction) :
    LeadsTo url instructions (planFor url instructions) := by
  have hplan := isPlan_planFor url instructions
  obtain ⟨others, hroute⟩ :
      ∃ others, (planFor url instructions).filterMap Instruction.destination? = url :: others :=
    ⟨_, Visit.filterMap_destination?_plan
      { site := { id := "", domain := "", instructions }, request := { url } }⟩
  refine ⟨hplan, fun other hother => hother.eq_planFor, hplan.holdsOpening,
    hplan.again.eq_planFor.symm, ?_, ?_⟩
  · intro σ F service visit page s t hreaches
    obtain ⟨added, hadded, hway⟩ :=
      (service.adds_follow visit page (planFor url instructions)).partly hreaches
    obtain ⟨gone, hgone, rfl⟩ := List.prefix_map_iff.mp hadded
    rw [hroute] at hgone
    refine ⟨gone, hway, ?_⟩
    rcases List.prefix_cons_iff.mp hgone with rfl | ⟨later, rfl, -⟩
    · exact .inl rfl
    · exact .inr rfl
  · intro σ F service visit page s t hends
    have hway := (service.adds_follow visit page (planFor url instructions)).wholly rfl hends
    rw [hroute] at hway
    exact ⟨others, hway⟩

/-! ## Steps without an address -/

namespace Instruction

/-- A step that opens a page, without the address of one. -/
def IsAimless (i : Instruction) : Prop := i.action = .navigate none

instance : DecidablePred IsAimless := fun i =>
  inferInstanceAs (Decidable (i.action = .navigate none))

/-- The same step, without an address if it opens a page. -/
def untargeted (i : Instruction) : Instruction :=
  if i.action.isNavigate then { i with action := .navigate none } else i

/-- An aimless step fails at once. -/
theorem IsAimless.perform_eq {i : Instruction} (haimless : i.IsAimless) (page : Page σ F)
    (album : Album σ) (limit : Nat) :
    i.perform page album limit = throw (.invalid "navigate instruction has no URL") := by
  unfold perform
  rw [haimless]

theorem IsAimless.isNavigate {i : Instruction} (haimless : i.IsAimless) :
    i.action.isNavigate = true :=
  congrArg Action.isNavigate haimless

end Instruction

/-! ## The rules for instructions -/

theorem Instruction.problem?_untargeted (i : Instruction) : i.untargeted.problem? = i.problem? := by
  unfold untargeted problem?
  cases haction : i.action <;> simp [Action.isNavigate, haction]

theorem Instruction.step_untargeted (i : Instruction) : i.untargeted.step = i.step := by
  unfold untargeted
  split <;> rfl

/-- The problems of instructions do not depend on addresses. -/
theorem instructionProblems_untargeted (instructions : List Instruction) :
    instructionProblems (instructions.map Instruction.untargeted) =
      instructionProblems instructions := by
  unfold instructionProblems
  rw [List.filterMap_map]
  refine List.filterMap_congr fun i _ => ?_
  simp only [Function.comp_apply, Instruction.problem?_untargeted, Instruction.step_untargeted]

theorem stepProblems_untargeted (instructions : List Instruction) (extractors : List Extractor) :
    stepProblems (instructions.map Instruction.untargeted) extractors =
      stepProblems instructions extractors :=
  congrArg (· ++ extractorProblems [] extractors) (instructionProblems_untargeted instructions)

theorem validateOverrides_untargeted (instructions : List Instruction)
    (extractors : Option (List Extractor)) :
    validateOverrides (some (instructions.map Instruction.untargeted)) extractors =
      validateOverrides (some instructions) extractors := by
  unfold validateOverrides
  rw [Option.getD_some, Option.getD_some, stepProblems_untargeted]

theorem Site.validate_untargeted (site : Site) :
    validate { site with instructions := site.instructions.map Instruction.untargeted } =
      site.validate := by
  unfold validate problems
  rw [stepProblems_untargeted]

/-! ## The steps of a plan -/

/-- The steps that open a page and are not the first to do so, in order. -/
def laterOpenings (instructions : List Instruction) : List Instruction :=
  ((sortByStep instructions).filter (·.action.isNavigate)).tail

/-- The aimless steps of a plan are those after the first that opens a page. -/
theorem isAimless_mem_planFor_iff {url : String} {instructions : List Instruction}
    {i : Instruction} (haimless : i.IsAimless) :
    i ∈ planFor url instructions ↔ i ∈ laterOpenings instructions := by
  have hplan := isPlan_planFor url instructions
  have hsorted := isStepOrder_sortByStep instructions
  have hopens := haimless.isNavigate
  unfold laterOpenings
  generalize planFor url instructions = plan at hplan
  cases hplan with
  | @retargeted before after first horder hbefore hfirst =>
      have hearlier : i ∉ before := fun hi => by simp [hbefore i hi] at hopens
      have hnone : before.filter (·.action.isNavigate) = [] :=
        List.filter_eq_nil_iff.mpr fun j hj => by simp [hbefore j hj]
      have hfirst' : i ≠ first.sentTo url := by
        rintro rfl
        cases haimless
      rw [hsorted.unique horder, List.filter_append, hnone, List.nil_append, List.filter_cons,
        if_pos hfirst, List.tail_cons]
      simp [hearlier, hfirst', hopens]
  | @preceded sorted horder hnone =>
      have hadded : i ≠ Instruction.navigateTo 0 url := by
        rintro rfl
        cases haimless
      have hgiven : i ∉ sorted := fun hi => by simp [hnone i hi] at hopens
      have hempty : sorted.filter (·.action.isNavigate) = [] :=
        List.filter_eq_nil_iff.mpr fun j hj => by simp [hnone j hj]
      rw [hsorted.unique horder, hempty]
      simp [hadded, hgiven]

/-! ## Runs of a plan -/

namespace ScrapeService

variable (service : ScrapeService σ F) (visit : Visit)

/-- What steps can come to in turn is what carrying them out can come to. -/
theorem exists_canEnd_follow_of_inTurn {meantime : Meantime σ} (page : Page σ F)
    {plan : List Instruction} {performed : List (Instruction × Outcome Unit)} {s t : σ}
    (hturns : InTurn (Instruction.ComesTo meantime page service.album visit.site.options)
      Instruction.fault? plan performed s t) (notes : ScrapeMetadata) :
    ∃ later, (service.follow visit page plan).run.CanEnd (Noted.beside meantime)
      (outcomeOf () (firstFault Instruction.fault? performed)) (later, t) (notes, s) := by
  induction hturns generalizing notes with
  | nil s => exact ⟨notes, rfl, rfl⟩
  | @next i answer rest answered s u t hdoes hgoes hrest ih =>
      have hstep : (Noted.attempt (i.execute page service.album visit.site.options)).run.CanEnd
          (Noted.beside meantime) (.ok answer.toBool) (notes, u) (notes, s) := by
        refine Noted.canEnd_attempt_iff.mpr ⟨Activity.canEnd_bind.mpr ⟨answer, u, hdoes, ?_⟩, rfl⟩
        rw [i.settle_eq, hgoes]
        exact ⟨rfl, rfl⟩
      have hfirst : firstFault Instruction.fault? ((i, answer) :: answered) =
          firstFault Instruction.fault? answered := by
        rw [firstFault, List.findSome?_cons, hgoes]
        rfl
      rw [hfirst]
      cases answer with
      | ok value =>
          obtain ⟨later, hends⟩ :=
            ih { notes with instructionsExecuted := notes.instructionsExecuted + 1 }
          exact ⟨later, Attempt.canEnd_bind_of_ok hstep (Noted.canEnd_note_bind.mpr hends)⟩
      | error cause =>
          obtain ⟨later, hends⟩ := ih notes
          exact ⟨later, Attempt.canEnd_bind_of_ok hstep hends⟩
  | @last i answer rest s t cause hdoes hfault =>
      refine ⟨notes, Attempt.canEnd_bind.mpr (.inl ⟨cause, ?_, ?_⟩)⟩
      · refine Noted.canEnd_attempt_iff.mpr ⟨Activity.canEnd_bind.mpr ⟨answer, t, hdoes, ?_⟩, rfl⟩
        rw [i.settle_eq, hfault]
        exact ⟨rfl, rfl⟩
      · simp [firstFault, hfault, outcomeOf]

/-- A list of steps can be carried out like this, with whatever others do in the meantime: these
steps had their turn, and came to these outcomes. -/
def CarriesOut (page : Page σ F) (plan : List Instruction)
    (performed : List (Instruction × Outcome Unit)) : Prop :=
  ∃ s t : Noted σ,
    (service.follow visit page plan).run.CanEnd (Noted.beside Meantime.free)
      (outcomeOf () (firstFault Instruction.fault? performed)) t s ∧
    InTurn (Instruction.ComesTo Meantime.free page service.album visit.site.options)
      Instruction.fault? plan performed s.2 t.2

end ScrapeService

/-! A page on which every call succeeds at once. -/

namespace Page

/-- Every call succeeds at once and finds nothing. -/
def pliant : Page Unit Empty where
  select _ _ _ := pure []
  contentFrame _ := pure none
  address := pure none
  goto _ := pure ()
  click _ := pure ()
  enter _ _ := pure ()
  scroll _ := pure ()
  awaitSelector _ := pure ()
  awaitNavigation := pure ()
  awaitNetworkIdle := pure ()
  screenshot := pure .empty
  frames := pure []
  memoryUsage := pure none

end Page

/-- A service whose pages are pliant, and whose pictures are always saved. -/
def ScrapeService.pliant : ScrapeService Unit Empty where
  engine := {
    launch _ := pure { openPage := fun _ => pure .pliant, close := pure () }
    document := nofun
    awaitLoad := nofun }
  robots _ := .done .allowed
  sites := SiteSource.fixed []
  album := { directory := "", save := fun _ _ s => (.ok (), s) }
  now _ := default

namespace Instruction

theorem canEnd_await_pliant (condition : Option WaitCondition) (selector value : Option String)
    (limit : Nat) :
    (await .pliant condition selector value limit).run.CanEnd Meantime.free (.ok ()) () () := by
  unfold await
  split
  · exact ⟨rfl, rfl⟩
  · exact ⟨rfl, rfl⟩
  · exact ⟨rfl, rfl⟩
  · exact ⟨rfl, rfl⟩
  · have hdue : ({ after := some (pauseMs value limit) } : Pause Unit).endsBy .due
        (pauseMs value limit) () = true := by
      simp [Pause.endsBy]
    exact ⟨.due, pauseMs value limit, (), ⟨hdue, rfl⟩, rfl, rfl⟩

/-- Every step but an aimless one can succeed on a pliant page. -/
theorem comesTo_ok_pliant {i : Instruction} (haim : ¬ i.IsAimless) (options : PageOptions) :
    i.ComesTo Meantime.free .pliant ScrapeService.pliant.album options (.ok ()) () () := by
  unfold ComesTo perform
  cases haction : i.action with
  | navigate target =>
      cases target with
      | none => exact absurd haction haim
      | some url => exact ⟨rfl, rfl⟩
  | click selector =>
      refine Attempt.canEnd_bind_of_ok ⟨rfl, rfl⟩ ?_
      split
      · exact ⟨rfl, rfl⟩
      · exact ⟨rfl, rfl⟩
  | wait selector value => exact canEnd_await_pliant _ _ _ _
  | enter selector text => exact ⟨rfl, rfl⟩
  | scroll selector => exact ⟨rfl, rfl⟩
  | extract => exact ⟨rfl, rfl⟩
  | screenshot name => exact ⟨rfl, rfl⟩

end Instruction

/-- On a pliant page steps have their turn up to an aimless one, if there is one. -/
theorem exists_inTurn_pliant (options : PageOptions) (plan : List Instruction) :
    ∃ performed,
      InTurn (Instruction.ComesTo Meantime.free .pliant ScrapeService.pliant.album options)
        Instruction.fault? plan performed () () ∧
      ((∃ i ∈ plan, i.IsAimless) → ∃ i : Instruction, i.IsAimless ∧
        (i, .error (.invalid "navigate instruction has no URL")) ∈ performed) := by
  induction plan with
  | nil => exact ⟨[], .nil (), nofun⟩
  | cons i rest ih =>
      obtain ⟨performed, hturns, hmeets⟩ := ih
      by_cases haim : i.IsAimless
      · have hdoes : i.ComesTo Meantime.free .pliant ScrapeService.pliant.album options
            (.error (.invalid "navigate instruction has no URL")) () () := by
          unfold Instruction.ComesTo
          rw [haim.perform_eq]
          exact ⟨rfl, rfl⟩
        cases hfault : i.fault? (.error (.invalid "navigate instruction has no URL")) with
        | none => exact ⟨_, .next hdoes hfault hturns, fun _ => ⟨i, haim, List.mem_cons_self⟩⟩
        | some cause => exact ⟨_, .last hdoes hfault, fun _ => ⟨i, haim, List.mem_cons_self⟩⟩
      · refine ⟨_, .next (Instruction.comesTo_ok_pliant haim options) rfl hturns, ?_⟩
        rintro ⟨j, hj, hjaim⟩
        rcases List.mem_cons.mp hj with rfl | hj
        · exact absurd hjaim haim
        · obtain ⟨k, hk, hmem⟩ := hmeets ⟨j, hj, hjaim⟩
          exact ⟨k, hk, List.mem_cons_of_mem _ hmem⟩

/-- What it takes for the plan of a page to be without aimless steps. -/
structure AimOfPlan (url : String) (instructions : List Instruction) : Prop where
  /-- All steps after the first that opens a page must have an address. -/
  steps : (∀ i ∈ planFor url instructions, ¬ i.IsAimless) ↔
    ∀ i ∈ laterOpenings instructions, ¬ i.IsAimless
  /-- The same keeps every run of the plan, on any page, from the failure of an aimless step. -/
  runs : (∀ (σ F : Type) (service : ScrapeService σ F) (visit : Visit) (page : Page σ F) performed,
      service.CarriesOut visit page (planFor url instructions) performed →
        ∀ i : Instruction, i.IsAimless →
          (i, .error (.invalid "navigate instruction has no URL")) ∉ performed) ↔
    ∀ i ∈ laterOpenings instructions, ¬ i.IsAimless
  /-- The rules for what a request brings along are the same without any addresses. -/
  overrides : ∀ extractors,
    validateOverrides (some (instructions.map Instruction.untargeted)) extractors =
      validateOverrides (some instructions) extractors
  /-- So are the rules for a site. -/
  site : ∀ site : Site,
    Site.validate { site with instructions := instructions.map Instruction.untargeted } =
      Site.validate { site with instructions }

theorem aimOfPlan (url : String) (instructions : List Instruction) :
    AimOfPlan url instructions := by
  have hsteps : (∀ i ∈ planFor url instructions, ¬ i.IsAimless) ↔
      ∀ i ∈ laterOpenings instructions, ¬ i.IsAimless :=
    ⟨fun haims i hi haim => haims i ((isAimless_mem_planFor_iff haim).mpr hi) haim,
      fun haims i hi haim => haims i ((isAimless_mem_planFor_iff haim).mp hi) haim⟩
  refine ⟨hsteps, ?_, validateOverrides_untargeted instructions, fun site =>
    Site.validate_untargeted { site with instructions }⟩
  rw [← hsteps]
  constructor
  · intro hruns i hi haim
    let visit : Visit := { site := { id := "", domain := "" }, request := { url } }
    obtain ⟨performed, hturns, hmeets⟩ :=
      exists_inTurn_pliant visit.site.options (planFor url instructions)
    obtain ⟨later, hends⟩ :=
      ScrapeService.pliant.exists_canEnd_follow_of_inTurn visit .pliant hturns {}
    obtain ⟨j, hj, hmem⟩ := hmeets ⟨i, hi, haim⟩
    exact hruns Unit Empty ScrapeService.pliant visit .pliant performed
      ⟨({}, ()), (later, ()), hends, hturns⟩ j hj hmem
  · rintro haims σ F service visit page performed ⟨s, t, -, hturns⟩ i haim hmem
    obtain ⟨rest, hplan⟩ := hturns.exists_rest
    have hi : i ∈ planFor url instructions := by
      rw [hplan]
      exact List.mem_append_left _ (List.mem_map_of_mem hmem)
    exact haims i hi haim

/-! A request that opens its page, and goes on to nowhere. -/

namespace ScrapeService

/-- A request with a second step that opens a page, and no address for it. -/
def adrift : ScrapeRequest where
  url := "https://example.com/events"
  instructions := some [
    { step := 1, description := "open", action := .navigate none },
    { step := 2, description := "go on", action := .navigate none }]
  options := { useCache := false }

/-- The rules let it pass, and a browser is started and goes to the page before the scrape fails. -/
theorem adrift_is_valid_and_fails :
    let s : Scraping Rehearsal.Stage := { world := {} }
    let site : Site := { id := "events", domain := "example.com" }
    validateOverrides adrift.instructions none = .ok () ∧
      Site.validate { site with instructions := adrift.instructions.getD [] } = .ok () ∧
      (∃ i ∈ planFor adrift.url (adrift.instructions.getD []), i.IsAimless) ∧
      ∃ result finish t, ((scripted {} 0).scrape adrift).run none 0 s = some (result, finish, t) ∧
        result.errors = [(Failure.networkFailed
          (Failure.invalid "navigate instruction has no URL").message).message] ∧
        t.world.actions = ["goto https://example.com/events"] ∧ t.world.launches = 1 := by
  intro s site
  have hruns : (((scripted {} 0).scrape adrift).run none 0 s).any (fun ended =>
      decide (ended.1.errors = [(Failure.networkFailed
          (Failure.invalid "navigate instruction has no URL").message).message] ∧
        ended.2.2.world.actions = ["goto https://example.com/events"] ∧
        ended.2.2.world.launches = 1)) = true := by
    decide +kernel
  obtain ⟨⟨result, finish, t⟩, hrun, hended⟩ := (Option.any_eq_true _ _).mp hruns
  exact ⟨by decide +kernel, by decide +kernel, by decide +kernel, result, finish, t, hrun,
    of_decide_eq_true hended⟩

end ScrapeService

end SiteWatch
