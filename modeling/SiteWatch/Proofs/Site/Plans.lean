/-
# What a plan holds

The plan for a page holds the given instructions in the order of their steps, those of one step in
the order in which they were given. The first of them that opens a page opens the requested one
instead; when none does, a required step that does so stands in front. This tells what the plan is,
and since a plan is in order already and opens its page first, the plan for the same page that is
made of a plan is that plan.
-/

import Mathlib.Data.List.Basic
import SiteWatch.Site.Plan

namespace SiteWatch

/-! ## Order -/

/-- A list holds given instructions in the order of their steps, those of one step in the order in
which they were given. -/
structure IsStepOrder (given sorted : List Instruction) : Prop where
  ascending : sorted.Pairwise (·.step ≤ ·.step)
  steps : ∀ step, sorted.filter (·.step = step) = given.filter (·.step = step)

namespace IsStepOrder

variable {given sorted : List Instruction}

/-- Nothing is lost and nothing is doubled. -/
theorem perm (horder : IsStepOrder given sorted) : sorted.Perm given := by
  refine List.perm_iff_count.mpr fun i => ?_
  have hcount (list : List Instruction) :
      (list.filter (·.step = i.step)).count i = list.count i :=
    List.count_filter (decide_eq_true rfl)
  rw [← hcount, horder.steps, hcount]

theorem mem_iff (horder : IsStepOrder given sorted) {i : Instruction} : i ∈ sorted ↔ i ∈ given :=
  horder.perm.mem_iff

end IsStepOrder

theorem mem_iff_of_filter_eq {sorted other : List Instruction}
    (hsteps : ∀ step, sorted.filter (·.step = step) = other.filter (·.step = step))
    {i : Instruction} : i ∈ sorted ↔ i ∈ other := by
  simpa using iff_of_eq (congrArg (i ∈ ·) (hsteps i.step))

theorem step_le_of_mem {i j : Instruction} {rest : List Instruction}
    (hsorted : (i :: rest).Pairwise (·.step ≤ ·.step)) (hj : j ∈ i :: rest) : i.step ≤ j.step := by
  rcases List.mem_cons.mp hj with rfl | hj
  · exact Nat.le_refl _
  · exact List.rel_of_pairwise_cons hsorted hj

/-- The instructions of every step tell what an ascending list is. -/
theorem eq_of_ascending {sorted other : List Instruction}
    (hsorted : sorted.Pairwise (·.step ≤ ·.step)) (hother : other.Pairwise (·.step ≤ ·.step))
    (hsteps : ∀ step, sorted.filter (·.step = step) = other.filter (·.step = step)) :
    sorted = other := by
  have hmem {i : Instruction} : i ∈ sorted ↔ i ∈ other := mem_iff_of_filter_eq hsteps
  induction sorted generalizing other with
  | nil => exact (List.eq_nil_iff_forall_not_mem.mpr fun i hi => nomatch hmem.mpr hi).symm
  | cons i rest ih =>
      cases other with
      | nil => exact nomatch hmem.mp List.mem_cons_self
      | cons j more =>
          -- Each head is in both lists, and so of the earliest step of both.
          have hstep : i.step = j.step :=
            Nat.le_antisymm (step_le_of_mem hsorted (hmem.mpr List.mem_cons_self))
              (step_le_of_mem hother (hmem.mp List.mem_cons_self))
          obtain rfl : i = j := by
            have hheads := hsteps i.step
            simp only [List.filter_cons, hstep, decide_true, if_true] at hheads
            exact (List.cons.inj hheads).1
          have htails (step : Nat) :
              rest.filter (·.step = step) = more.filter (·.step = step) := by
            have hboth := hsteps step
            simp only [List.filter_cons] at hboth
            split at hboth
            · exact (List.cons.inj hboth).2
            · exact hboth
          rw [ih (List.Pairwise.of_cons hsorted) (List.Pairwise.of_cons hother) htails
            (mem_iff_of_filter_eq htails)]

/-- There is one such order. -/
theorem IsStepOrder.unique {given sorted other : List Instruction}
    (hsorted : IsStepOrder given sorted) (hother : IsStepOrder given other) : sorted = other :=
  eq_of_ascending hsorted.ascending hother.ascending fun step =>
    (hsorted.steps step).trans (hother.steps step).symm

theorem perm_insertByStep (i : Instruction) (sorted : List Instruction) :
    (insertByStep i sorted).Perm (i :: sorted) := by
  induction sorted with
  | nil => exact .refl _
  | cons j rest ih =>
      unfold insertByStep
      split
      · exact .refl _
      · exact (ih.cons j).trans (.swap i j rest)

theorem pairwise_insertByStep {sorted : List Instruction}
    (hsorted : sorted.Pairwise (·.step ≤ ·.step)) (i : Instruction) :
    (insertByStep i sorted).Pairwise (·.step ≤ ·.step) := by
  induction sorted with
  | nil => exact List.pairwise_singleton _ i
  | cons j rest ih =>
      obtain ⟨hj, hrest⟩ := List.pairwise_cons.mp hsorted
      unfold insertByStep
      split
      · rename_i hearlier
        exact List.pairwise_cons.mpr ⟨fun k hk =>
          Nat.le_trans (Nat.le_of_lt hearlier) (step_le_of_mem hsorted hk), hsorted⟩
      · rename_i hlater
        refine List.pairwise_cons.mpr ⟨fun k hk => ?_, ih hrest⟩
        rcases List.mem_cons.mp ((perm_insertByStep i rest).mem_iff.mp hk) with rfl | hk
        · exact Nat.le_of_not_lt hlater
        · exact hj k hk

/-- An instruction is put behind those of its step. -/
theorem filter_insertByStep {sorted : List Instruction}
    (hsorted : sorted.Pairwise (·.step ≤ ·.step)) (i : Instruction) (step : Nat) :
    (insertByStep i sorted).filter (·.step = step) =
      sorted.filter (·.step = step) ++ [i].filter (·.step = step) := by
  induction sorted with
  | nil => rfl
  | cons j rest ih =>
      unfold insertByStep
      split
      · rename_i hearlier
        by_cases hstep : i.step = step
        · -- All that follow belong to later steps.
          have hnone : (j :: rest).filter (·.step = step) = [] := by
            refine List.filter_eq_nil_iff.mpr fun k hk => ?_
            have hle := step_le_of_mem hsorted hk
            rw [decide_eq_true_eq]
            omega
          rw [hnone, List.filter_cons, hnone, if_pos (by simpa using hstep)]
          simp [hstep]
        · rw [List.filter_cons]
          simp [hstep]
      · rw [List.filter_cons, List.filter_cons, ih (List.Pairwise.of_cons hsorted)]
        split <;> simp

/-- A further instruction comes behind those of its step. -/
theorem IsStepOrder.insert {given sorted : List Instruction} (horder : IsStepOrder given sorted)
    (i : Instruction) : IsStepOrder (given ++ [i]) (insertByStep i sorted) where
  ascending := pairwise_insertByStep horder.ascending i
  steps step := by
    rw [filter_insertByStep horder.ascending, horder.steps, List.filter_append]

/-- Sorting by step puts instructions in this order. -/
theorem isStepOrder_sortByStep (instructions : List Instruction) :
    IsStepOrder instructions (sortByStep instructions) := by
  have hfold (given sorted : List Instruction) (horder : IsStepOrder given sorted) :
      IsStepOrder (given ++ instructions)
        (instructions.foldl (fun sorted i => insertByStep i sorted) sorted) := by
    induction instructions generalizing given sorted with
    | nil => exact (List.append_nil given).symm ▸ horder
    | cons i rest ih =>
        have hrest := ih (given ++ [i]) (insertByStep i sorted) (horder.insert i)
        rwa [List.append_assoc, List.singleton_append] at hrest
  exact hfold [] [] ⟨.nil, fun _ => rfl⟩

/-! ## Plans -/

/-- The same step, opening another page. -/
def Instruction.sentTo (url : String) (i : Instruction) : Instruction :=
  { i with action := .navigate (some url) }

/-- What the plan for a page is, in terms of the given instructions. -/
inductive IsPlan (url : String) (given : List Instruction) : List Instruction → Prop where
  /-- The first step that opens a page opens the requested one, and all else is as it was given. -/
  | retargeted {before after : List Instruction} {first : Instruction}
      (horder : IsStepOrder given (before ++ first :: after))
      (hbefore : ∀ i ∈ before, i.action.isNavigate = false)
      (hfirst : first.action.isNavigate = true) :
      IsPlan url given (before ++ first.sentTo url :: after)
  /-- No step opens a page, and a required one that opens the requested page comes first. -/
  | preceded {sorted : List Instruction} (horder : IsStepOrder given sorted)
      (hnone : ∀ i ∈ sorted, i.action.isNavigate = false) :
      IsPlan url given (Instruction.navigateTo 0 url :: sorted)

theorem retarget?_append {url : String} {before after : List Instruction} {first : Instruction}
    (hbefore : ∀ i ∈ before, i.action.isNavigate = false)
    (hfirst : first.action.isNavigate = true) :
    retarget? url (before ++ first :: after) = some (before ++ first.sentTo url :: after) := by
  induction before with
  | nil => exact if_pos hfirst
  | cons i rest ih =>
      obtain ⟨hi, hrest⟩ := List.forall_mem_cons.mp hbefore
      simp [retarget?, hi, ih hrest]

theorem retarget?_eq_none {url : String} {steps : List Instruction}
    (hnone : ∀ i ∈ steps, i.action.isNavigate = false) : retarget? url steps = none := by
  induction steps with
  | nil => rfl
  | cons i rest ih =>
      obtain ⟨hi, hrest⟩ := List.forall_mem_cons.mp hnone
      simp [retarget?, hi, ih hrest]

theorem isPlan_planFor (url : String) (instructions : List Instruction) :
    IsPlan url instructions (planFor url instructions) := by
  have horder := isStepOrder_sortByStep instructions
  unfold planFor
  generalize sortByStep instructions = sorted at horder
  cases hfind : sorted.find? (·.action.isNavigate) with
  | none =>
      have hnone : ∀ i ∈ sorted, i.action.isNavigate = false := by simpa using hfind
      simp only [retarget?_eq_none hnone]
      exact .preceded horder hnone
  | some first =>
      obtain ⟨hfirst, before, after, rfl, hbefore⟩ := List.find?_eq_some_iff_append.mp hfind
      have hbefore : ∀ i ∈ before, i.action.isNavigate = false := by simpa using hbefore
      simp only [retarget?_append hbefore hfirst]
      exact .retargeted horder hbefore hfirst

/-- Steps of one number keep their order, and only the first that opens a page is sent elsewhere. -/
example : (planFor "https://example.com/" [
      { step := 2, description := "open", action := .navigate none },
      { step := 2, description := "go on", action := .navigate (some "https://example.org/") },
      { step := 0, description := "mark", action := .extract }]).map
        (fun i => (i.description, i.action)) =
    [("mark", .extract), ("open", .navigate (some "https://example.com/")),
      ("go on", .navigate (some "https://example.org/"))] := by
  decide

namespace IsPlan

variable {url : String} {given plan : List Instruction}

/-- Nothing else is the plan for a page. -/
theorem eq_planFor (hplan : IsPlan url given plan) : plan = planFor url given := by
  have hsorted := isStepOrder_sortByStep given
  cases hplan with
  | retargeted horder hbefore hfirst =>
      simp only [planFor, hsorted.unique horder, retarget?_append hbefore hfirst]
      rfl
  | preceded horder hnone =>
      simp only [planFor, hsorted.unique horder, retarget?_eq_none hnone]
      rfl

/-- A plan is the plan for its page of itself. -/
theorem again (hplan : IsPlan url given plan) : IsPlan url plan plan := by
  cases hplan with
  | @retargeted before after first horder hbefore hfirst =>
      have hsteps : ((before ++ first :: after).map (·.step)).Pairwise (· ≤ ·) :=
        List.pairwise_map.mpr horder.ascending
      have hsame : ((before ++ first.sentTo url :: after).map (·.step)).Pairwise (· ≤ ·) := by
        simpa [Instruction.sentTo] using hsteps
      have hagain : IsPlan url (before ++ first.sentTo url :: after)
          (before ++ (first.sentTo url).sentTo url :: after) :=
        .retargeted ⟨List.pairwise_map.mp hsame, fun _ => rfl⟩ hbefore rfl
      exact hagain
  | @preceded sorted horder hnone =>
      have hascending : (Instruction.navigateTo 0 url :: sorted).Pairwise (·.step ≤ ·.step) :=
        List.pairwise_cons.mpr ⟨fun _ _ => Nat.zero_le _, horder.ascending⟩
      have hagain : IsPlan url (Instruction.navigateTo 0 url :: sorted)
          ([] ++ (Instruction.navigateTo 0 url).sentTo url :: sorted) :=
        .retargeted ⟨hascending, fun _ => rfl⟩ nofun rfl
      exact hagain

end IsPlan

end SiteWatch
