/-
# The fields that a document brings

What comes of asking a document for fields is told by what the document shows: the texts that its
queries find, or their failures, and its address. Every field is worth something or nothing by
itself. If no required field is worth nothing, all fields that are worth something are brought, and
otherwise the first required field that is worth nothing is the failure. So it makes no difference in
which order fields of different names are asked for, nor whether a field is asked for that is not
required and worth nothing.
-/

import SiteWatch.Proofs.Json.Settled
import SiteWatch.Proofs.Scrape.Halting
import SiteWatch.Proofs.Scrape.Sections
import SiteWatch.Rehearsal.Page

namespace SiteWatch

variable {σ F α β : Type}

/-! ## Work with one answer -/

/-- Waits end as they may, and others leave the state as steady as it was. -/
def Meantime.keeping (steady : σ → Prop) : Meantime σ :=
  fun pause wake elapsed s t => pause.endsBy wake elapsed t = true ∧ (steady s → steady t)

/-- Work that has one and the same answer in all states of a kind: it comes to an end, never to
another answer, and leaves a state of that kind behind. -/
structure Activity.ComesTo (steady : σ → Prop) (value : α) (work : Activity σ α) : Prop where
  halts : ∀ s, steady s → ∃ t, work.CanEnd Meantime.idle value t s
  only : ∀ s t answer, steady s → work.CanEnd (Meantime.keeping steady) answer t s →
    answer = value ∧ steady t

namespace Activity

variable {steady : σ → Prop}

theorem comesTo_done (steady : σ → Prop) (value : α) :
    (done value : Activity σ α).ComesTo steady value where
  halts s _ := ⟨s, rfl, rfl⟩
  only s t answer hs hends := by
    obtain ⟨rfl, rfl⟩ := hends
    exact ⟨rfl, hs⟩

theorem comesTo_step {f : σ → α × σ} {value : α} (hvalue : ∀ s, steady s → (f s).1 = value)
    (hsteady : ∀ s, steady s → steady (f s).2) : (step f).ComesTo steady value where
  halts s hs := ⟨(f s).2, hvalue s hs, rfl⟩
  only s t answer hs hends := by
    obtain ⟨rfl, rfl⟩ := hends
    exact ⟨hvalue s hs, hsteady s hs⟩

/-- Work that is left to itself is not disturbed. -/
theorem CanEnd.keeping_of_idle {work : Activity σ α} {value : α} {s t : σ}
    (hends : work.CanEnd Meantime.idle value t s) :
    work.CanEnd (Meantime.keeping steady) value t s := by
  refine hends.mono fun pause wake elapsed s t hidle => ?_
  obtain ⟨hwake, rfl⟩ := hidle
  exact ⟨endsBy_of_firstWake hwake, id⟩

theorem ComesTo.bind {first : Activity σ α} {andThen : α → Activity σ β} {a : α} {b : β}
    (hfirst : first.ComesTo steady a) (hthen : (andThen a).ComesTo steady b) :
    (first.bind andThen).ComesTo steady b where
  halts s hs := by
    obtain ⟨u, hends⟩ := hfirst.halts s hs
    obtain ⟨-, hu⟩ := hfirst.only s u a hs hends.keeping_of_idle
    obtain ⟨t, hlast⟩ := hthen.halts u hu
    exact ⟨t, canEnd_bind.mpr ⟨a, u, hends, hlast⟩⟩
  only s t answer hs hends := by
    obtain ⟨found, u, hends, hlast⟩ := canEnd_bind.mp hends
    obtain ⟨rfl, hu⟩ := hfirst.only s u found hs hends
    exact hthen.only u t answer hu hlast

/-- Work has no two answers in states that there are. -/
theorem ComesTo.unique {work : Activity σ α} {value other : α} (hwork : work.ComesTo steady value)
    (hother : work.ComesTo steady other) {s : σ} (hs : steady s) : value = other := by
  obtain ⟨t, hends⟩ := hwork.halts s hs
  exact (hother.only s t value hs hends.keeping_of_idle).1

end Activity

namespace Attempt

variable {steady : σ → Prop} {outcome : Outcome β}

theorem comesTo_bind_ok {first : Attempt σ α} {andThen : α → Attempt σ β} {a : α}
    (hfirst : first.run.ComesTo steady (.ok a)) (hthen : (andThen a).run.ComesTo steady outcome) :
    (first >>= andThen).run.ComesTo steady outcome :=
  Activity.ComesTo.bind hfirst hthen

theorem comesTo_bind_error {first : Attempt σ α} {andThen : α → Attempt σ β} {cause : Failure}
    (hfirst : first.run.ComesTo steady (.error cause)) :
    (first >>= andThen).run.ComesTo steady (.error cause) :=
  Activity.ComesTo.bind hfirst (Activity.comesTo_done steady _)

theorem comesTo_bind_ofActivity {work : Activity σ α} {andThen : α → Attempt σ β} {a : α}
    (hwork : work.ComesTo steady a) (hthen : (andThen a).run.ComesTo steady outcome) :
    (ofActivity work >>= andThen).run.ComesTo steady outcome := by
  rw [run_bind_ofActivity]
  exact hwork.bind hthen

theorem comesTo_ok? {attempt : Attempt σ α} {outcome : Outcome α}
    (hattempt : attempt.run.ComesTo steady outcome) :
    attempt.ok?.ComesTo steady outcome.toOption :=
  Activity.ComesTo.bind hattempt (Activity.comesTo_done steady _)

end Attempt

/-! ## What a document shows -/

/-- What a document shows: its address and what its queries find, or how they fail. -/
structure Sight where
  address : Outcome (Option String)
  select : (selector : String) → (attributeName : Option String) → (multiple : Bool) →
    Outcome (List String)

/-- A document that shows the same in all states of a kind. -/
structure Document.Shows (document : Document σ F) (steady : σ → Prop) (sight : Sight) : Prop where
  select : ∀ selector attributeName multiple,
    (document.select selector attributeName multiple).run.ComesTo steady
      (sight.select selector attributeName multiple)
  address : document.address.run.ComesTo steady sight.address

namespace Sight

variable (sight : Sight)

/-- The address of the document, where it has one that is known. -/
def base : Option String := sight.address.toOption.join

/-- What the query for a field comes to. -/
def found (e : Extractor) : Outcome (List String) :=
  sight.select e.selector e.attributeName e.multiple

/-- The texts that are found for a field, trimmed, without those that are empty then. -/
def texts (e : Extractor) : List String :=
  match sight.found e with
  | .error _ => []
  | .ok found => (found.map Text.trim).filter fun text => !text.isEmpty

/-- What the transform of a field makes of its texts, as far as it makes anything of them. -/
def pieces (e : Extractor) : List Json :=
  (sight.texts e).filterMap (Transform.convert? e.transform sight.base)

/-- The value of a field: all of its pieces, or the first; none if there is no piece. -/
def value? (e : Extractor) : Option Json :=
  match sight.pieces e with
  | [] => none
  | piece :: rest => some (if e.multiple then .array (piece :: rest) else piece)

/-- Whether a field is required and has no value. -/
def Lacks (e : Extractor) : Prop := e.required = true ∧ sight.value? e = none

/-- What asking for fields has to come to. -/
structure Accounts (extractors : List Extractor) (outcome : Outcome Members) : Prop where
  succeeds_iff : (∃ fields, outcome = .ok fields) ↔
    ∀ e ∈ extractors, e.required = true → ∃ value, sight.value? e = some value
  /-- A failure tells the name of the first required field without a value. -/
  failure : ∀ cause, outcome = .error cause → ∃ before e after reason,
    extractors = before ++ e :: after ∧ sight.Lacks e ∧ (∀ other ∈ before, ¬ sight.Lacks other) ∧
      cause = .extractionFailed (s!"required field '{e.name}' " ++ reason)
  /-- Every name stands once. -/
  sorted : ∀ fields, outcome = .ok fields → fields.IsAscending
  /-- Under a name stands the value of the last field of that name that has one. -/
  fields : ∀ fields, outcome = .ok fields → ∀ name value, fields.get? name = some value ↔
    ∃ before e after, extractors = before ++ e :: after ∧ e.name = name ∧
      sight.value? e = some value ∧ ∀ other ∈ after, other.name = name → sight.value? other = none

/-! ## The outcome as a function of what is shown -/

/-- The failure of a required field without a value. -/
def fault? (e : Extractor) : Option Failure :=
  match sight.value? e with
  | some _ => none
  | none =>
    if e.required then
      some (match sight.found e with
        | .error cause => e.queryFailure cause
        | .ok _ => e.absence)
    else none

/-- The fields with a value, as they are asked for. -/
def valued (extractors : List Extractor) : Members :=
  extractors.filterMap fun e => (sight.value? e).map fun value => (e.name, value)

/-- What asking for fields comes to. -/
def outcome (extractors : List Extractor) : Outcome Members :=
  outcomeOf (Members.ofList (sight.valued extractors)) (extractors.findSome? sight.fault?)

variable {sight} {e : Extractor} {extractors : List Extractor}

theorem fault?_eq_none : sight.fault? e = none ↔ ¬ sight.Lacks e := by
  unfold fault? Lacks
  cases sight.value? e with
  | some value => simp
  | none => cases e.required <;> simp

/-- A failure tells the name of its field. -/
theorem exists_of_fault? {cause : Failure} (hfault : sight.fault? e = some cause) :
    sight.Lacks e ∧ ∃ reason, cause = .extractionFailed (s!"required field '{e.name}' " ++ reason) := by
  constructor
  · by_contra hlacks
    rw [fault?_eq_none.mpr hlacks] at hfault
    cases hfault
  · unfold fault? at hfault
    split at hfault
    · cases hfault
    · split at hfault
      · obtain rfl := Option.some.inj hfault
        split
        · rename_i reason _
          refine ⟨s!"({e.selector}): {reason.message}", congrArg Failure.extractionFailed ?_⟩
          simp [← String.toList_inj, toString]
        · refine ⟨s!"matched nothing for selector '{e.selector}'",
            congrArg Failure.extractionFailed ?_⟩
          simp [← String.toList_inj, toString]
      · cases hfault

/-- The texts of a field are worth what is made of them piece by piece. -/
theorem filterMap_valueOf? (transform : Option Transform) (base : Option String)
    (found : List String) :
    found.filterMap (Transform.valueOf? transform base) =
      ((found.map Text.trim).filter fun text => !text.isEmpty).filterMap
        (Transform.convert? transform base) := by
  rw [List.filterMap_filter, List.filterMap_map]
  refine List.filterMap_congr fun raw _ => ?_
  by_cases hempty : Text.trim raw = "" <;> simp [Transform.valueOf?, hempty]

/-- A query settles a field as its value says, or fails if there has to be one and is none. -/
theorem settle_found (e : Extractor) :
    e.settle sight.base (sight.found e) = outcomeOf (sight.value? e) (sight.fault? e) := by
  cases hfound : sight.found e with
  | error cause =>
      have hvalue : sight.value? e = none := by simp [value?, pieces, texts, hfound]
      cases hrequired : e.required <;>
        simp [Extractor.settle, fault?, hvalue, hfound, hrequired, outcomeOf]
  | ok found =>
      have hvalue : e.value? sight.base found = sight.value? e := by
        have hpieces : found.filterMap (Transform.valueOf? e.transform sight.base) =
            sight.pieces e := by
          rw [filterMap_valueOf?, pieces, texts, hfound]
        unfold Extractor.value? Sight.value?
        rw [hpieces]
        cases sight.pieces e <;> cases e.multiple <;> rfl
      simp only [Extractor.settle, hvalue, fault?, hfound]
      cases sight.value? e with
      | some value => rfl
      | none => cases e.required <;> rfl

end Sight

namespace Document

variable {document : Document σ F} {steady : σ → Prop} {sight : Sight}

theorem Shows.comesTo_query (hshows : document.Shows steady sight) (e : Extractor) :
    (e.query document sight.base).run.ComesTo steady
      (outcomeOf (sight.value? e) (sight.fault? e)) := by
  rw [← Sight.settle_found]
  exact Activity.ComesTo.bind (hshows.select _ _ _) (Activity.comesTo_done steady _)

/-- Fields with a value are added one after another, up to the first fault. -/
theorem Shows.comesTo_extractInto (hshows : document.Shows steady sight) (fields : Members)
    (extractors : List Extractor) :
    (document.extractInto sight.base fields extractors).run.ComesTo steady
      (outcomeOf
        ((sight.valued extractors).foldl (fun all member => Members.insert member.1 member.2 all)
          fields)
        (extractors.findSome? sight.fault?)) := by
  induction extractors generalizing fields with
  | nil => exact Activity.comesTo_done steady _
  | cons e rest ih =>
      have hquery := hshows.comesTo_query e
      rw [List.findSome?_cons]
      cases hfault : sight.fault? e with
      | some cause =>
          rw [hfault] at hquery
          exact Attempt.comesTo_bind_error hquery
      | none =>
          rw [hfault] at hquery
          refine Attempt.comesTo_bind_ok hquery ?_
          rw [Sight.valued, List.filterMap_cons]
          cases hvalue : sight.value? e with
          | none => exact ih fields
          | some value => exact ih (Members.insert e.name value fields)

theorem Shows.comesTo_extract (hshows : document.Shows steady sight) (extractors : List Extractor) :
    (document.extract extractors).run.ComesTo steady (sight.outcome extractors) :=
  Attempt.comesTo_bind_ofActivity (Attempt.comesTo_ok? hshows.address)
    (hshows.comesTo_extractInto [] extractors)

end Document

/-! ## What the outcome is -/

/-- Members with different keys may be sorted in any order. -/
theorem Members.ofList_eq_of_perm {members others : Members}
    (hkeys : (members.map Prod.fst).Nodup) (hperm : others.Perm members) :
    ofList others = ofList members := by
  have hothers : (others.map Prod.fst).Nodup := (hperm.map Prod.fst).nodup_iff.mpr hkeys
  refine (isAscending_ofList others).ext (isAscending_ofList members) fun key => ?_
  refine Option.ext fun value => ?_
  rw [get?_ofList, get?_ofList, last?_eq_some_iff hothers, last?_eq_some_iff hkeys, hperm.mem_iff]

namespace Sight

variable {sight : Sight} {e : Extractor} {extractors others : List Extractor}

theorem findSome?_fault?_eq_none :
    extractors.findSome? sight.fault? = none ↔ ∀ e ∈ extractors, ¬ sight.Lacks e :=
  List.findSome?_eq_none_iff.trans (forall₂_congr fun _ _ => fault?_eq_none)

theorem not_lacks_iff :
    ¬ sight.Lacks e ↔ (e.required = true → ∃ value, sight.value? e = some value) := by
  rw [Lacks, not_and]
  refine imp_congr_right fun _ => ?_
  rw [← Option.isSome_iff_exists, Option.isSome_iff_ne_none]

theorem outcome_eq_ok_iff {fields : Members} :
    sight.outcome extractors = .ok fields ↔
      (∀ e ∈ extractors, ¬ sight.Lacks e) ∧ fields = Members.ofList (sight.valued extractors) := by
  rw [← findSome?_fault?_eq_none, outcome]
  cases extractors.findSome? sight.fault? <;> simp [outcomeOf, eq_comm]

theorem outcome_eq_error_iff {cause : Failure} :
    sight.outcome extractors = .error cause ↔ extractors.findSome? sight.fault? = some cause := by
  rw [outcome]
  cases extractors.findSome? sight.fault? <;> simp [outcomeOf]

theorem last?_valued_cons (name : String) (e : Extractor) (rest : List Extractor) :
    Members.last? name (sight.valued (e :: rest)) =
      (Members.last? name (sight.valued rest)).or
        (if e.name = name then sight.value? e else none) := by
  rw [valued, List.filterMap_cons]
  cases hvalue : sight.value? e with
  | none => simp [valued]
  | some value => exact Members.last?_cons _ _ _

theorem last?_valued_eq_none {name : String} :
    Members.last? name (sight.valued extractors) = none ↔
      ∀ other ∈ extractors, other.name = name → sight.value? other = none := by
  induction extractors with
  | nil => exact iff_of_true rfl nofun
  | cons e rest ih =>
      rw [last?_valued_cons, Option.or_eq_none_iff, ih, List.forall_mem_cons, and_comm]
      simp

theorem names_valued_sublist (sight : Sight) (extractors : List Extractor) :
    ((sight.valued extractors).map Prod.fst).Sublist (extractors.map Extractor.name) := by
  induction extractors with
  | nil => exact .slnil
  | cons e rest ih =>
      rw [valued, List.filterMap_cons]
      cases sight.value? e with
      | none => exact .cons _ ih
      | some value => exact .cons_cons _ ih

/-- Under a name stands last the value of the last field of that name that has one. -/
theorem last?_valued_eq_some {name : String} {value : Json} :
    Members.last? name (sight.valued extractors) = some value ↔
      ∃ before e after, extractors = before ++ e :: after ∧ e.name = name ∧
        sight.value? e = some value ∧
          ∀ other ∈ after, other.name = name → sight.value? other = none := by
  induction extractors with
  | nil => simp [valued, Members.last?, Members.get?]
  | cons e rest ih =>
      rw [last?_valued_cons, Option.or_eq_some_iff, ih, last?_valued_eq_none]
      constructor
      · rintro (⟨before, last, after, rfl, hlast⟩ | ⟨hrest, hvalue⟩)
        · exact ⟨e :: before, last, after, rfl, hlast⟩
        · obtain ⟨hname, hvalue⟩ := Option.ite_none_right_eq_some.mp hvalue
          exact ⟨[], e, rest, rfl, hname, hvalue, hrest⟩
      · rintro ⟨before, last, after, hsplit, hname, hvalue, hafter⟩
        cases before with
        | nil =>
            cases hsplit
            exact .inr ⟨hafter, by rw [if_pos hname, hvalue]⟩
        | cons first before =>
            cases hsplit
            exact .inl ⟨before, last, after, rfl, hname, hvalue, hafter⟩

/-- The outcome accounts for every field. -/
theorem accounts_outcome (sight : Sight) (extractors : List Extractor) :
    sight.Accounts extractors (sight.outcome extractors) where
  succeeds_iff := by
    simp only [outcome_eq_ok_iff, not_lacks_iff, exists_and_left, exists_eq, and_true]
  failure cause hcause := by
    obtain ⟨before, e, after, hsplit, hfault, hbefore⟩ :=
      List.findSome?_eq_some_iff.mp (outcome_eq_error_iff.mp hcause)
    obtain ⟨hlacks, reason, hreason⟩ := exists_of_fault? hfault
    refine ⟨before, e, after, reason, hsplit, hlacks, fun other hother => ?_, hreason⟩
    exact fault?_eq_none.mp (hbefore other hother)
  sorted fields hfields := by
    rw [(outcome_eq_ok_iff.mp hfields).2]
    exact Members.isAscending_ofList _
  fields fields hfields name value := by
    rw [(outcome_eq_ok_iff.mp hfields).2, Members.get?_ofList]
    exact last?_valued_eq_some

/-- Fields of different names may be asked for in any order. -/
theorem toOption_outcome_of_perm (hperm : others.Perm extractors)
    (hnames : (extractors.map Extractor.name).Nodup) :
    (sight.outcome others).toOption = (sight.outcome extractors).toOption := by
  have hvalued : Members.ofList (sight.valued others) = Members.ofList (sight.valued extractors) :=
    Members.ofList_eq_of_perm (hnames.sublist (sight.names_valued_sublist extractors))
      (hperm.filterMap _)
  have hlacks : (∀ e ∈ others, ¬ sight.Lacks e) ↔ ∀ e ∈ extractors, ¬ sight.Lacks e :=
    forall_congr' fun e => imp_congr_left hperm.mem_iff
  refine Option.ext fun fields => ?_
  rw [toOption_eq_some, toOption_eq_some, outcome_eq_ok_iff, outcome_eq_ok_iff, hvalued, hlacks]

/-- A field that is not required and has no value makes no difference. -/
theorem outcome_without (before after : List Extractor) (hoptional : e.required = false)
    (hvalue : sight.value? e = none) :
    sight.outcome (before ++ after) = sight.outcome (before ++ e :: after) := by
  have hfault : sight.fault? e = none := fault?_eq_none.mpr fun hlacks => by
    simp [Lacks, hoptional] at hlacks
  simp [outcome, valued, List.filterMap_append, List.findSome?_append, hvalue, hfault]

end Sight

/-! ## Documents that are asked for fields -/

/-- What a document that shows something comes to when it is asked for fields. -/
structure Document.Extracts (document : Document σ F) (steady : σ → Prop) (sight : Sight)
    (extractors : List Extractor) (outcome : Outcome Members) : Prop where
  comesTo : (document.extract extractors).run.ComesTo steady outcome
  accounts : sight.Accounts extractors outcome
  /-- In another order, fields of different names bring the same, or fail as well. -/
  reordered : (extractors.map Extractor.name).Nodup → ∀ others : List Extractor,
    others.Perm extractors → ∃ other, (document.extract others).run.ComesTo steady other ∧
      other.toOption = outcome.toOption
  /-- Without a field that is not required and has no value, the outcome is the same. -/
  dispensable : ∀ before e after, extractors = before ++ e :: after → e.required = false →
    sight.value? e = none → (document.extract (before ++ after)).run.ComesTo steady outcome

/-- A document that is asked for fields comes to one outcome, which accounts for every field by
itself. -/
theorem Document.Shows.exists_extracts {document : Document σ F} {steady : σ → Prop} {sight : Sight}
    (hshows : document.Shows steady sight) (extractors : List Extractor) :
    ∃ outcome, document.Extracts steady sight extractors outcome := by
  refine ⟨sight.outcome extractors, hshows.comesTo_extract extractors,
    sight.accounts_outcome extractors, fun hnames others hperm => ?_, ?_⟩
  · exact ⟨_, hshows.comesTo_extract others, Sight.toOption_outcome_of_perm hperm hnames⟩
  · rintro before e after rfl hoptional hvalue
    rw [← Sight.outcome_without before after hoptional hvalue]
    exact hshows.comesTo_extract (before ++ after)

/-! ## A rehearsed page -/

namespace Rehearsal.PageScript

/-- What a scripted page shows at an address. -/
def sight (script : PageScript) (url : String) : Sight where
  address := .ok (some url)
  select selector attributeName multiple :=
    if script.failing.contains selector then .error (queryFailure selector)
    else match attributeName with
      | some name =>
        .ok (found multiple ((script.attributeValues.lookup selector).bind (·.lookup name)))
      | none => .ok (found multiple (script.texts.lookup selector))

/-- A scripted page shows the same as long as nobody moves it. -/
theorem shows_page (script : PageScript) (hfaults : script.faults.lookup .address = none)
    (url : String) :
    script.page.toDocument.Shows (fun stage => stage.address = url) (script.sight url) where
  select selector attributeName multiple := by
    simp only [page, sight]
    split
    · exact Activity.comesTo_done _ _
    · cases attributeName <;> exact Activity.comesTo_done _ _
  address := by
    have haddress : script.page.address =
        (do return some (← Attempt.step fun stage => (.ok stage.address, stage))) := by
      simp [page, faulty?, faulty, hfaults]
    rw [haddress]
    refine Attempt.comesTo_bind_ok (a := url) ?_ (Activity.comesTo_done _ _)
    exact Activity.comesTo_step (fun stage hurl => congrArg Except.ok hurl) fun _ hurl => hurl

/-- A page with a blank heading and another one, a price, and a query that fails. -/
def concerts : PageScript where
  texts := [("h1", ["", "  Concerts "]), (".price", ["from 1,299.50 EUR"])]
  failing := [".broken"]

/-- A field that fails and need not be there, a price, and all headings. -/
def concertFields : List Extractor :=
  [{ name := "venue", selector := ".broken" },
   { name := "price", selector := ".price", required := true, transform := some .number },
   { name := "titles", selector := "h1", multiple := true, required := true }]

/-- The field that fails is left out, and the others are brought. -/
theorem exists_extracts_concerts :
    concerts.page.toDocument.Shows (fun stage => stage.address = "https://a.org/")
        (concerts.sight "https://a.org/") ∧
      ∃ outcome, concerts.page.toDocument.Extracts (fun stage => stage.address = "https://a.org/")
          (concerts.sight "https://a.org/") concertFields outcome ∧
        outcome.toOption.map (·.map Prod.fst) = some ["price", "titles"] := by
  have hshows := concerts.shows_page rfl "https://a.org/"
  obtain ⟨outcome, hextracts⟩ := hshows.exists_extracts concertFields
  refine ⟨hshows, outcome, hextracts, ?_⟩
  have houtcome := hextracts.comesTo.unique (hshows.comesTo_extract concertFields)
    (s := { address := "https://a.org/" }) rfl
  rw [houtcome]
  decide +kernel

end Rehearsal.PageScript

end SiteWatch
