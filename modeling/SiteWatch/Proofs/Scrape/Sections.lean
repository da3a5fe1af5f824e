/-
# Fields and sections side by side

The data of a scrape are the fields of the page and, under names of their own, the sections of its
frames. The names of fields are chosen by whoever sets up a site, and nothing keeps them from being
those of sections. Where a field is named like the section of a frame that brings fields, the
section takes its place; every other field is there with its value, every section is, and nothing
else.
-/

import Mathlib.Data.List.Nodup
import SiteWatch.Proofs.Json.Canonical
import SiteWatch.Proofs.Scrape.Deadline
import SiteWatch.Proofs.Scrape.Turns

namespace SiteWatch

variable {σ F : Type}

/-! ## Members with different keys -/

namespace Members

theorem get?_eq_some_iff {members : Members} (hkeys : (members.map Prod.fst).Nodup) {key : String}
    {value : Json} : get? members key = some value ↔ (key, value) ∈ members := by
  refine ⟨mem_of_get?, fun hmem => ?_⟩
  induction members with
  | nil => cases hmem
  | cons member members ih =>
      obtain ⟨hfirst, hrest⟩ := List.nodup_cons.mp hkeys
      rw [get?_cons]
      rcases List.mem_cons.mp hmem with rfl | hmem
      · simp
      · have hother : member.1 ≠ key := by
          rintro rfl
          exact hfirst (List.mem_map.mpr ⟨_, hmem, rfl⟩)
        rw [if_neg (by simpa using hother)]
        exact ih hrest hmem

theorem last?_eq_some_iff {members : Members} (hkeys : (members.map Prod.fst).Nodup) {key : String}
    {value : Json} : last? key members = some value ↔ (key, value) ∈ members := by
  have hreverse : (members.reverse.map Prod.fst).Nodup := by
    rw [List.map_reverse]
    exact List.nodup_reverse.mpr hkeys
  rw [last?, get?_eq_some_iff hreverse, List.mem_reverse]

theorem mem_ofList_iff {members : Members} (hkeys : (members.map Prod.fst).Nodup)
    {member : String × Json} : member ∈ ofList members ↔ member ∈ members := by
  rw [← (isAscending_ofList members).get?_eq_some_iff, get?_ofList, last?_eq_some_iff hkeys]

theorem IsAscending.nodup_keys {members : Members} (hmembers : members.IsAscending) :
    (members.map Prod.fst).Nodup :=
  List.pairwise_map.mpr (hmembers.imp fun hlt => String.ne_of_lt hlt)

end Members

/-! ## What is joined -/

/-- The data that fields and sections come to. -/
structure Joins (data fields sections : Members) : Prop where
  /-- Every name is there once. -/
  sorted : data.IsAscending
  /-- All sections are there, and the fields that are not named like one; nothing else is. -/
  mem_iff : ∀ member, member ∈ data ↔
    member ∈ sections ∨ member ∈ fields ∧ ∀ part ∈ sections, part.1 ≠ member.1
  /-- So all fields are there just in case no field is named like a section. -/
  all_iff : (∀ member, member ∈ data ↔ member ∈ fields ∨ member ∈ sections) ↔
    ∀ field ∈ fields, ∀ part ∈ sections, part.1 ≠ field.1

namespace ScrapeService

theorem isAscending_joined (fields sections : Members) : (joined fields sections).IsAscending :=
  (Members.isAscending_ofList fields).foldl_insert _

theorem mem_joined {fields sections : Members} (hfields : (fields.map Prod.fst).Nodup)
    (hsections : (sections.map Prod.fst).Nodup) (member : String × Json) :
    member ∈ joined fields sections ↔
      member ∈ sections ∨ member ∈ fields ∧ ∀ part ∈ sections, part.1 ≠ member.1 := by
  have hsorted := Members.isAscending_ofList sections
  rw [← (isAscending_joined fields sections).get?_eq_some_iff, joined, Members.get?_foldl_insert]
  cases hlast : Members.last? member.1 (Members.ofList sections) with
  | some value =>
      have hpart : (member.1, value) ∈ sections :=
        (Members.mem_ofList_iff hsections).mp
          ((Members.last?_eq_some_iff hsorted.nodup_keys).mp hlast)
      rw [Option.some_or, Option.some_inj]
      constructor
      · rintro rfl
        exact .inl hpart
      · rintro (hmem | ⟨-, hapart⟩)
        · have hvalue := (Members.get?_eq_some_iff hsections).mpr hmem
          rw [(Members.get?_eq_some_iff hsections).mpr hpart] at hvalue
          exact Option.some.inj hvalue
        · exact absurd rfl (hapart (member.1, value) hpart)
  | none =>
      have hapart : ∀ part ∈ sections, part.1 ≠ member.1 := by
        rintro ⟨key, value⟩ hpart rfl
        rw [(Members.last?_eq_some_iff hsorted.nodup_keys).mpr
          ((Members.mem_ofList_iff hsections).mpr hpart)] at hlast
        cases hlast
      rw [Option.none_or, Members.get?_ofList, Members.last?_eq_some_iff hfields]
      constructor
      · exact fun hmem => .inr ⟨hmem, hapart⟩
      · rintro (hmem | ⟨hmem, -⟩)
        · exact absurd rfl (hapart member hmem)
        · exact hmem

theorem joins_joined {fields sections : Members} (hfields : (fields.map Prod.fst).Nodup)
    (hsections : (sections.map Prod.fst).Nodup)
    (hvalues : ∀ field ∈ fields, ∀ part ∈ sections, field.2 ≠ part.2) :
    Joins (joined fields sections) fields sections where
  sorted := isAscending_joined fields sections
  mem_iff := mem_joined hfields hsections
  all_iff := by
    constructor
    · intro hall field hfield part hpart hsame
      -- Both would be there under one name, so they would be the same.
      have hsorted := isAscending_joined fields sections
      have hone := hsorted.get?_eq_some_iff.mpr ((hall field).mpr (.inl hfield))
      have hother := hsorted.get?_eq_some_iff.mpr ((hall part).mpr (.inr hpart))
      rw [hsame, hone] at hother
      exact hvalues field hfield part hpart (Option.some.inj hother)
    · intro hapart member
      rw [mem_joined hfields hsections]
      constructor
      · rintro (hmem | ⟨hmem, -⟩)
        · exact .inr hmem
        · exact .inl hmem
      · rintro (hmem | hmem)
        · exact .inr ⟨hmem, hapart member hmem⟩
        · exact .inl hmem

end ScrapeService

/-! ## Names and values -/

/-- The names of extractors that obey the rules are different. -/
theorem nodup_of_extractorProblems {seen : List String} {extractors : List Extractor}
    (hvalid : extractorProblems seen extractors = []) :
    (extractors.map Extractor.name).Nodup ∧ ∀ e ∈ extractors, e.name ∉ seen := by
  induction extractors generalizing seen with
  | nil => exact ⟨.nil, nofun⟩
  | cons e rest ih =>
      simp only [extractorProblems, List.append_eq_nil_iff] at hvalid
      obtain ⟨⟨-, hfresh⟩, hrest⟩ := hvalid
      obtain ⟨hnodup, hunseen⟩ := ih hrest
      have hfresh : e.name ∉ seen := by
        intro hseen
        simp [hseen] at hfresh
      constructor
      · refine List.nodup_cons.mpr ⟨fun hmem => ?_, hnodup⟩
        obtain ⟨other, hother, hsame⟩ := List.mem_map.mp hmem
        exact hunseen other hother (hsame ▸ List.mem_cons_self)
      · refine List.forall_mem_cons.mpr ⟨hfresh, fun other hother hseen => ?_⟩
        exact hunseen other hother (List.mem_cons_of_mem _ hseen)

/-- What a field comes to is no object. -/
theorem Extractor.ne_object_of_settle {e : Extractor} {base : Option String}
    {found : Outcome (List String)} {value : Json}
    (hsettle : e.settle base found = .ok (some value)) (members : Members) :
    value ≠ .object members := by
  have hpiece {text : String} {piece : Json}
      (hpiece : Transform.valueOf? e.transform base text = some piece) :
      piece ≠ .object members := by
    unfold Transform.valueOf? at hpiece
    dsimp only at hpiece
    split at hpiece
    · cases hpiece
    · unfold Transform.convert? at hpiece
      split at hpiece
      case h_6 =>
          obtain ⟨number, -, rfl⟩ := Option.map_eq_some_iff.mp hpiece
          exact nofun
      all_goals
        cases hpiece
        exact nofun
  have hvalue {texts : List String} (hvalue : e.value? base texts = some value) :
      value ≠ .object members := by
    unfold value? at hvalue
    dsimp only at hvalue
    split at hvalue
    · split at hvalue
      · cases hvalue
      · cases hvalue
        exact nofun
    · obtain ⟨text, -, htext⟩ := List.mem_filterMap.mp (List.mem_of_mem_head? hvalue)
      exact hpiece htext
  cases found with
  | error cause =>
      unfold settle at hsettle
      dsimp only at hsettle
      split at hsettle <;> cases hsettle
  | ok texts =>
      unfold settle at hsettle
      dsimp only at hsettle
      split at hsettle
      · rename_i other hother
        cases hsettle
        exact hvalue hother
      · split at hsettle <;> cases hsettle

section

variable {base : Option String} {answered : List (Extractor × Outcome (List String))}

theorem mem_fieldsOf {field : String × Json} :
    field ∈ fieldsOf base answered ↔
      ∃ e found, (e, found) ∈ answered ∧ e.name = field.1 ∧
        e.settle base found = .ok (some field.2) := by
  rw [fieldsOf, List.mem_filterMap]
  constructor
  · rintro ⟨⟨e, found⟩, hmem, hfield⟩
    dsimp only at hfield
    split at hfield
    · rename_i value hsettle
      cases hfield
      exact ⟨e, found, hmem, rfl, hsettle⟩
    · cases hfield
  · rintro ⟨e, found, hmem, hname, hsettle⟩
    refine ⟨(e, found), hmem, ?_⟩
    simp only [hsettle, hname]

theorem names_fieldsOf_sublist (base : Option String)
    (answered : List (Extractor × Outcome (List String))) :
    ((fieldsOf base answered).map Prod.fst).Sublist (answered.map (·.1.name)) := by
  induction answered with
  | nil => exact .slnil
  | cons item answered ih =>
      obtain ⟨e, found⟩ := item
      rw [fieldsOf, List.filterMap_cons]
      dsimp only
      cases hsettle : e.settle base found with
      | error cause => exact .cons _ ih
      | ok value =>
          cases value with
          | none => exact .cons _ ih
          | some value => exact .cons_cons _ ih

end

namespace FrameFields

theorem sectionName_injective {position other : Nat}
    (hsame : sectionName position = sectionName other) : position = other := by
  have hdigits : Nat.toDigits 10 position = Nat.toDigits 10 other := by
    have htexts := congrArg String.toList hsame
    simpa [sectionName, String.toList_append] using htexts
  have hrest : Nat.toDigits 10 position ++ [] = Nat.toDigits 10 other ++ [] := by rw [hdigits]
  exact (Json.toDigits_append_inj Json.endsNumber_nil Json.endsNumber_nil hrest).1

theorem sectionAt?_eq_some {position : Nat} {brought : Option (Option Members)}
    {part : String × Json} :
    sectionAt? position brought = some part ↔
      ∃ members : Members, brought = some (some members) ∧ members ≠ [] ∧
        part = (sectionName position, .object members) := by
  match brought with
  | none | some none => simp [sectionAt?]
  | some (some []) => simp [sectionAt?]
  | some (some (member :: members)) => simp [sectionAt?, eq_comm]

/-- The sections are those of the frames that bring fields, each under the name of its position. -/
theorem mem_sectionsFrom {position : Nat} {looked : List (F × Option (Option Members))}
    {part : String × Json} :
    part ∈ sectionsFrom position looked ↔
      ∃ i frame members, looked[i]? = some (frame, some (some members)) ∧ members ≠ [] ∧
        part = (sectionName (position + i), .object members) := by
  induction looked generalizing position with
  | nil => simp [sectionsFrom]
  | cons item looked ih =>
      obtain ⟨frame, brought⟩ := item
      rw [sectionsFrom_cons, List.mem_append, Option.mem_toList, sectionAt?_eq_some, ih]
      constructor
      · rintro (⟨members, rfl, hmembers, rfl⟩ | ⟨i, other, members, hget, hmembers, rfl⟩)
        · exact ⟨0, frame, members, rfl, hmembers, rfl⟩
        · refine ⟨i + 1, other, members, hget, hmembers, ?_⟩
          rw [Nat.add_right_comm, Nat.add_assoc]
      · rintro ⟨i, other, members, hget, hmembers, rfl⟩
        cases i with
        | zero =>
            cases hget
            exact .inl ⟨members, rfl, hmembers, rfl⟩
        | succ i =>
            refine .inr ⟨i, other, members, hget, hmembers, ?_⟩
            rw [Nat.add_right_comm, Nat.add_assoc]

theorem nodup_sectionsFrom (position : Nat) (looked : List (F × Option (Option Members))) :
    ((sectionsFrom position looked).map Prod.fst).Nodup := by
  induction looked generalizing position with
  | nil => exact .nil
  | cons item looked ih =>
      obtain ⟨frame, brought⟩ := item
      rw [sectionsFrom_cons]
      cases hsection : sectionAt? position brought with
      | none => exact ih (position + 1)
      | some part =>
          obtain ⟨members, -, -, rfl⟩ := sectionAt?_eq_some.mp hsection
          refine List.nodup_cons.mpr ⟨fun hmem => ?_, ih (position + 1)⟩
          obtain ⟨other, hother, hsame⟩ := List.mem_map.mp hmem
          obtain ⟨i, frame, others, -, -, rfl⟩ := mem_sectionsFrom.mp hother
          have hposition := sectionName_injective hsame
          omega

end FrameFields

/-! ## Whole scrapes -/

namespace ScrapeService

variable {service : ScrapeService σ F} {request : ScrapeRequest}

/-- What a request can find that reaches its page and carries out the steps there: with some
extractors these fields of the page, and these sections of its frames. -/
inductive Finds (service : ScrapeService σ F) (meantime : Meantime σ) (request : ScrapeRequest)
    (world : σ) : List Extractor → Members → Members → Prop where
  | found {visit : Visit} {browser : Browser σ F} {page : Page σ F} {noted : Noted σ} {u v w : σ}
      {performed : List (Instruction × Outcome Unit)} {base : Option String}
      {answered : List (Extractor × Outcome (List String))}
      {looked : List (F × Option (Option Members))}
      (hreaches : service.Reaches meantime request world visit browser page noted)
      (hsteps : InTurn (Instruction.ComesTo meantime page service.album visit.site.options)
        Instruction.fault? visit.plan performed noted.2 u)
      (hfields : page.toDocument.Answers meantime visit.extractors base answered u v)
      (hall : answered.map Prod.fst = visit.extractors)
      (hlooked : service.Looks visit page meantime looked v w) :
      Finds service meantime request world visit.extractors (fieldsOf base answered)
        (FrameFields.sectionsFrom 0 looked)

/-- The extractors that a request brings along are those that are used. -/
theorem Finds.extractors_eq {meantime : Meantime σ} {world : σ}
    {extractors own : List Extractor} {fields sections : Members}
    (hfinds : service.Finds meantime request world extractors fields sections)
    (hown : request.extractors = some own) : extractors = own := by
  cases hfinds with
  | @found visit browser page noted u v w performed base answered looked hreaches =>
      cases hreaches with
      | opened happroves =>
          have hvisit := (service.yields_approve request).of_canEnd happroves visit rfl
          rw [Visit.extractors, hvisit, hown]
          rfl

/-- If the extractors obey the rules, the fields and the sections are joined. -/
theorem Finds.joins {meantime : Meantime σ} {world : σ} {extractors : List Extractor}
    {fields sections : Members}
    (hfinds : service.Finds meantime request world extractors fields sections)
    (hvalid : extractorProblems [] extractors = []) :
    Joins (joined fields sections) fields sections := by
  cases hfinds with
  | @found visit browser page noted u v w performed base answered looked _ _ _ hall =>
      have hnames : answered.map (·.1.name) = visit.extractors.map Extractor.name := by
        rw [← hall, List.map_map]
        rfl
      apply joins_joined
      · apply (names_fieldsOf_sublist base answered).nodup
        rw [hnames]
        exact (nodup_of_extractorProblems hvalid).1
      · exact FrameFields.nodup_sectionsFrom 0 looked
      · intro field hfield part hpart
        obtain ⟨e, found, -, -, hsettle⟩ := mem_fieldsOf.mp hfield
        obtain ⟨i, frame, members, -, -, rfl⟩ := FrameFields.mem_sectionsFrom.mp hpart
        exact Extractor.ne_object_of_settle hsettle members

-- A request that is carried out is known here only by its work.
attribute [local irreducible] scrapeAnew

/-- What others do around a scrape they do around its notes. -/
theorem free_beside (pause : Pause (Noted σ)) (wake : Wake) (elapsed : Nat) (notes : ScrapeMetadata)
    (s t : Scraping σ)
    (hmeantime : Meantime.free ⟨pause.after, fun s => pause.ready (notes, s.world), pause.heeds⟩
      wake elapsed s t) :
    Noted.beside Meantime.free pause wake elapsed (notes, s.world) (notes, t.world) :=
  ⟨⟨by cases wake <;> exact hmeantime.1, rfl⟩, rfl⟩

/-- The data of every scrape that goes well, with or without a deadline, and whatever others do in
the meantime: if the extractors obey the rules, they are the sections of the frames that brought
fields and the fields with a value that are not named like one of these, so that all fields are
there just in case none is. -/
theorem joins_scrape (service : ScrapeService σ F) (request : ScrapeRequest) {result : ScrapeResult}
    {s t : Scraping σ} (hends : (service.scrape request).CanEnd Meantime.free result t s)
    (hanew : result.metadata.cacheUsed = false) (hsuccess : result.success = true) :
    ∃ extractors fields sections,
      service.Finds Meantime.free request s.world extractors fields sections ∧
      (extractorProblems [] extractors = [] → Joins result.data fields sections) := by
  obtain ⟨began, hworld, hends⟩ := service.exists_scrapeAnew_of_scrape hends hanew
  obtain ⟨outcome, notes, took, moment, hfetch, rfl⟩ :=
    service.exists_fetch_of_scrapeAnew free_beside hends
  cases outcome with
  | error cause => cases hsuccess
  | ok data =>
      obtain ⟨visit, browser, page, noted, last, hreaches, hattends⟩ :=
        service.exists_attends_of_fetch (Meantime.isIndifferent_leaving _) hfetch
      rw [hworld] at hreaches
      generalize houtcome : (Except.ok data : Outcome Members) = outcome at hattends
      cases hattends with
      | stopped | missed => cases houtcome
      | gathered hsteps _ hfields hfound hlooked _ =>
          cases houtcome
          have hfinds := Finds.found hreaches hsteps hfields (hfields.map_fst_eq hfound) hlooked
          exact ⟨_, _, _, hfinds, hfinds.joins⟩

/-! A page with a frame, and a field that has or has not the name of the frame. -/

/-- A page with a heading, and a frame with one. -/
def framed : Rehearsal.PageScript where
  texts := [("h1", ["Concerts"])]
  frames := [{ texts := [("h1", ["Advert"])] }]

/-- A request for the heading under some name. -/
def headed (name : String) : ScrapeRequest where
  url := "https://example.com/events"
  extractors := some [{ name, selector := "h1" }]
  options := { useCache := false }

/-- A field that is not named like a section stands beside the section. -/
theorem joins_scrape_of_title :
    let service := scripted framed 0
    let s : Scraping Rehearsal.Stage := { world := {} }
    ∃ result t, ((service.scrape (headed "title")).CanEnd Meantime.free result t s ∧
        result.metadata.cacheUsed = false ∧ result.success = true) ∧
      result.data.map Prod.fst = ["iframe_0", "title"] ∧
      ∃ fields sections, service.Finds Meantime.free (headed "title") s.world
          [{ name := "title", selector := "h1" }] fields sections ∧
        Joins result.data fields sections := by
  intro service s
  have hruns : ((service.scrape (headed "title")).run none 0 s).any (fun ended =>
      !ended.1.metadata.cacheUsed && ended.1.success &&
        decide (ended.1.data.map Prod.fst = ["iframe_0", "title"])) = true := by
    decide +kernel
  have hvalid : extractorProblems [] [{ name := "title", selector := "h1" }] = [] := by
    decide +kernel
  have hjoins (result : ScrapeResult) (t : Scraping Rehearsal.Stage)
      (hends : (service.scrape (headed "title")).CanEnd Meantime.free result t s) :=
    service.joins_scrape (headed "title") hends
  have hown : (headed "title").extractors = some [{ name := "title", selector := "h1" }] := rfl
  generalize headed "title" = request at hruns hjoins hown ⊢
  clear_value service s
  obtain ⟨⟨result, later, t⟩, hrun, hended⟩ := (Option.any_eq_true _ _).mp hruns
  simp only [Bool.and_eq_true, Bool.not_eq_true', decide_eq_true_eq] at hended
  obtain ⟨⟨hanew, hsuccess⟩, hdata⟩ := hended
  have hends : (service.scrape request).CanEnd Meantime.free result t s :=
    Activity.canEnd_of_run (fun _ _ _ _ hwake => ⟨hwake, rfl⟩) hrun
  obtain ⟨extractors, fields, sections, hfinds, hjoined⟩ := hjoins result t hends hanew hsuccess
  obtain rfl := hfinds.extractors_eq hown
  exact ⟨result, t, ⟨hends, hanew, hsuccess⟩, hdata, fields, sections, hfinds, hjoined hvalid⟩

/-- A field that is named like the section of a frame is lost, though its name obeys the rules. -/
theorem field_named_like_section_is_lost :
    let service := scripted framed 0
    let s : Scraping Rehearsal.Stage := { world := {} }
    validateOverrides none (headed "iframe_0").extractors = .ok () ∧
      framed.page.select "h1" none false = pure ["Concerts"] ∧
      fieldsOf none [({ name := "iframe_0", selector := "h1" }, .ok ["Concerts"])] =
        [("iframe_0", .string "Concerts")] ∧
      ∃ result later t, (service.scrape (headed "iframe_0")).run none 0 s =
        some (result, later, t) ∧ result.success = true ∧
          ("iframe_0", .string "Concerts") ∉ result.data := by
  intro service s
  have hruns : ((service.scrape (headed "iframe_0")).run none 0 s).any (fun ended =>
      ended.1.success && ended.1.data.all fun member => !(Json.readText member.2).toBool) = true := by
    decide +kernel
  refine ⟨?_, rfl, ?_, ?_⟩
  · decide +kernel
  · rfl
  · generalize headed "iframe_0" = request at hruns ⊢
    clear_value service s
    obtain ⟨⟨result, later, t⟩, hrun, hended⟩ := (Option.any_eq_true _ _).mp hruns
    rw [Bool.and_eq_true, List.all_eq_true] at hended
    refine ⟨result, later, t, hrun, hended.1, fun hmem => ?_⟩
    cases hended.2 _ hmem

end ScrapeService

end SiteWatch
