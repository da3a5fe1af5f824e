/-
# Steps, fields and frames in turn

A visit carries out its steps, asks the page for its fields and looks into the frames one after
another. Each of these goes on until all is done or something goes wrong that cannot be passed over,
and what it comes to is told by what every single step, field or frame came to. An execution of a
visit falls apart into executions of these.
-/

import SiteWatch.Proofs.Scrape.Gate
import SiteWatch.Proofs.Timing

namespace SiteWatch

variable {σ F ι α β : Type}

/-! ## One after another -/

/-- What comes of items that are dealt with one after another: all of them are, each in the state
that the one before has left, or all up to one with a fault. -/
inductive InTurn (does : ι → β → σ → σ → Prop) (fault? : ι → β → Option Failure) :
    List ι → List (ι × β) → σ → σ → Prop where
  | nil (s : σ) : InTurn does fault? [] [] s s
  | next {i : ι} {answer : β} {rest : List ι} {answered : List (ι × β)} {s u t : σ}
      (hdoes : does i answer s u) (hgoes : fault? i answer = none)
      (hrest : InTurn does fault? rest answered u t) :
      InTurn does fault? (i :: rest) ((i, answer) :: answered) s t
  | last {i : ι} {answer : β} {rest : List ι} {s t : σ} {cause : Failure}
      (hdoes : does i answer s t) (hfault : fault? i answer = some cause) :
      InTurn does fault? (i :: rest) [(i, answer)] s t

/-- The first fault of items that were dealt with. -/
def firstFault (fault? : ι → β → Option Failure) (answered : List (ι × β)) : Option Failure :=
  answered.findSome? fun item => fault? item.1 item.2

/-- The outcome of work that may have had a fault. -/
def outcomeOf (value : α) : Option Failure → Outcome α
  | none => .ok value
  | some cause => .error cause

theorem outcomeOf_eq_error {value : α} {fault : Option Failure} {cause : Failure}
    (houtcome : outcomeOf value fault = .error cause) : fault = some cause := by
  cases fault with
  | none => cases houtcome
  | some other => exact congrArg some (Except.error.inj houtcome)

theorem outcomeOf_eq_ok {value other : α} {fault : Option Failure}
    (houtcome : outcomeOf value fault = .ok other) : fault = none ∧ other = value := by
  cases fault with
  | none => exact ⟨rfl, (Except.ok.inj houtcome).symm⟩
  | some cause => cases houtcome

namespace InTurn

variable {does : ι → β → σ → σ → Prop} {fault? : ι → β → Option Failure} {items : List ι}
  {answered : List (ι × β)} {s t : σ}

/-- What was dealt with comes first. -/
theorem exists_rest (hturns : InTurn does fault? items answered s t) :
    ∃ rest, items = answered.map Prod.fst ++ rest := by
  induction hturns with
  | nil s => exact ⟨[], rfl⟩
  | next hdoes hgoes hrest ih =>
      obtain ⟨rest, rfl⟩ := ih
      exact ⟨rest, rfl⟩
  | @last i answer rest s t cause hdoes hfault => exact ⟨rest, rfl⟩

/-- Without a fault everything was dealt with. -/
theorem map_fst_eq (hturns : InTurn does fault? items answered s t)
    (hfault : firstFault fault? answered = none) : answered.map Prod.fst = items := by
  induction hturns with
  | nil s => rfl
  | next hdoes hgoes hrest ih =>
      rw [firstFault, List.findSome?_cons, hgoes] at hfault
      exact congrArg _ (ih hfault)
  | last hdoes hends =>
      rw [firstFault, List.findSome?_cons, hends] at hfault
      cases hfault

/-- A fault is that of what was dealt with last, and nothing before had one. -/
theorem exists_last {cause : Failure} (hturns : InTurn does fault? items answered s t)
    (hfault : firstFault fault? answered = some cause) :
    ∃ before i answer, answered = before ++ [(i, answer)] ∧ fault? i answer = some cause ∧
      ∀ item ∈ before, fault? item.1 item.2 = none := by
  induction hturns with
  | nil s => cases hfault
  | @next i answer rest answered s u t hdoes hgoes hrest ih =>
      rw [firstFault, List.findSome?_cons, hgoes] at hfault
      obtain ⟨before, last, final, rfl, hlast, hbefore⟩ := ih hfault
      exact ⟨(i, answer) :: before, last, final, rfl, hlast,
        List.forall_mem_cons.mpr ⟨hgoes, hbefore⟩⟩
  | @last i answer rest s t cause hdoes hends =>
      rw [firstFault, List.findSome?_cons, hends] at hfault
      exact ⟨[], i, answer, rfl, hends.trans hfault, nofun⟩

end InTurn

theorem firstFault_eq_none {fault? : ι → β → Option Failure} {answered : List (ι × β)} :
    firstFault fault? answered = none ↔ ∀ item ∈ answered, fault? item.1 item.2 = none :=
  List.findSome?_eq_none_iff

/-! ## Steps -/

namespace Instruction

/-- The failure of a step that ends a visit: none for a step that is optional. -/
def fault? (i : Instruction) : Outcome Unit → Option Failure
  | .ok () => none
  | .error cause => if i.optional then none else some (i.blame cause)

/-- What a step that is carried out can come to. -/
def ComesTo (meantime : Meantime σ) (page : Page σ F) (album : Album σ) (options : PageOptions)
    (i : Instruction) (outcome : Outcome Unit) (s t : σ) : Prop :=
  (i.perform page album (i.limitMs options)).run.CanEnd meantime outcome t s

theorem settle_eq (i : Instruction) (outcome : Outcome Unit) :
    i.settle outcome = outcomeOf outcome.toBool (i.fault? outcome) := by
  cases outcome with
  | ok _ => rfl
  | error cause =>
      unfold settle fault?
      cases i.optional <;> rfl

end Instruction

/-- The number of steps that succeeded. -/
def succeeded (performed : List (Instruction × Outcome Unit)) : Nat :=
  performed.countP (·.2.toBool)

variable {meantime : Meantime σ}

/-- Notes with some more steps that succeeded. -/
def ScrapeMetadata.executed (notes : ScrapeMetadata) (steps : Nat) : ScrapeMetadata :=
  { notes with instructionsExecuted := notes.instructionsExecuted + steps }

theorem Noted.isIndifferent_beside (hmeantime : meantime.IsIndifferent) :
    (Noted.beside meantime).IsIndifferent where
  after _ left wake elapsed _ _ hwake hamid :=
    ⟨hmeantime.after _ left wake elapsed _ _ hwake hamid.1, hamid.2⟩
  heeds _ wake elapsed _ _ hwake hamid :=
    ⟨hmeantime.heeds _ wake elapsed _ _ hwake hamid.1, hamid.2⟩

/-- An attempt that leaves the notes alone is one on the world. -/
theorem Noted.canEnd_attempt_iff {attempt : Attempt σ α} {outcome : Outcome α} {s t : Noted σ} :
    (Noted.attempt attempt).run.CanEnd (Noted.beside meantime) outcome t s ↔
      attempt.run.CanEnd meantime outcome t.2 s.2 ∧ t.1 = s.1 :=
  Noted.canEnd_quietly_iff

/-- What an attempt leaves alone of the notes is as it was. -/
theorem Noted.view_eq_of_keeps {view : ScrapeMetadata → β} {attempt : Attempt (Noted σ) α}
    (hkeeps : Attempt.Keeps (fun noted => view noted.1) attempt) {outcome : Outcome α}
    {s t : Noted σ} (hends : attempt.run.CanEnd (Noted.beside meantime) outcome t s) :
    view t.1 = view s.1 := by
  have hkeeps : attempt.run.Keeps fun noted => view noted.1 := hkeeps
  have hsame := hkeeps.view_eq (fun pause wake elapsed s t
    (hamid : Noted.beside meantime pause wake elapsed s t) => congrArg view hamid.2) hends
  exact hsame

namespace ScrapeService

variable (service : ScrapeService σ F) (visit : Visit)

/-- Steps are carried out in turn, and those that succeed are counted. -/
theorem exists_performed_of_follow (page : Page σ F) {plan : List Instruction}
    {outcome : Outcome Unit} {s t : Noted σ}
    (hends : (service.follow visit page plan).run.CanEnd (Noted.beside meantime) outcome t s) :
    ∃ performed,
      InTurn (Instruction.ComesTo meantime page service.album visit.site.options)
        Instruction.fault? plan performed s.2 t.2 ∧
      outcome = outcomeOf () (firstFault Instruction.fault? performed) ∧
      t.1 = s.1.executed (succeeded performed) := by
  induction plan generalizing s with
  | nil =>
      obtain ⟨rfl, rfl⟩ := hends
      exact ⟨[], .nil s.2, rfl, rfl⟩
  | cons i rest ih =>
      rcases Attempt.canEnd_bind.mp hends with ⟨cause, hstep, rfl⟩ | ⟨went, u, hstep, hends⟩
      · obtain ⟨hstep, hnotes⟩ := Noted.canEnd_attempt_iff.mp hstep
        obtain ⟨answer, u, hperform, hsettle, rfl⟩ := Activity.canEnd_bind.mp hstep
        rw [i.settle_eq] at hsettle
        have hfault := outcomeOf_eq_error hsettle
        have hfailed : answer.toBool = false := by
          cases answer with
          | ok _ => cases hfault
          | error cause => rfl
        refine ⟨[(i, answer)], .last hperform hfault, ?_, ?_⟩
        · simp [firstFault, hfault, outcomeOf]
        · simp [hnotes, succeeded, hfailed, ScrapeMetadata.executed]
      · obtain ⟨hstep, hnotes⟩ := Noted.canEnd_attempt_iff.mp hstep
        obtain ⟨answer, v, hperform, hsettle, rfl⟩ := Activity.canEnd_bind.mp hstep
        rw [i.settle_eq] at hsettle
        obtain ⟨hgoes, rfl⟩ := outcomeOf_eq_ok hsettle
        -- Whether or not the step counts, the rest begins with its notes.
        have hrest : (service.follow visit page rest).run.CanEnd (Noted.beside meantime) outcome t
            (s.1.executed (succeeded [(i, answer)]), u.2) := by
          cases answer with
          | ok _ =>
              rw [← hnotes]
              exact hends
          | error cause =>
              have hsame : s.1.executed (succeeded [(i, .error cause)]) = u.1 := hnotes.symm
              rw [hsame]
              exact hends
        obtain ⟨performed, hturns, houtcome, hcount⟩ := ih hrest
        refine ⟨(i, answer) :: performed, .next hperform hgoes hturns, ?_, ?_⟩
        · rw [houtcome, firstFault, firstFault, List.findSome?_cons, hgoes]
        · rw [hcount]
          simp only [ScrapeMetadata.executed, succeeded, List.countP_cons, List.countP_nil]
          congr 1
          omega

end ScrapeService

/-! ## Fields -/

/-- The failure of an outcome, if it is one. -/
def failureOf : Outcome α → Option Failure
  | .ok _ => none
  | .error cause => some cause

/-- The failure of a field that ends a visit: none for a field that has a value or needs none. -/
def Extractor.fault? (base : Option String) (e : Extractor) (found : Outcome (List String)) :
    Option Failure :=
  failureOf (e.settle base found)

/-- The fields with a value, by their names. -/
def fieldsOf (base : Option String) (answered : List (Extractor × Outcome (List String))) :
    Members :=
  answered.filterMap fun (e, found) =>
    match e.settle base found with
    | .ok (some value) => some (e.name, value)
    | _ => none

namespace Document

/-- What a document can answer for a field. -/
def Tells (document : Document σ F) (meantime : Meantime σ) (e : Extractor)
    (found : Outcome (List String)) (s t : σ) : Prop :=
  (document.select e.selector e.attributeName e.multiple).run.CanEnd meantime found t s

/-- What a document can answer that is asked for its address and then for fields in turn. -/
def Answers (document : Document σ F) (meantime : Meantime σ) (extractors : List Extractor)
    (base : Option String) (answered : List (Extractor × Outcome (List String))) (s t : σ) : Prop :=
  ∃ address u, document.address.ok?.CanEnd meantime address u s ∧ address.join = base ∧
    InTurn (document.Tells meantime) (Extractor.fault? base) extractors answered u t

/-- Where no field is missed, all have been asked for. -/
theorem Answers.map_fst_eq {document : Document σ F} {extractors : List Extractor}
    {base : Option String} {answered : List (Extractor × Outcome (List String))} {s t : σ}
    (hanswers : document.Answers meantime extractors base answered s t)
    (hfound : firstFault (Extractor.fault? base) answered = none) :
    answered.map Prod.fst = extractors := by
  obtain ⟨address, u, -, -, hturns⟩ := hanswers
  exact hturns.map_fst_eq hfound

variable (document : Document σ F)

theorem exists_answered_of_extractInto (base : Option String) {fields : Members}
    {extractors : List Extractor} {outcome : Outcome Members} {s t : σ}
    (hends : (document.extractInto base fields extractors).run.CanEnd meantime outcome t s) :
    ∃ answered,
      InTurn (document.Tells meantime) (Extractor.fault? base) extractors answered s t ∧
      outcome = outcomeOf
        ((fieldsOf base answered).foldl (fun all member => Members.insert member.1 member.2 all)
          fields)
        (firstFault (Extractor.fault? base) answered) := by
  induction extractors generalizing fields s with
  | nil =>
      obtain ⟨rfl, rfl⟩ := hends
      exact ⟨[], .nil s, rfl⟩
  | cons e rest ih =>
      rcases Attempt.canEnd_bind.mp hends with ⟨cause, hquery, rfl⟩ | ⟨value, u, hquery, hends⟩
      · obtain ⟨found, u, htells, hsettle, rfl⟩ := Activity.canEnd_bind.mp hquery
        have hfault : Extractor.fault? base e found = some cause := by
          rw [Extractor.fault?, hsettle]
          rfl
        refine ⟨[(e, found)], .last htells hfault, ?_⟩
        simp [firstFault, hfault, outcomeOf]
      · obtain ⟨found, v, htells, hsettle, rfl⟩ := Activity.canEnd_bind.mp hquery
        have hgoes : Extractor.fault? base e found = none := by
          rw [Extractor.fault?, hsettle]
          rfl
        have hrest (answered : List (Extractor × Outcome (List String))) :
            firstFault (Extractor.fault? base) ((e, found) :: answered) =
              firstFault (Extractor.fault? base) answered := by
          rw [firstFault, List.findSome?_cons, hgoes]
          rfl
        cases value with
        | none =>
            obtain ⟨answered, hturns, houtcome⟩ := ih hends
            refine ⟨(e, found) :: answered, .next htells hgoes hturns, ?_⟩
            rw [hrest, houtcome]
            simp [fieldsOf, hsettle]
        | some value =>
            obtain ⟨answered, hturns, houtcome⟩ := ih hends
            refine ⟨(e, found) :: answered, .next htells hgoes hturns, ?_⟩
            rw [hrest, houtcome]
            simp [fieldsOf, hsettle]

/-- The fields of a document are asked for in turn. -/
theorem exists_answered_of_extract {extractors : List Extractor} {outcome : Outcome Members}
    {s t : σ} (hends : (document.extract extractors).run.CanEnd meantime outcome t s) :
    ∃ base answered, document.Answers meantime extractors base answered s t ∧
      outcome = outcomeOf (Members.ofList (fieldsOf base answered))
        (firstFault (Extractor.fault? base) answered) := by
  obtain ⟨address, u, haddress, hends⟩ := Attempt.canEnd_bind_ofActivity.mp hends
  obtain ⟨answered, hturns, houtcome⟩ := document.exists_answered_of_extractInto _ hends
  exact ⟨address.join, answered, ⟨address, u, haddress, rfl, hturns⟩, houtcome⟩

end Document

/-! ## Frames -/

namespace PageEngine

variable (engine : PageEngine σ F) (extractors : List Extractor) (limit : Nat)

/-- What a frame brings: nothing if it does not load in time, and else its fields, if they can be
had. -/
def lookInto (frame : F) : Activity σ (Option (Option Members)) :=
  (engine.loadsWithin limit frame).bind fun loaded =>
    if loaded then
      ((engine.document frame).extract extractors).ok?.bind fun found => .done (some found)
    else .done none

/-- What a frame that is looked into can bring. -/
def Brings (meantime : Meantime σ) (frame : F) (brought : Option (Option Members)) (s t : σ) :
    Prop :=
  (engine.lookInto extractors limit frame).CanEnd meantime brought t s

end PageEngine

namespace FrameFields

/-- The section of a frame at a position, if it brings any fields. -/
def sectionAt? (position : Nat) : Option (Option Members) → Option (String × Json)
  | some (some (member :: members)) =>
    some (sectionName position, .object (member :: members))
  | _ => none

/-- The sections of frames, the first of which has the given position. -/
def sectionsFrom (position : Nat) (looked : List (F × Option (Option Members))) : Members :=
  (looked.zipIdx position).filterMap fun (frame, position) => sectionAt? position frame.2

theorem sectionsFrom_cons (position : Nat) (frame : F) (brought : Option (Option Members))
    (looked : List (F × Option (Option Members))) :
    sectionsFrom position ((frame, brought) :: looked) =
      (sectionAt? position brought).toList ++ sectionsFrom (position + 1) looked := by
  rw [sectionsFrom, List.zipIdx_cons, List.filterMap_cons]
  dsimp only
  cases sectionAt? position brought <;> rfl

/-- What is there once one more frame has been looked into. -/
def after (fields : FrameFields) (position : Nat) (brought : Option (Option Members)) :
    FrameFields :=
  match brought with
  | none => fields
  | some found => fields.add position found

theorem sections_after (fields : FrameFields) (position : Nat) (brought : Option (Option Members)) :
    (fields.after position brought).sections =
      (sectionAt? position brought).toList.foldl
        (fun all part => Members.insert part.1 part.2 all) fields.sections := by
  match brought with
  | none | some none | some (some []) | some (some (_ :: _)) => rfl

end FrameFields

open FrameFields

namespace PageEngine

variable (engine : PageEngine σ F) (extractors : List Extractor) (limit : Nat)

theorem extractFramesFrom_cons (fields : FrameFields) (position : Nat) (frame : F)
    (rest : List F) :
    engine.extractFramesFrom extractors limit fields position (frame :: rest) =
      (engine.lookInto extractors limit frame).bind fun brought =>
        engine.extractFramesFrom extractors limit (fields.after position brought) (position + 1)
          rest := by
  rw [lookInto, Activity.bind_assoc, extractFramesFrom]
  refine congrArg (Activity.bind _) (funext fun loaded => ?_)
  cases loaded with
  | false => rfl
  | true =>
      rw [if_pos rfl, if_pos rfl, Activity.bind_assoc]
      rfl

/-- Frames are looked into in turn; none of them ends that. -/
theorem exists_looked_of_extractFramesFrom {fields last : FrameFields} {position : Nat}
    {frames : List F} {s t : σ}
    (hends : (engine.extractFramesFrom extractors limit fields position frames).CanEnd meantime last
      t s) :
    ∃ looked, InTurn (engine.Brings extractors limit meantime) (fun _ _ => none) frames looked s t ∧
      last.sections = (sectionsFrom position looked).foldl
        (fun all part => Members.insert part.1 part.2 all) fields.sections := by
  induction frames generalizing fields position s with
  | nil =>
      obtain ⟨rfl, rfl⟩ := hends
      exact ⟨[], .nil s, rfl⟩
  | cons frame rest ih =>
      rw [extractFramesFrom_cons] at hends
      obtain ⟨brought, u, hbrings, hends⟩ := Activity.canEnd_bind.mp hends
      obtain ⟨looked, hturns, hlast⟩ := ih hends
      refine ⟨(frame, brought) :: looked, .next hbrings rfl hturns, ?_⟩
      rw [hlast, sections_after, sectionsFrom_cons, List.foldl_append]

end PageEngine

/-! ## Visits -/

namespace ScrapeService

variable (service : ScrapeService σ F) (visit : Visit) (page : Page σ F)

/-- What a visit that looks into the frames of a page, if it does, can find there. -/
inductive Looks (meantime : Meantime σ) : List (F × Option (Option Members)) → σ → σ → Prop where
  | away {s : σ} (hreads : visit.readsFrames = false) : Looks meantime [] s s
  /-- The frames cannot be listed. -/
  | unlisted {s t : σ} (hreads : visit.readsFrames = true)
      (hframes : page.frames.ok?.CanEnd meantime none t s) : Looks meantime [] s t
  | listed {frames : List F} {looked : List (F × Option (Option Members))} {s u t : σ}
      (hreads : visit.readsFrames = true)
      (hframes : page.frames.ok?.CanEnd meantime (some frames) u s)
      (hturns : InTurn (service.engine.Brings visit.extractors visit.site.options.iframeTimeoutMs
        meantime) (fun _ _ => none) frames looked u t) : Looks meantime looked s t

/-- The fields of a page with the sections of its frames beside them, or in their place. -/
def joined (fields sections : Members) : Members :=
  (Members.ofList sections).foldl (fun all part => Members.insert part.1 part.2 all)
    (Members.ofList fields)

/-- The fields of a page are asked for, and if none is missed the frames are looked into. -/
theorem gathers_of_canEnd {outcome : Outcome Members} {s t : Noted σ}
    (hends : (service.gather visit page).run.CanEnd (Noted.beside meantime) outcome t s) :
    ∃ base answered u, page.toDocument.Answers meantime visit.extractors base answered s.2 u ∧
      ((∃ cause, firstFault (Extractor.fault? base) answered = some cause ∧
          outcome = .error cause ∧ t = (s.1, u)) ∨
        firstFault (Extractor.fault? base) answered = none ∧
          ∃ looked, service.Looks visit page meantime looked u t.2 ∧
            outcome = .ok (joined (fieldsOf base answered) (sectionsFrom 0 looked))) := by
  rcases Attempt.canEnd_bind.mp hends with ⟨cause, hfields, rfl⟩ | ⟨fields, u, hfields, hends⟩
  · obtain ⟨hfields, hnotes⟩ := Noted.canEnd_attempt_iff.mp hfields
    obtain ⟨base, answered, hanswers, houtcome⟩ :=
      page.toDocument.exists_answered_of_extract hfields
    refine ⟨base, answered, t.2, hanswers, .inl ⟨cause, outcomeOf_eq_error houtcome.symm, rfl, ?_⟩⟩
    rw [← hnotes]
  · obtain ⟨hfields, hnotes⟩ := Noted.canEnd_attempt_iff.mp hfields
    obtain ⟨base, answered, hanswers, houtcome⟩ :=
      page.toDocument.exists_answered_of_extract hfields
    obtain ⟨hnone, rfl⟩ := outcomeOf_eq_ok houtcome.symm
    refine ⟨base, answered, u.2, hanswers, .inr ⟨hnone, ?_⟩⟩
    have hends := Noted.canEnd_note_bind.mp hends
    split at hends
    · rename_i hreads
      obtain ⟨found, v, hframes, hends⟩ := Attempt.canEnd_bind_ofActivity.mp hends
      obtain ⟨hframes, -⟩ := Noted.canEnd_quietly_iff.mp hframes
      obtain ⟨rfl, rfl⟩ := hends
      obtain ⟨frames, w, hlisted, hframes⟩ := Activity.canEnd_bind.mp hframes
      cases frames with
      | none =>
          obtain ⟨rfl, hw⟩ := hframes
          exact ⟨[], .unlisted hreads (hw ▸ hlisted), rfl⟩
      | some frames =>
          obtain ⟨looked, hturns, hsections⟩ :=
            service.engine.exists_looked_of_extractFramesFrom _ _ hframes
          have hsections : found.sections = Members.ofList (sectionsFrom 0 looked) := hsections
          refine ⟨looked, .listed hreads hlisted hturns, ?_⟩
          rw [joined, hsections]
    · rename_i hreads
      obtain ⟨rfl, rfl⟩ := hends
      exact ⟨[], .away (by simpa using hreads), rfl⟩

/-- How a visit attends to a page that it has reached. -/
inductive Attends (meantime : Meantime σ) (s : Noted σ) : Outcome Members → Noted σ → Prop where
  /-- A step fails that is not optional, and that is all. -/
  | stopped {performed : List (Instruction × Outcome Unit)} {u : σ} {cause : Failure}
      (hsteps : InTurn (Instruction.ComesTo meantime page service.album visit.site.options)
        Instruction.fault? visit.plan performed s.2 u)
      (hfault : firstFault Instruction.fault? performed = some cause) :
      Attends meantime s (.error cause) (s.1.executed (succeeded performed), u)
  /-- After all steps a field is missed that is required. -/
  | missed {performed : List (Instruction × Outcome Unit)} {u v : σ} {base : Option String}
      {answered : List (Extractor × Outcome (List String))} {cause : Failure}
      (hsteps : InTurn (Instruction.ComesTo meantime page service.album visit.site.options)
        Instruction.fault? visit.plan performed s.2 u)
      (hdone : firstFault Instruction.fault? performed = none)
      (hfields : page.toDocument.Answers meantime visit.extractors base answered u v)
      (hfault : firstFault (Extractor.fault? base) answered = some cause) :
      Attends meantime s (.error cause) (s.1.executed (succeeded performed), v)
  /-- After all steps all fields are there, and those of the frames that can be had. -/
  | gathered {performed : List (Instruction × Outcome Unit)} {u v w : σ} {base : Option String}
      {answered : List (Extractor × Outcome (List String))}
      {looked : List (F × Option (Option Members))} {t : Noted σ}
      (hsteps : InTurn (Instruction.ComesTo meantime page service.album visit.site.options)
        Instruction.fault? visit.plan performed s.2 u)
      (hdone : firstFault Instruction.fault? performed = none)
      (hfields : page.toDocument.Answers meantime visit.extractors base answered u v)
      (hfound : firstFault (Extractor.fault? base) answered = none)
      (hlooked : service.Looks visit page meantime looked v w)
      (hcount : t.1.instructionsExecuted =
        s.1.instructionsExecuted + succeeded performed) :
      Attends meantime s (.ok (joined (fieldsOf base answered) (sectionsFrom 0 looked))) t

theorem overlooks_instructionsExecuted :
    ScrapeMetadata.Overlooks ScrapeMetadata.instructionsExecuted where
  extractorsRun _ _ := rfl
  framesProcessed _ _ := rfl
  finalUrl _ _ := rfl
  memoryUsageBytes _ _ := rfl
  screenshot _ _ := rfl

/-- A picture that cannot be had is no failure. -/
theorem yields_picture (name : Instant → String) :
    (service.picture visit page name).run.Yields fun outcome => outcome = .ok () := by
  have hmoment : (Noted.attempt (Attempt.step fun s => (.ok (service.now s), s))).run.Yields
      fun outcome => outcome.toBool = true := fun _ => rfl
  apply Activity.yields_bind hmoment
  intro moment hmoment
  cases moment with
  | error cause => cases hmoment
  | ok moment =>
      apply Attempt.yields_bind_ofActivity
      intro saved
      cases saved with
      | none => rfl
      | some path => exact fun _ => rfl

/-- Nothing fails any more once the fields of a page have been gathered. -/
theorem yields_conclude (fields : Members) :
    (service.conclude visit page fields).run.Yields fun outcome => outcome = .ok fields := by
  apply Attempt.yields_bind_ofActivity
  intro address
  apply Attempt.yields_bind_ofActivity
  intro _
  apply Attempt.yields_bind_ofActivity
  intro memory
  apply Attempt.yields_bind_ofActivity
  intro _
  split
  · apply Activity.yields_bind (service.yields_picture visit page _)
    rintro - rfl
    rfl
  · rfl

/-- A visit attends to its page in one of these ways. -/
theorem attends_of_canEnd {outcome : Outcome Members} {s t : Noted σ}
    (hends : (service.attend visit page).run.CanEnd (Noted.beside meantime) outcome t s) :
    service.Attends visit page meantime s outcome t := by
  rw [attend_eq] at hends
  rcases Attempt.canEnd_bind.mp hends with ⟨cause, hfollow, rfl⟩ | ⟨⟨⟩, u, hfollow, hends⟩
  · obtain ⟨performed, hsteps, houtcome, hnotes⟩ :=
      service.exists_performed_of_follow visit page hfollow
    have hstopped := Attends.stopped hsteps (outcomeOf_eq_error houtcome.symm)
    rwa [← hnotes] at hstopped
  obtain ⟨performed, hsteps, houtcome, hnotes⟩ :=
    service.exists_performed_of_follow visit page hfollow
  obtain ⟨hdone, -⟩ := outcomeOf_eq_ok houtcome.symm
  rcases Attempt.canEnd_bind.mp hends with ⟨cause, hgather, rfl⟩ | ⟨fields, v, hgather, hends⟩
  · obtain ⟨base, answered, w, hfields, hgathered⟩ := service.gathers_of_canEnd visit page hgather
    rcases hgathered with ⟨other, hfault, hcause, rfl⟩ | ⟨-, looked, -, hok⟩
    · cases hcause
      have hmissed := Attends.missed hsteps hdone hfields hfault
      rwa [← hnotes] at hmissed
    · cases hok
  · have hcount : v.1.instructionsExecuted = u.1.instructionsExecuted := Noted.view_eq_of_keeps
      (service.keeps_notes_gather visit overlooks_instructionsExecuted page) hgather
    obtain ⟨base, answered, w, hfields, hgathered⟩ := service.gathers_of_canEnd visit page hgather
    rcases hgathered with ⟨cause, -, hcause, -⟩ | ⟨hfound, looked, hlooked, hok⟩
    · cases hcause
    · cases hok
      obtain rfl := (service.yields_conclude visit page _).of_canEnd hends
      have hlast : t.1.instructionsExecuted = v.1.instructionsExecuted := Noted.view_eq_of_keeps
        (service.keeps_notes_conclude visit overlooks_instructionsExecuted page _) hends
      refine .gathered hsteps hdone hfields hfound hlooked ?_
      rw [hlast, hcount, hnotes]
      rfl

/-! ## The way to a page -/

/-- How a request can reach the page that it asks for: it is approved, its pause passes, and a
browser starts and opens the page. -/
inductive Reaches (meantime : Meantime σ) (request : ScrapeRequest) (world : σ) :
    Visit → Browser σ F → Page σ F → Noted σ → Prop where
  | opened {visit : Visit} {browser : Browser σ F} {page : Page σ F} {approved : Noted σ}
      {passed started last : σ}
      (happroves : (service.approve request).run.CanEnd (Noted.beside meantime) (.ok visit) approved
        ({}, world))
      (hpasses : (Politeness.pass ⟨visit.site.options.politenessDelayMs, service.settings.jitterMs⟩
        (service.draw approved.2)).run.CanEnd meantime (.ok ()) passed approved.2)
      (hstarts : (service.engine.start visit.site.options).run.CanEnd meantime (.ok browser) started
        passed)
      (hopens : (browser.openPage visit.site.options).run.CanEnd meantime (.ok page) last started) :
      Reaches meantime request world visit browser page (approved.1, last)

/-- A request that succeeds has reached its page, and found there what it brings. -/
theorem exists_attends_of_fetch (hmeantime : meantime.IsIndifferent) {request : ScrapeRequest}
    {fields : Members} {world : σ} {t : Noted σ}
    (hends : (service.fetch request).run.CanEnd (Noted.beside meantime) (.ok fields) t
      ({}, world)) :
    ∃ visit browser page noted u,
      service.Reaches meantime request world visit browser page noted ∧
      service.Attends visit page meantime noted (.ok fields) u := by
  obtain ⟨visit, approved, happroves, hends⟩ := Attempt.canEnd_bind_ok.mp hends
  obtain ⟨drawn, v, hdraws, hends⟩ := Attempt.canEnd_bind_ok.mp hends
  obtain ⟨hdrawn, rfl⟩ := hdraws
  obtain rfl := Except.ok.inj hdrawn
  obtain ⟨⟨⟩, passed, hpasses, hends⟩ := Attempt.canEnd_bind_ok.mp hends
  obtain ⟨hpasses, hnotes⟩ := Noted.canEnd_attempt_iff.mp hpasses
  obtain ⟨browser, started, hstarts, hends⟩ := Attempt.canEnd_bind_ok.mp hends
  obtain ⟨hstarts, hsame⟩ := Noted.canEnd_attempt_iff.mp hstarts
  obtain ⟨outcome, u, hdriven, hends⟩ := Attempt.canEnd_bind_ofActivity.mp hends
  obtain ⟨closed, v, -, houtcome, -⟩ := Attempt.canEnd_bind_ofActivity.mp hends
  obtain rfl := houtcome
  have hbeside := Noted.isIndifferent_beside hmeantime
  have hdrive := Attempt.canEnd_of_timeout? hbeside (Attempt.canEnd_of_cancellable hbeside hdriven)
  obtain ⟨page, noted, hopens, hends⟩ := Attempt.canEnd_bind_ok.mp hdrive
  obtain ⟨hopens, hlast⟩ := Noted.canEnd_attempt_iff.mp hopens
  obtain ⟨attended, w, hattend, hends⟩ := Attempt.canEnd_bind_ofActivity.mp hends
  refine ⟨visit, browser, page, noted, w, ?_, ?_⟩
  · have hreaches := Reaches.opened happroves hpasses hstarts hopens
    rwa [← hnotes, ← hsame, ← hlast] at hreaches
  · have hattends := service.attends_of_canEnd visit page hattend
    cases attended with
    | ok found =>
        obtain ⟨hfound, -⟩ := hends
        cases hfound
        exact hattends
    | error cause =>
        dsimp only at hends
        split at hends
        · obtain ⟨⟨⟩, x, -, hthrown, -⟩ := Attempt.canEnd_bind_ok.mp hends
          cases hthrown
        · cases hends.1

end ScrapeService

end SiteWatch
