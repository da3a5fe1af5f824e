/-
# A register with several handles

Several handles may be open on one file. Each does one operation at a time and takes up to three steps
for it: it reads the register, writes what is to become of it as a draft, and renames the draft over
the file. Between its steps the others take theirs, and all of them use one draft.

An operation takes effect at once where its rename replaces the register that it has read, and by the
draft that it has written. If every rename that succeeds is like this, the operations are those of a
list one after another. If not, an edit can be lost although it has been reported done.
-/

import Mathlib.Logic.Function.Basic
import SiteWatch.Proofs.Store.RegisterFile

namespace SiteWatch

open RegisterFile (Request Answer)

/-! ## Operations in steps -/

namespace RegisterFile

namespace Request

/-- What a change to the registration of an id makes of a register: nothing if there is none. -/
def planChange (id : String) (change : Registration → Registration) (register : Register) :
    Answer × Option Register :=
  if register.has id then (.found true, some (register.amend change id)) else (.found false, none)

/-- What an operation makes of the register that it has read: its answer, and the register that it is
to write, if it writes one. -/
def plan (register : Register) : Request → Answer × Option Register
  | list => (.all register, none)
  | get id => (.one (register.get? id), none)
  | upsert r => (.done, some (register.upsert r))
  | setEnabled id enabled =>
    planChange id (fun r => { r with site := { r.site with enabled } }) register
  | record id history => planChange id (·.withHistory history) register

theorem changeFirst_eq_planChange (id : String) (change : Registration → Registration)
    (register : Register) : changeFirst id change register =
      ((planChange id change register).1, (planChange id change register).2.getD register) := by
  simp only [changeFirst, planChange, has_eq_isSome, amend_eq_modify]
  cases register.findIdx? (·.site.id == id) <;> rfl

/-- An operation makes of a register what the list makes of it. -/
theorem onList_eq_plan (register : Register) (request : Request) : request.onList register =
    ((request.plan register).1, (request.plan register).2.getD register) := by
  cases request with
  | list | get => rfl
  | upsert r =>
      simp only [onList, plan, upsert_eq, Option.getD_some]
      split <;> rfl
  | setEnabled id enabled => exact changeFirst_eq_planChange id _ register
  | record id history => exact changeFirst_eq_planChange id _ register

theorem onList_of_plan_none {register : Register} {request : Request} {answer : Answer}
    (hplan : request.plan register = (answer, none)) : request.onList register = (answer, register) := by
  rw [onList_eq_plan, hplan]
  rfl

theorem onList_of_plan_some {register target : Register} {request : Request} {answer : Answer}
    (hplan : request.plan register = (answer, some target)) :
    request.onList register = (answer, target) := by
  rw [onList_eq_plan, hplan]
  rfl

end Request

variable {file : RegisterFile} {files : Files} {register : Register}

/-- An operation that has read the register either answers, or writes the register and answers then. -/
theorem serve_eq_plan (hread : file.read files = .ok register) (request : Request) :
    file.serve files request =
      match request.plan register with
      | (answer, none) => (.ok answer, files)
      | (answer, some target) =>
        ((file.write target files).1.map fun _ => answer, (file.write target files).2) := by
  have hchange : ∀ id change, ((file.amend id change files).1.map Answer.found,
      (file.amend id change files).2) =
        match Request.planChange id change register with
        | (answer, none) => (.ok answer, files)
        | (answer, some target) =>
          ((file.write target files).1.map fun _ => answer, (file.write target files).2) := by
    intro id change
    simp only [amend, hread, Request.planChange]
    by_cases hid : register.has id = true
    · simp only [hid, if_true]
      cases (file.write (register.amend change id) files).1 <;> rfl
    · simp only [hid]
      rfl
  cases request with
  | list => simp only [serve, hread, Request.plan]; rfl
  | get id => simp only [serve, get, hread, Request.plan]; rfl
  | upsert r => simp only [serve, upsert, hread, Request.plan]
  | setEnabled id enabled => exact hchange id _
  | record id history => exact hchange id _

end RegisterFile

/-- A place where a register is kept, by the steps that an operation takes there. -/
structure Medium (σ : Type) where
  load : σ → Outcome Register
  draft : Register → σ → Outcome σ
  commit : σ → Outcome σ

/-- The steps of an operation on a file. -/
def RegisterFile.medium (file : RegisterFile) : Medium Files where
  load := file.read
  draft register files := (file.writeDraft register files).mapError (·.at file.path)
  commit files := (file.commit files).mapError (·.at file.path)

/-- An operation that has read the register and is to write it. -/
structure Work where
  request : Request
  answer : Answer
  target : Register
  /-- How often the register had been replaced when it was read. -/
  replaced : Nat

/-- How far a handle has come with an operation. -/
inductive Stage where
  | idle
  | planned (work : Work)
  | drafted (work : Work)

/-- The operation that a handle has in hand. -/
def Stage.work? : Stage → Option Work
  | idle => none
  | planned work | drafted work => some work

@[simp]
theorem Stage.work?_idle : Stage.idle.work? = none := rfl

@[simp]
theorem Stage.work?_planned (work : Work) : (Stage.planned work).work? = some work := rfl

@[simp]
theorem Stage.work?_drafted (work : Work) : (Stage.drafted work).work? = some work := rfl

/-- What a handle has in hand after one of them came to another stage. -/
theorem Stage.work?_update {ι : Type} [DecidableEq ι] {stage : ι → Stage} {handle other : ι}
    {now : Stage} {work : Work}
    (hwork : (Function.update stage handle now other).work? = some work) :
    other = handle ∧ now.work? = some work ∨ (stage other).work? = some work := by
  by_cases hother : other = handle
  · subst hother
    rw [Function.update_self] at hwork
    exact .inl ⟨rfl, hwork⟩
  · rw [Function.update_of_ne hother] at hwork
    exact .inr hwork

/-- What has become of an operation. -/
structure Report (ι : Type) where
  handle : ι
  request : Request
  outcome : Outcome Answer

/-- What handles are about: the operations that wait at each, the one that it has in hand, and those
that have come to an end, in this order. -/
structure Desk (ι : Type) where
  waiting : ι → List Request
  stage : ι → Stage := fun _ => .idle
  reports : List (Report ι) := []
  /-- How often the register has been replaced. -/
  replaced : Nat := 0
  /-- Who wrote the draft that is there. -/
  drafter : Option ι := none

namespace Desk

variable {ι : Type} [DecidableEq ι]

/-- A handle comes to another stage. -/
def advance (desk : Desk ι) (handle : ι) (stage : Stage) : Desk ι :=
  { desk with stage := Function.update desk.stage handle stage }

/-- An operation comes to its end. -/
def finish (desk : Desk ι) (handle : ι) (request : Request) (outcome : Outcome Answer) : Desk ι :=
  { desk.advance handle .idle with reports := desk.reports ++ [⟨handle, request, outcome⟩] }

/-- The first operation that waits at a handle has read the register. -/
def take (desk : Desk ι) (handle : ι) (request : Request) (rest : List Request)
    (loaded : Outcome Register) : Desk ι :=
  let desk := { desk with waiting := Function.update desk.waiting handle rest }
  match loaded with
  | .error cause => desk.finish handle request (.error cause)
  | .ok register =>
    match request.plan register with
    | (answer, none) => desk.finish handle request (.ok answer)
    | (answer, some target) =>
      desk.advance handle (.planned { request, answer, target, replaced := desk.replaced })

/-- What a handle has not finished yet. -/
def left (desk : Desk ι) (handle : ι) : List Request :=
  ((desk.stage handle).work?.map (·.request)).toList ++ desk.waiting handle

/-- What a handle has finished. -/
def finished (desk : Desk ι) (handle : ι) : List Request :=
  (desk.reports.filter (·.handle = handle)).map (·.request)

/-- The operations that succeeded and what they answered, in the order in which they came to an end. -/
def successes (desk : Desk ι) : List (Request × Answer) :=
  desk.reports.filterMap fun report => report.outcome.toOption.map (report.request, ·)

end Desk

/-- A place with the handles that are open on it. -/
structure Session (σ ι : Type) where
  place : σ
  desk : Desk ι

namespace Session

variable {σ ι : Type} [DecidableEq ι]

/-- A handle takes its next step. -/
def turn (medium : Medium σ) (s : Session σ ι) (handle : ι) : Session σ ι :=
  match s.desk.stage handle with
  | .idle =>
    match s.desk.waiting handle with
    | [] => s
    | request :: rest => ⟨s.place, s.desk.take handle request rest (medium.load s.place)⟩
  | .planned work =>
    match medium.draft work.target s.place with
    | .error cause => ⟨s.place, s.desk.finish handle work.request (.error cause)⟩
    | .ok place => ⟨place, { s.desk.advance handle (.drafted work) with drafter := some handle }⟩
  | .drafted work =>
    match medium.commit s.place with
    | .error cause => ⟨s.place, s.desk.finish handle work.request (.error cause)⟩
    | .ok place =>
      ⟨place, { s.desk.finish handle work.request (.ok work.answer) with
        replaced := s.desk.replaced + 1, drafter := none }⟩

/-- Handles take their steps in an order. -/
def run (medium : Medium σ) (s : Session σ ι) (turns : List ι) : Session σ ι :=
  turns.foldl (turn medium) s

/-- What a step of a handle can be. -/
inductive Step (medium : Medium σ) (s : Session σ ι) (handle : ι) : Session σ ι → Prop where
  | rest (hstage : s.desk.stage handle = .idle) (hwaiting : s.desk.waiting handle = []) :
      Step medium s handle s
  | answer {request : Request} {rest : List Request} {outcome : Outcome Answer}
      (hstage : s.desk.stage handle = .idle) (hwaiting : s.desk.waiting handle = request :: rest)
      (houtcome : ∀ answer, outcome = .ok answer →
        ∃ register, medium.load s.place = .ok register ∧ request.plan register = (answer, none)) :
      Step medium s handle ⟨s.place, { s.desk with
        waiting := Function.update s.desk.waiting handle rest }.finish handle request outcome⟩
  | plan {request : Request} {rest : List Request} {register target : Register} {answer : Answer}
      (hstage : s.desk.stage handle = .idle) (hwaiting : s.desk.waiting handle = request :: rest)
      (hload : medium.load s.place = .ok register)
      (hplan : request.plan register = (answer, some target)) :
      Step medium s handle ⟨s.place, { s.desk with
        waiting := Function.update s.desk.waiting handle rest }.advance handle
          (.planned ⟨request, answer, target, s.desk.replaced⟩)⟩
  | fail {work : Work} {cause : Failure} (hwork : (s.desk.stage handle).work? = some work) :
      Step medium s handle ⟨s.place, s.desk.finish handle work.request (.error cause)⟩
  | draft {work : Work} {place : σ} (hstage : s.desk.stage handle = .planned work)
      (hdraft : medium.draft work.target s.place = .ok place) :
      Step medium s handle
        ⟨place, { s.desk.advance handle (.drafted work) with drafter := some handle }⟩
  | commit {work : Work} {place : σ} (hstage : s.desk.stage handle = .drafted work)
      (hcommit : medium.commit s.place = .ok place) :
      Step medium s handle ⟨place, { s.desk.finish handle work.request (.ok work.answer) with
        replaced := s.desk.replaced + 1, drafter := none }⟩

theorem step_turn (medium : Medium σ) (s : Session σ ι) (handle : ι) :
    Step medium s handle (s.turn medium handle) := by
  cases hstage : s.desk.stage handle with
  | idle =>
      cases hwaiting : s.desk.waiting handle with
      | nil =>
          simp only [turn, hstage, hwaiting]
          exact .rest hstage hwaiting
      | cons request rest =>
          cases hload : medium.load s.place with
          | error cause =>
              simp only [turn, hstage, hwaiting, Desk.take, hload]
              exact .answer hstage hwaiting fun answer hanswer => nomatch hanswer
          | ok register =>
              cases hplan : request.plan register with
              | mk answer target =>
                  simp only [turn, hstage, hwaiting, Desk.take, hload, hplan]
                  cases target with
                  | none =>
                      refine .answer hstage hwaiting fun other hother => ⟨register, hload, ?_⟩
                      obtain rfl := Except.ok.inj hother
                      exact hplan
                  | some target => exact .plan hstage hwaiting hload hplan
  | planned work =>
      have hwork : (s.desk.stage handle).work? = some work := by rw [hstage, Stage.work?_planned]
      cases hdraft : medium.draft work.target s.place with
      | error cause =>
          simp only [turn, hstage, hdraft]
          exact .fail hwork
      | ok place =>
          simp only [turn, hstage, hdraft]
          exact .draft hstage hdraft
  | drafted work =>
      have hwork : (s.desk.stage handle).work? = some work := by rw [hstage, Stage.work?_drafted]
      cases hcommit : medium.commit s.place with
      | error cause =>
          simp only [turn, hstage, hcommit]
          exact .fail hwork
      | ok place =>
          simp only [turn, hstage, hcommit]
          exact .commit hstage hcommit

/-! ## Nothing is left out -/

section

variable {medium : Medium σ} {s after : Session σ ι} {handle : ι}

/-- A step takes no operation away and adds none: what it finishes is the first that was left. -/
theorem Step.exists_finished (hstep : Step medium s handle after) (other : ι) :
    ∃ ended, after.desk.finished other = s.desk.finished other ++ ended ∧
      s.desk.left other = ended ++ after.desk.left other := by
  by_cases hother : other = handle
  · subst hother
    cases hstep with
    | rest => exact ⟨[], by simp, by simp⟩
    | @answer request rest outcome hstage hwaiting =>
        exact ⟨[request], by simp [Desk.finished, Desk.finish, Desk.advance],
          by simp [Desk.left, Desk.finish, Desk.advance, hstage, hwaiting]⟩
    | plan hstage hwaiting =>
        exact ⟨[], by simp [Desk.finished, Desk.advance],
          by simp [Desk.left, Desk.advance, hstage, hwaiting]⟩
    | @fail work cause hwork =>
        exact ⟨[work.request], by simp [Desk.finished, Desk.finish, Desk.advance],
          by simp [Desk.left, Desk.finish, Desk.advance, hwork]⟩
    | draft hstage =>
        exact ⟨[], by simp [Desk.finished, Desk.advance], by simp [Desk.left, Desk.advance, hstage]⟩
    | @commit work place hstage =>
        exact ⟨[work.request], by simp [Desk.finished, Desk.finish, Desk.advance],
          by simp [Desk.left, Desk.finish, Desk.advance, hstage]⟩
  · refine ⟨[], ?_, ?_⟩ <;> cases hstep <;>
      simp [Desk.finished, Desk.left, Desk.finish, Desk.advance, hother, Ne.symm hother]

theorem Step.mem_left (hstep : Step medium s handle after) {other : ι} {request : Request}
    (hrequest : request ∈ after.desk.left other) : request ∈ s.desk.left other := by
  obtain ⟨ended, -, hleft⟩ := hstep.exists_finished other
  rw [hleft]
  exact List.mem_append_right _ hrequest

end

/-! ## Alone -/

/-- An operation that nobody comes between is the operation on the file: in at most three steps it
leaves the files and the outcome that this one does. -/
theorem exists_run_eq_serve (file : RegisterFile) (s : Session Files ι) {handle : ι}
    {request : Request} {rest : List Request} (hstage : s.desk.stage handle = .idle)
    (hwaiting : s.desk.waiting handle = request :: rest) :
    ∃ steps ≤ 3, ∃ after, s.run file.medium (List.replicate steps handle) = after ∧
      after.place = (file.serve s.place request).2 ∧ after.desk.stage handle = .idle ∧
      after.desk.waiting handle = rest ∧
      after.desk.reports = s.desk.reports ++ [⟨handle, request, (file.serve s.place request).1⟩] := by
  cases hread : file.read s.place with
  | error cause =>
      refine ⟨1, by omega, _, rfl, ?_⟩
      rw [RegisterFile.serve_of_unreadable hread]
      simp [run, turn, hstage, hwaiting, Desk.take, Desk.finish, Desk.advance,
        RegisterFile.medium, hread]
  | ok register =>
      rw [RegisterFile.serve_eq_plan hread]
      cases hplan : request.plan register with
      | mk answer target =>
          cases target with
          | none =>
              refine ⟨1, by omega, _, rfl, ?_⟩
              simp [run, turn, hstage, hwaiting, Desk.take, Desk.finish, Desk.advance,
                RegisterFile.medium, hread, hplan]
          | some target =>
              cases hdraft : file.writeDraft target s.place with
              | error fault =>
                  refine ⟨2, by omega, _, rfl, ?_⟩
                  simp [run, turn, hstage, hwaiting, Desk.take, Desk.finish, Desk.advance,
                    RegisterFile.medium, hread, hplan, hdraft, RegisterFile.write, Except.mapError,
                    Except.map, List.replicate]
              | ok drafted =>
                  refine ⟨3, by omega, _, rfl, ?_⟩
                  cases hcommit : file.commit drafted <;>
                    simp [run, turn, hstage, hwaiting, Desk.take, Desk.finish, Desk.advance,
                      RegisterFile.medium, hread, hplan, hdraft, hcommit, RegisterFile.write,
                      Except.mapError, Except.map, List.replicate]

end Session

/-! ## One list -/

namespace RegisterFile

variable {file : RegisterFile} {files placed renamed : Files} {register entries : Register}
  {parent : FilePath} {name : String}

theorem Holds.eq (hfirst : file.Holds files register) (hsecond : file.Holds files entries) :
    register = entries :=
  Except.ok.inj ((read_eq_ok.mpr hfirst).symm.trans (read_eq_ok.mpr hsecond))

/-- A file with a name that the system takes, which is not there unless directories lead to it. -/
structure IsRooted (file : RegisterFile) (files : Files) (parent : FilePath) (name : String) :
    Prop where
  path : FilePath.ofText file.path = parent ++ [name]
  short : name.utf8ByteSize ≤ Files.maxNameBytes
  directory : files.node? (parent ++ [name]) ≠ none → files.find parent = .ok .directory

/-- A draft changes nothing about the file. -/
theorem Holds.of_writeDraft (hfile : file.Holds files register)
    (hrooted : file.IsRooted files parent name)
    (hdraft : file.writeDraft entries files = .ok placed) :
    file.Holds placed register ∧ file.IsRooted placed parent name ∧
      placed.read file.draftPath = .ok entries.document.toUTF8 := by
  have hpath := draftPath_eq hrooted.path
  rw [writeDraft, hpath] at hdraft
  have hplaced := Files.places_of_place hdraft
  refine ⟨?_, ⟨hrooted.path, hrooted.short, fun _ => hplaced.directory⟩, hpath ▸ hplaced.read_own⟩
  have hsame := hplaced.others name (draftName_ne name).symm
  have hfound := Files.find_concat_of_directory hplaced.directory name
  rw [if_neg (Nat.not_lt.mpr hrooted.short), hsame] at hfound
  -- What the directory lists under the name decides what is read, before and after.
  cases hnode : files.node? (parent ++ [name]) with
  | none =>
      have hmissing : ∀ bytes, files.read (parent ++ [name]) ≠ .ok bytes := by
        intro bytes hread
        have := (Files.find_concat_eq_ok.mp (Files.read_eq_ok.mp hread)).2.2
        rw [hnode] at this
        cases this
      have hplacedRead : placed.read (parent ++ [name]) = .error .notFound := by
        rw [Files.read, hfound, hnode]
      simp only [Holds, hrooted.path, hplacedRead] at hfile ⊢
      cases hread : files.read (parent ++ [name]) with
      | ok bytes => exact absurd hread (hmissing bytes)
      | error fault =>
          rw [hread] at hfile
          exact ⟨trivial, hfile.2⟩
  | some node =>
      have hparent := hrooted.directory (by simp [hnode])
      have hbefore : files.find (parent ++ [name]) = .ok node :=
        Files.find_concat_eq_ok.mpr ⟨hparent, hrooted.short, hnode⟩
      have hread : placed.read (parent ++ [name]) = files.read (parent ++ [name]) := by
        rw [Files.read, Files.read, hfound, hbefore, hnode]
      simpa only [Holds, hrooted.path, hread] using hfile

/-- A draft that is renamed is what the file holds. -/
theorem holds_of_commit (hrooted : file.IsRooted files parent name)
    (hdraft : files.read file.draftPath = .ok register.document.toUTF8)
    (hregister : register.Fits) (hcommit : file.commit files = .ok renamed) :
    file.Holds renamed register ∧ file.IsRooted renamed parent name := by
  have hpath := draftPath_eq hrooted.path
  rw [hpath] at hdraft
  rw [commit, hpath, hrooted.path] at hcommit
  have hmoved := Files.moves_of_rename (draftName_ne name) hdraft hcommit
  refine ⟨?_, hrooted.path, hrooted.short, fun _ => hmoved.directory⟩
  simp only [Holds, hrooted.path, hmoved.read_own]
  exact Register.ofBytes_toUTF8 hregister

namespace Request

theorem allOnList_concat (requests : List Request) (request : Request)
    (entries : List Registration) : allOnList (requests ++ [request]) entries =
      ((allOnList requests entries).1 ++ [(request.onList (allOnList requests entries).2).1],
        (request.onList (allOnList requests entries).2).2) := by
  induction requests generalizing entries with
  | nil => rfl
  | cons first rest ih => simp only [List.cons_append, allOnList, ih]

end Request

end RegisterFile

namespace Desk

variable {ι : Type}

/-- The list that the operations which succeeded make of a register. -/
def kept (desk : Desk ι) (register : Register) : Register :=
  (Request.allOnList (desk.successes.map Prod.fst) register).2

end Desk

namespace Session

variable {ι : Type}

/-- The operations that succeeded are those of a list, in the order in which they came to an end, and
the file holds this list. -/
structure IsSequential (file : RegisterFile) (register : Register) (s : Session Files ι) :
    Prop where
  answers : (Request.allOnList (s.desk.successes.map Prod.fst) register).1 =
    s.desk.successes.map Prod.snd
  holds : file.Holds s.place (s.desk.kept register)

variable {file : RegisterFile} {register : Register} {s after : Session Files ι}

/-- An operation that succeeds as it does on the list that the file holds. -/
theorem IsSequential.append_ok (hs : s.IsSequential file register) {handle : ι} {request : Request}
    {answer : Answer} {target : Register}
    (hreports : after.desk.reports = s.desk.reports ++ [⟨handle, request, .ok answer⟩])
    (honList : request.onList (s.desk.kept register) = (answer, target))
    (htarget : file.Holds after.place target) :
    after.IsSequential file register ∧ after.desk.kept register = target := by
  have hsuccesses : after.desk.successes = s.desk.successes ++ [(request, answer)] := by
    rw [Desk.successes, hreports, List.filterMap_append]
    rfl
  have hrequests : after.desk.successes.map Prod.fst = s.desk.successes.map Prod.fst ++ [request] := by
    rw [hsuccesses, List.map_append]
    rfl
  have hkept : after.desk.kept register = target := by
    rw [Desk.kept, hrequests, Request.allOnList_concat, ← Desk.kept, honList]
  refine ⟨⟨?_, hkept ▸ htarget⟩, hkept⟩
  rw [hrequests, Request.allOnList_concat, ← Desk.kept, honList, hs.answers, hsuccesses,
    List.map_append]
  rfl

/-- An operation that fails and leaves the place as it is. -/
theorem IsSequential.append_error (hs : s.IsSequential file register) {handle : ι}
    {request : Request} {cause : Failure}
    (hreports : after.desk.reports = s.desk.reports ++ [⟨handle, request, .error cause⟩])
    (hplace : after.place = s.place) :
    after.IsSequential file register ∧ after.desk.kept register = s.desk.kept register := by
  have hsuccesses : after.desk.successes = s.desk.successes := by
    rw [Desk.successes, hreports, List.filterMap_append]
    exact List.append_nil _
  have hkept : after.desk.kept register = s.desk.kept register := by
    rw [Desk.kept, hsuccesses, ← Desk.kept]
  refine ⟨⟨?_, ?_⟩, hkept⟩
  · rw [hsuccesses, hs.answers]
  · rw [hkept, hplace]
    exact hs.holds

variable [DecidableEq ι]

/-- A rename that succeeds replaces the register that the operation has read, and by its own draft. -/
def Undisturbed {σ : Type} (medium : Medium σ) (s : Session σ ι) (handle : ι) : Prop :=
  match s.desk.stage handle with
  | .drafted work => (medium.commit s.place).isOk = true →
      work.replaced = s.desk.replaced ∧ s.desk.drafter = some handle
  | _ => True

/-- What every step keeps: the operations are those of a list so far; what has been read since the
last rename is this list, and a draft holds what the handle that wrote it last makes of it. -/
structure Keeps (file : RegisterFile) (parent : FilePath) (name : String) (register : Register)
    (s : Session Files ι) : Prop extends s.IsSequential file register where
  rooted : file.IsRooted s.place parent name
  fits : ∀ handle, ∀ request ∈ s.desk.left handle, request.Fits
  old : ∀ handle work, (s.desk.stage handle).work? = some work → work.replaced ≤ s.desk.replaced
  plans : ∀ handle work, (s.desk.stage handle).work? = some work →
    work.replaced = s.desk.replaced →
      work.request.plan (s.desk.kept register) = (work.answer, some work.target)
  own : ∀ handle work, s.desk.stage handle = .drafted work → s.desk.drafter = some handle →
    s.place.read file.draftPath = .ok work.target.document.toUTF8

variable {parent : FilePath} {name : String} {handle : ι}

/-- A step that leaves the place as it is keeps this, if what succeeds by it leaves the list as it is
and what is planned by it is what the list becomes. -/
theorem Keeps.of_place (hs : s.Keeps file parent name register) {now : Stage}
    (hplace : after.place = s.place)
    (hlist : after.IsSequential file register ∧ after.desk.kept register = s.desk.kept register)
    (hfits : ∀ other, ∀ request ∈ after.desk.left other, request.Fits)
    (hreplaced : after.desk.replaced = s.desk.replaced)
    (hdrafter : after.desk.drafter = s.desk.drafter)
    (hstage : after.desk.stage = Function.update s.desk.stage handle now)
    (hnow : now = .idle ∨ ∃ work, now = .planned work ∧ work.replaced = s.desk.replaced ∧
      work.request.plan (s.desk.kept register) = (work.answer, some work.target)) :
    after.Keeps file parent name register := by
  obtain ⟨hsequential, hkept⟩ := hlist
  have hnow : ∀ work, now.work? = some work → now = .planned work ∧
      work.replaced = s.desk.replaced ∧
        work.request.plan (s.desk.kept register) = (work.answer, some work.target) := by
    intro work hwork
    rcases hnow with rfl | ⟨planned, rfl, hplanned⟩
    · cases hwork
    · obtain rfl := Option.some.inj hwork
      exact ⟨rfl, hplanned⟩
  refine ⟨hsequential, hplace ▸ hs.rooted, hfits, ?_, ?_, ?_⟩ <;> intro other work <;>
    rw [hstage] <;> by_cases hother : other = handle
  · rw [hother, Function.update_self, hreplaced]
    intro hwork
    exact Nat.le_of_eq (hnow work hwork).2.1
  · rw [Function.update_of_ne hother, hreplaced]
    exact hs.old other work
  · rw [hother, Function.update_self, hkept]
    intro hwork _
    exact (hnow work hwork).2.2
  · rw [Function.update_of_ne hother, hkept, hreplaced]
    exact hs.plans other work
  · rw [hother, Function.update_self]
    rintro rfl
    cases (hnow work rfl).1
  · rw [Function.update_of_ne hother, hdrafter, hplace]
    exact hs.own other work

/-- A draft keeps this: the list stays, and the draft is now that of the handle. -/
theorem Keeps.draft (hs : s.Keeps file parent name register) {work : Work} {drafted : Files}
    (hstage : s.desk.stage handle = .planned work)
    (hdraft : file.writeDraft work.target s.place = .ok drafted)
    (hfits : ∀ other, ∀ request ∈ (s.desk.advance handle (.drafted work)).left other, request.Fits) :
    (⟨drafted, { s.desk.advance handle (.drafted work) with drafter := some handle }⟩ :
      Session Files ι).Keeps file parent name register := by
  obtain ⟨hholds, hrooted, hread⟩ := hs.holds.of_writeDraft hs.rooted hdraft
  have hwork : ∀ other now, (Function.update s.desk.stage handle (.drafted work) other).work? =
      some now → (s.desk.stage other).work? = some now := by
    intro other now hnow
    rcases Stage.work?_update hnow with ⟨rfl, hnow⟩ | hbefore
    · rwa [hstage]
    · exact hbefore
  refine ⟨⟨hs.answers, hholds⟩, hrooted, hfits,
    fun other now hnow => hs.old other now (hwork other now hnow),
    fun other now hnow => hs.plans other now (hwork other now hnow), ?_⟩
  intro other now hnow howner
  obtain rfl : handle = other := Option.some.inj howner
  obtain rfl : work = now := by simpa [Desk.advance] using hnow
  exact hread

/-- A rename that is not disturbed keeps this: the operation takes effect on the list as it is. -/
theorem Keeps.commit (hs : s.Keeps file parent name register) {work : Work} {renamed : Files}
    (hstage : s.desk.stage handle = .drafted work) (hcommit : file.commit s.place = .ok renamed)
    (hfresh : work.replaced = s.desk.replaced) (howner : s.desk.drafter = some handle)
    (hfits : ∀ other, ∀ request ∈ (s.desk.finish handle work.request (.ok work.answer)).left other,
      request.Fits) :
    (⟨renamed, { s.desk.finish handle work.request (.ok work.answer) with
      replaced := s.desk.replaced + 1, drafter := none }⟩ :
      Session Files ι).Keeps file parent name register := by
  have hwork : (s.desk.stage handle).work? = some work := by rw [hstage, Stage.work?_drafted]
  have honList := RegisterFile.Request.onList_of_plan_some (hs.plans handle work hwork hfresh)
  have hrequest : work.request.Fits := hs.fits handle _ (by simp [Desk.left, hwork])
  have htarget : work.target.Fits := by
    have := RegisterFile.fits_onList hs.holds.fits hrequest
    rwa [honList] at this
  obtain ⟨hholds, hrooted⟩ :=
    RegisterFile.holds_of_commit hs.rooted (hs.own handle work hstage howner) htarget hcommit
  -- Whatever others have planned was read before this rename.
  have hold : ∀ other now, (Function.update s.desk.stage handle .idle other).work? = some now →
      now.replaced ≤ s.desk.replaced := by
    intro other now hnow
    rcases Stage.work?_update hnow with ⟨-, hidle⟩ | hbefore
    · cases hidle
    · exact hs.old other now hbefore
  refine ⟨(hs.append_ok rfl honList hholds).1, hrooted, hfits, fun other now hnow => ?_,
    fun other now hnow hafter => ?_, fun other now _ hnone => nomatch hnone⟩
  · exact Nat.le_succ_of_le (hold other now hnow)
  · have hle : now.replaced ≤ s.desk.replaced := hold other now hnow
    have heq : now.replaced = s.desk.replaced + 1 := hafter
    omega

theorem Keeps.step (hs : s.Keeps file parent name register)
    (hstep : Step file.medium s handle after) (hundisturbed : s.Undisturbed file.medium handle) :
    after.Keeps file parent name register := by
  have hfits : ∀ other, ∀ request ∈ after.desk.left other, request.Fits :=
    fun other request hrequest => hs.fits other request (hstep.mem_left hrequest)
  cases hstep with
  | rest => exact hs
  | @answer request rest outcome hstage hwaiting houtcome =>
      cases outcome with
      | error cause =>
          exact hs.of_place rfl (hs.append_error rfl rfl) hfits rfl rfl rfl (.inl rfl)
      | ok answer =>
          obtain ⟨loaded, hloaded, hplan⟩ := houtcome answer rfl
          obtain rfl := (RegisterFile.read_eq_ok.mp hloaded).eq hs.holds
          have honList := RegisterFile.Request.onList_of_plan_none hplan
          exact hs.of_place rfl (hs.append_ok rfl honList hs.holds) hfits rfl rfl rfl (.inl rfl)
  | @plan request rest loaded target answer hstage hwaiting hloaded hplan =>
      obtain rfl := (RegisterFile.read_eq_ok.mp hloaded).eq hs.holds
      exact hs.of_place rfl ⟨⟨hs.answers, hs.holds⟩, rfl⟩ hfits rfl rfl rfl
        (.inr ⟨_, rfl, rfl, hplan⟩)
  | @fail work cause hwork =>
      exact hs.of_place rfl (hs.append_error rfl rfl) hfits rfl rfl rfl (.inl rfl)
  | @draft work place hstage hdraft =>
      exact hs.draft hstage (mapError_eq_ok.mp hdraft) hfits
  | @commit work place hstage hcommit =>
      simp only [Undisturbed, hstage, hcommit, Except.isOk, Except.toBool] at hundisturbed
      obtain ⟨hfresh, howner⟩ := hundisturbed trivial
      exact hs.commit hstage (mapError_eq_ok.mp hcommit) hfresh howner hfits

end Session

/-! ## What every interleaving does -/

/-- A file with its draft, as the registers that they hold. -/
structure Cells where
  document : Register
  draft : Option Register := none

/-- The steps of an operation there; the path is that of which a failure tells. -/
def Cells.medium (path : String) : Medium Cells where
  load cells := .ok cells.document
  draft register cells := .ok { cells with draft := some register }
  commit cells :=
    match cells.draft with
    | some register => .ok { document := register }
    | none => .error (FileFault.notFound.at path)

namespace RegisterFile

/-- A file that can be written and its draft hold registers. -/
structure Shows (file : RegisterFile) (parent : FilePath) (name : String) (files : Files)
    (cells : Cells) : Prop where
  writable : file.IsWritable files parent name
  directory : files.node? (parent ++ [name]) ≠ none → files.find parent = .ok .directory
  document : file.Holds files cells.document
  draft : match cells.draft with
    | some register => files.read file.draftPath = .ok register.document.toUTF8 ∧ register.Fits
    | none => files.read file.draftPath = .error .notFound

variable {file : RegisterFile} {parent : FilePath} {name : String} {files : Files} {cells : Cells}
  {register : Register}

theorem Shows.rooted (hshows : file.Shows parent name files cells) :
    file.IsRooted files parent name :=
  ⟨hshows.writable.path, hshows.writable.names name (by simp), hshows.directory⟩

theorem Shows.exists_draft (hshows : file.Shows parent name files cells) (hregister : register.Fits) :
    ∃ drafted, file.writeDraft register files = .ok drafted ∧
      file.Shows parent name drafted { cells with draft := some register } := by
  have hfile := hshows.writable
  obtain ⟨drafted, hplace⟩ := hfile.passable.exists_place (hfile.names (draftName name) (by simp))
    (hfile.clear (draftName name) (by simp)) register.document.toUTF8
  have hdraft : file.writeDraft register files = .ok drafted := by
    rw [writeDraft, draftPath_eq hfile.path, hplace]
  obtain ⟨hholds, hrooted, hread⟩ := hshows.document.of_writeDraft hshows.rooted hdraft
  have hplaced := Files.places_of_place hplace
  refine ⟨drafted, hdraft, ⟨hfile.path, Files.isPassable_of_find hplaced.directory, hfile.names, ?_⟩,
    hrooted.directory, hholds, hread, hregister⟩
  have hother := hplaced.others name (draftName_ne name).symm
  simp [hplaced.own, hother, hfile.clear name (by simp)]

theorem Shows.exists_commit (hshows : file.Shows parent name files cells)
    (hdraft : cells.draft = some register) :
    ∃ renamed, file.commit files = .ok renamed ∧ file.Shows parent name renamed ⟨register, none⟩ := by
  have hfile := hshows.writable
  have hpath := draftPath_eq hfile.path
  obtain ⟨hread, hregister⟩ := hdraft ▸ hshows.draft
  have hdraftRead := hpath ▸ hread
  obtain ⟨renamed, hrename⟩ := Files.exists_rename hdraftRead (hfile.names name (by simp))
    (hfile.clear name (by simp))
  have hcommit : file.commit files = .ok renamed := by rw [commit, hpath, hfile.path, hrename]
  obtain ⟨hholds, hrooted⟩ := holds_of_commit hshows.rooted hread hregister hcommit
  have hmoved := Files.moves_of_rename (draftName_ne name) hdraftRead hrename
  have hmissing : renamed.read file.draftPath = .error .notFound := by
    rw [hpath, Files.read, Files.find_concat_of_directory hmoved.directory,
      if_neg (Nat.not_lt.mpr (hfile.names (draftName name) (by simp))), hmoved.gone]
  refine ⟨renamed, hcommit, ⟨hfile.path, Files.isPassable_of_find hmoved.directory, hfile.names, ?_⟩,
    hrooted.directory, hholds, hmissing⟩
  simp [hmoved.own, hmoved.gone]

theorem Shows.commit_eq_error (hshows : file.Shows parent name files cells)
    (hdraft : cells.draft = none) : file.commit files = .error .notFound := by
  have hread : files.read file.draftPath = .error .notFound := by
    simpa only [hdraft] using hshows.draft
  rw [commit, Files.rename, hread]
  rfl

end RegisterFile

namespace Session

variable {ι : Type} {file : RegisterFile} {parent : FilePath} {name : String}
  {s : Session Files ι} {c : Session Cells ι}

/-- Handles on a file and handles on cells are about the same. -/
structure Mirrors (file : RegisterFile) (parent : FilePath) (name : String) (s : Session Files ι)
    (c : Session Cells ι) : Prop where
  place : file.Shows parent name s.place c.place
  desk : s.desk = c.desk
  requests : ∀ handle, ∀ request ∈ c.desk.left handle, request.Fits
  targets : ∀ handle work, (c.desk.stage handle).work? = some work → work.target.Fits

variable [DecidableEq ι]

/-- What is planned fits, since the register that is read does. -/
theorem Mirrors.targets_step (hmirrors : Mirrors file parent name s c) {path : String} {handle : ι}
    {after : Session Cells ι} (hstep : Step (Cells.medium path) c handle after) (other : ι)
    (work : Work) (hwork : (after.desk.stage other).work? = some work) : work.target.Fits := by
  cases hstep with
  | rest => exact hmirrors.targets other work hwork
  | answer | fail | commit =>
      rcases Stage.work?_update hwork with ⟨-, hidle⟩ | hbefore
      · cases hidle
      · exact hmirrors.targets other work hbefore
  | @plan request rest loaded target answer hstage hwaiting hload hplan =>
      rcases Stage.work?_update hwork with ⟨-, hnow⟩ | hbefore
      · obtain rfl := Option.some.inj hnow
        obtain rfl := Except.ok.inj hload
        have hrequest : request.Fits := hmirrors.requests handle request (by simp [Desk.left, hwaiting])
        have htarget := RegisterFile.fits_onList hmirrors.place.document.fits hrequest
        rwa [RegisterFile.Request.onList_of_plan_some hplan] at htarget
      · exact hmirrors.targets other work hbefore
  | @draft planned place hstage hdraft =>
      rcases Stage.work?_update hwork with ⟨-, hnow⟩ | hbefore
      · obtain rfl := Option.some.inj hnow
        exact hmirrors.targets handle planned (by rw [hstage, Stage.work?_planned])
      · exact hmirrors.targets other work hbefore

/-- A step on the file is the same step on the cells. -/
theorem Mirrors.place_turn (hmirrors : Mirrors file parent name s c) (handle : ι) :
    file.Shows parent name (s.turn file.medium handle).place
      (c.turn (Cells.medium file.path) handle).place ∧
    (s.turn file.medium handle).desk = (c.turn (Cells.medium file.path) handle).desk := by
  obtain ⟨files, desk⟩ := s
  obtain ⟨cells, _⟩ := c
  obtain ⟨hplace, rfl, hrequests, htargets⟩ := hmirrors
  cases hstage : desk.stage handle with
  | idle =>
      cases hwaiting : desk.waiting handle with
      | nil =>
          simp only [Session.turn, hstage, hwaiting]
          exact ⟨hplace, trivial⟩
      | cons request rest =>
          have hload : file.medium.load files = (Cells.medium file.path).load cells :=
            RegisterFile.read_eq_ok.mpr hplace.document
          simp only [Session.turn, hstage, hwaiting, hload]
          exact ⟨hplace, trivial⟩
  | planned work =>
      have hwork := htargets handle work (by rw [hstage, Stage.work?_planned])
      obtain ⟨drafted, hdraft, hshows⟩ := hplace.exists_draft hwork
      simp only [Session.turn, hstage, RegisterFile.medium, Cells.medium, hdraft, Except.mapError]
      exact ⟨hshows, trivial⟩
  | drafted work =>
      cases hdraft : cells.draft with
      | none =>
          simp only [Session.turn, hstage, RegisterFile.medium, Cells.medium, hdraft,
            hplace.commit_eq_error hdraft, Except.mapError]
          exact ⟨hplace, trivial⟩
      | some register =>
          obtain ⟨renamed, hcommit, hshows⟩ := hplace.exists_commit hdraft
          simp only [Session.turn, hstage, RegisterFile.medium, Cells.medium, hdraft, hcommit,
            Except.mapError]
          exact ⟨hshows, trivial⟩

theorem Mirrors.turn (hmirrors : Mirrors file parent name s c) (handle : ι) :
    Mirrors file parent name (s.turn file.medium handle) (c.turn (Cells.medium file.path) handle) := by
  have hstep := step_turn (Cells.medium file.path) c handle
  obtain ⟨hplace, hdesk⟩ := hmirrors.place_turn handle
  exact ⟨hplace, hdesk,
    fun other request hrequest => hmirrors.requests other request (hstep.mem_left hrequest),
    hmirrors.targets_step hstep⟩

/-- However the steps come in turn, what handles do on a file that can be written is what they do on
two cells for the register and the draft. -/
theorem Mirrors.run (hmirrors : Mirrors file parent name s c) (turns : List ι) :
    Mirrors file parent name (s.run file.medium turns) (c.run (Cells.medium file.path) turns) := by
  induction turns generalizing s c with
  | nil => exact hmirrors
  | cons first rest ih => exact ih (hmirrors.turn first)

end Session

namespace Rehearsal

open RegisterFile (Request)

/-- Who has the register open. -/
inductive Keeper where
  | server
  | console
deriving DecidableEq

/-- What they are asked. -/
def askBoth (server console : List Request) : Keeper → List Request
  | .server => server
  | .console => console

/-- A file for a register. -/
def jobs : RegisterFile := ⟨"jobs"⟩

/-- Both have it open, and it is not there yet. -/
def bothOpen (server console : List Request) : Session Files Keeper :=
  ⟨{}, { waiting := askBoth server console }⟩

/-- The same on cells. -/
def bothOpenCells (server console : List Request) : Session Cells Keeper :=
  ⟨⟨[], none⟩, { waiting := askBoth server console }⟩

theorem mirrors_jobs {server console : List Request} (hserver : ∀ request ∈ server, request.Fits)
    (hconsole : ∀ request ∈ console, request.Fits) :
    Session.Mirrors jobs [] "jobs" (bothOpen server console) (bothOpenCells server console) := by
  have hmissing : ∀ own ∈ ["jobs", RegisterFile.draftName "jobs"],
      Files.read {} ([] ++ [own]) = .error .notFound := by
    intro own hown
    have hshort := isWritable_jobs.names own hown
    rw [Files.read, Files.find_concat_of_directory rfl, if_neg (Nat.not_lt.mpr hshort)]
    rfl
  refine ⟨⟨isWritable_jobs, fun _ => rfl, ?_, ?_⟩, rfl, ?_, fun _ _ hwork => by cases hwork⟩
  · have hread := hmissing "jobs" (by simp)
    show jobs.Holds {} []
    simp only [RegisterFile.Holds, jobs, isWritable_jobs.path, hread, and_self]
  · show Files.read {} jobs.draftPath = .error .notFound
    rw [jobs, RegisterFile.draftPath_eq isWritable_jobs.path]
    exact hmissing _ (by simp)
  · rintro (_ | _) request hrequest
    · exact hserver request hrequest
    · exact hconsole request hrequest

/-- Another site that can be registered. -/
def stall : Registration where
  site := { id := "stall", domain := "example.org" }

theorem fits_shop : shop.Fits := fits_someRequests (.upsert shop) (by simp [someRequests])

theorem fits_stall : stall.Fits := by
  refine ⟨⟨by simp [stall], ⟨⟨by decide, by decide⟩, by decide, by decide, by decide, by decide⟩,
    nofun⟩, by decide, by decide, ⟨nofun, nofun, nofun, by decide, by decide⟩⟩

/-- What the server and the console are asked, and how their steps come in turn: the server reads
between the steps of the console and changes what the console has written. -/
def aside : List Keeper := [.console, .server, .console, .console, .server, .server, .server]

theorem fits_upserts : (∀ request ∈ [Request.upsert shop], request.Fits) ∧
    ∀ request ∈ [Request.upsert stall], request.Fits := by
  simpa [Request.Fits] using ⟨fits_shop, fits_stall⟩

/-- A rename may even take the draft of another: the site of the console is there although it reports
a failure, and that of the server is not although it reports that it is done. -/
theorem draft_of_another_is_renamed :
    ∃ ended, (bothOpen [.upsert shop] [.upsert stall]).run jobs.medium
        [.server, .console, .server, .console, .server, .console] = ended ∧
      ended.desk.reports = [⟨.server, .upsert shop, .ok .done⟩,
        ⟨.console, .upsert stall, .error (FileFault.notFound.at "jobs")⟩] ∧
      jobs.Holds ended.place [stall] := by
  have hmirrors := (mirrors_jobs fits_upserts.1 fits_upserts.2).run
    [.server, .console, .server, .console, .server, .console]
  exact ⟨_, rfl, hmirrors.desk ▸ rfl, hmirrors.place.document⟩

end Rehearsal

end SiteWatch
