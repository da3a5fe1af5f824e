/-
# The register in a file is a list

Whatever is asked of a register in a file is answered as by a list of registrations, and afterwards
the file holds that list. An operation that finds no registration, or a document that cannot be read,
leaves every file as it is.
-/

import Mathlib.Data.List.Basic
import SiteWatch.Proofs.Schedule.Format
import SiteWatch.Proofs.Store.Files
import SiteWatch.Proofs.Store.Paths

namespace SiteWatch

namespace RegisterFile

variable {file : RegisterFile} {files : Files} {register : Register}

/-! ## The draft -/

/-- The name of the draft for a file of a name. -/
def draftName (name : String) : String :=
  (match Text.extension? name with
    | some ending => String.ofList (name.toList.take (name.length - ending.length - 1))
    | none => name) ++ ".json.tmp"

theorem draftPath_eq {parent : FilePath} {name : String}
    (hpath : FilePath.ofText file.path = parent ++ [name]) :
    file.draftPath = parent ++ [draftName name] := by
  cases hending : Text.extension? name <;> simp [draftPath, draftName, hpath, hending]

/-- An ending is as long as what follows the last full stop. -/
theorem length_of_extension? {name ending : String}
    (hending : Text.extension? name = some ending) :
    ending.length = (name.toList.reverse.takeWhile (· ≠ '.')).length := by
  simp only [Text.extension?] at hending
  split at hending
  · split at hending
    · cases hending
    · cases hending
      simp
  · cases hending

/-- The draft has another name than the file. -/
theorem draftName_ne (name : String) : draftName name ≠ name := by
  intro hname
  have hlength := congrArg String.length hname
  have hnine : ".json.tmp".length = 9 := rfl
  cases hending : Text.extension? name with
  | none =>
      simp only [draftName, hending, String.length_append] at hlength
      omega
  | some ending =>
      -- The name would end with that of a draft, so its own ending would have three characters.
      have hthree : ending.length = 3 := by
        rw [length_of_extension? hending, ← hname, draftName, String.toList_append,
          List.reverse_append]
        rfl
      simp only [draftName, hending, String.length_append, String.length_ofList, List.length_take,
        String.length_toList, hthree] at hlength
      omega

/-! ## What the file holds -/

/-- The system puts a register in the place of the file: its document is written as a draft, and the
draft is renamed. -/
def Replaces (file : RegisterFile) (register : Register) (files written : Files) : Prop :=
  ∃ drafted, files.place file.draftPath register.document.toUTF8 = .ok drafted ∧
    drafted.rename file.draftPath (FilePath.ofText file.path) = .ok written

variable {written : Files}

theorem Replaces.write_eq (hreplaces : file.Replaces register files written) :
    file.write register files = (.ok (), written) := by
  obtain ⟨drafted, hplace, hrename⟩ := hreplaces
  simp only [write, writeDraft, hplace, commit, hrename]

/-- Then the document is what stands in the file. -/
theorem Replaces.read_eq (hreplaces : file.Replaces register files written) :
    written.read (FilePath.ofText file.path) = .ok register.document.toUTF8 := by
  obtain ⟨drafted, hplace, hrename⟩ := hreplaces
  obtain ⟨ready, -, hplaced⟩ := bind_eq_ok.mp hplace
  refine Files.read_rename hrename (Files.read_write hplaced) ?_
  obtain ⟨_, -, _, htarget, -⟩ := Files.rename_eq_ok.mp hrename
  obtain ⟨parent, name, hpath⟩ := Files.exists_of_write htarget
  rw [draftPath_eq hpath, hpath, List.prefix_append_right_inj]
  simpa using draftName_ne name

/-- The file holds a list of registrations: it is their document, or it is missing and there are
none. -/
def Holds (file : RegisterFile) (files : Files) (entries : List Registration) : Prop :=
  match files.read (FilePath.ofText file.path) with
  | .ok bytes => Register.ofBytes bytes = .ok entries
  | .error fault => fault = .notFound ∧ entries = []

theorem read_eq_ok : file.read files = .ok register ↔ file.Holds files register := by
  cases hread : files.read (FilePath.ofText file.path) with
  | ok bytes => simp [read, Holds, hread]
  | error fault => cases fault <;> simp [read, Holds, hread, eq_comm]

theorem Holds.fits (hfile : file.Holds files register) : register.Fits := by
  simp only [Holds] at hfile
  split at hfile
  · exact Register.fits_of_ofBytes hfile
  · simp [hfile.2, Register.Fits]

theorem Replaces.holds (hreplaces : file.Replaces register files written)
    (hregister : register.Fits) : file.Holds written register := by
  simp only [Holds, hreplaces.read_eq]
  exact Register.ofBytes_toUTF8 hregister

/-! ## Requests -/

/-- What a register is asked. -/
inductive Request where
  | list
  | get (id : String)
  | upsert (r : Registration)
  | setEnabled (id : String) (enabled : Bool)
  | record (id : String) (history : Bookkeeping)

/-- What a register answers. -/
inductive Answer where
  | all (entries : List Registration)
  | one (entry : Option Registration)
  | done
  | found (known : Bool)
deriving DecidableEq, Repr

/-- The numbers of a request fit their types, and its moments can be shown. -/
def Request.Fits : Request → Prop
  | upsert r => r.Fits
  | record _ history => history.Fits
  | _ => True

/-- The register in a file answers a request. -/
def serve (file : RegisterFile) (files : Files) : Request → Outcome Answer × Files
  | .list => ((file.read files).map .all, files)
  | .get id => ((file.get id files).map .one, files)
  | .upsert r => ((file.upsert r files).1.map fun _ => .done, (file.upsert r files).2)
  | .setEnabled id enabled =>
    ((file.setEnabled id enabled files).1.map .found, (file.setEnabled id enabled files).2)
  | .record id history =>
    ((file.record id history files).1.map .found, (file.record id history files).2)

/-- The register in a file answers one request after another. -/
def serveAll (file : RegisterFile) : List Request → Files → List (Outcome Answer) × Files
  | [], files => ([], files)
  | request :: rest, files =>
    let (answer, after) := file.serve files request
    let (answers, last) := file.serveAll rest after
    (answer :: answers, last)

/-- A list with its first entry of an id changed, and whether there is one. -/
def changeFirst (id : String) (change : Registration → Registration) (entries : List Registration) :
    Answer × List Registration :=
  match entries.findIdx? (·.site.id == id) with
  | some place => (.found true, entries.modify place change)
  | none => (.found false, entries)

namespace Request

/-- A list of registrations answers a request. -/
def onList (entries : List Registration) : Request → Answer × List Registration
  | list => (.all entries, entries)
  | get id => (.one (entries.find? (·.site.id == id)), entries)
  | upsert r =>
    match entries.findIdx? (·.site.id == r.site.id) with
    | some place => (.done, entries.set place r)
    | none => (.done, entries ++ [r])
  | setEnabled id enabled =>
    changeFirst id (fun r => { r with site := { r.site with enabled } }) entries
  | record id history => changeFirst id (fun r => { r with history }) entries

/-- A request changes the list: something is put into it, or an entry of its id is changed. -/
def Changes (entries : List Registration) : Request → Prop
  | upsert _ => True
  | setEnabled id _ | record id _ => ∃ entry ∈ entries, entry.site.id = id
  | _ => False

/-- A list of registrations answers one request after another. -/
def allOnList : List Request → List Registration → List Answer × List Registration
  | [], entries => ([], entries)
  | request :: rest, entries =>
    let (answer, after) := request.onList entries
    let (answers, last) := allOnList rest after
    (answer :: answers, last)

end Request

/-! ## One request -/

theorem has_eq_isSome (id : String) (register : Register) :
    register.has id = (register.findIdx? (·.site.id == id)).isSome := by
  rw [List.findIdx?_isSome]
  rfl

/-- A change to the registration of an id is a change to its first entry. -/
theorem amend_eq_modify (change : Registration → Registration) (id : String)
    (register : Register) : register.amend change id =
      match register.findIdx? (·.site.id == id) with
      | some place => register.modify place change
      | none => register := by
  induction register with
  | nil => rfl
  | cons r rest ih =>
      rw [Register.amend, List.findIdx?_cons]
      by_cases hid : r.site.id = id
      · simp [Registration.id, hid]
      · rw [ih]
        cases rest.findIdx? (·.site.id == id) <;> simp [Registration.id, hid]

theorem upsert_eq (register : Register) (r : Registration) : register.upsert r =
    match register.findIdx? (·.site.id == r.site.id) with
    | some place => register.set place r
    | none => register ++ [r] := by
  have hhas := has_eq_isSome r.id register
  have hamend := amend_eq_modify (fun _ => r) r.id register
  simp only [Registration.id] at hhas hamend
  simp only [Register.upsert, Registration.id, hhas, hamend]
  cases register.findIdx? (·.site.id == r.site.id) with
  | none => rfl
  | some place => simp [List.set_eq_modify]

/-- The system carries out what a request asks of it: where the list changes, its new document takes
the place of the file. -/
def CallsSucceed (file : RegisterFile) (files : Files) (request : Request) : Prop :=
  ∀ entries, file.Holds files entries → request.Changes entries →
    ∃ written, file.Replaces (request.onList entries).2 files written

/-- What is done to a file that holds a register follows what is done to the list: if the list does
not change, nothing is written; else what it becomes is, and only a fault of the system then changes
the answer. -/
inductive Follows (file : RegisterFile) (files : Files) (register : Register) (changes : Prop) :
    Answer × List Registration → Outcome Answer × Files → Prop where
  | unchanged (answer : Answer) :
      Follows file files register changes (answer, register) (.ok answer, files)
  | changed (hchanges : changes) (answer : Answer) (entries : List Registration)
      (hfound : answer ≠ .found false) :
      Follows file files register changes (answer, entries)
        ((file.write entries files).1.map fun _ => answer, (file.write entries files).2)

theorem amend_follows (hread : file.read files = .ok register) (id : String)
    (change : Registration → Registration) :
    Follows file files register (∃ entry ∈ register, entry.site.id = id)
      (changeFirst id change register)
      ((file.amend id change files).1.map .found, (file.amend id change files).2) := by
  simp only [amend, hread, has_eq_isSome, amend_eq_modify, changeFirst]
  cases hplace : register.findIdx? (·.site.id == id) with
  | none => exact .unchanged _
  | some place =>
      have hfound : ∃ entry ∈ register, entry.site.id = id := by
        simpa [List.findIdx?_isSome] using congrArg Option.isSome hplace
      have hboth : ∀ outcome : Outcome Unit, (outcome.map fun _ => true).map Answer.found =
          outcome.map fun _ => .found true := by
        rintro (_ | _) <;> rfl
      simp only [Option.isSome_some, if_true, hboth]
      exact .changed hfound _ _ (by simp)

theorem serve_follows (hread : file.read files = .ok register) (request : Request) :
    Follows file files register (request.Changes register) (request.onList register)
      (file.serve files request) := by
  cases request with
  | list =>
      simp only [serve, hread]
      exact .unchanged _
  | get id =>
      simp only [serve, get, hread]
      exact .unchanged _
  | upsert r =>
      simp only [serve, upsert, hread, upsert_eq, Request.onList]
      split <;> exact .changed trivial _ _ (by simp)
  | setEnabled id enabled => exact amend_follows hread id _
  | record id history => exact amend_follows hread id _

/-- The list that a request leaves fits. -/
theorem fits_onList {entries : List Registration} {request : Request}
    (hentries : Register.Fits entries) (hrequest : request.Fits) :
    Register.Fits (request.onList entries).2 := by
  have hchange : ∀ id change, (∀ r, r.Fits → (change r).Fits) →
      Register.Fits (changeFirst id change entries).2 := by
    intro id change hchange
    simp only [changeFirst]
    split
    · intro r hr
      obtain ⟨place, hplace⟩ := List.mem_iff_getElem?.mp hr
      rw [List.getElem?_modify] at hplace
      obtain ⟨old, hold, rfl⟩ := Option.map_eq_some_iff.mp hplace
      have hfits := hentries old (List.mem_of_getElem? hold)
      split
      · exact hchange old hfits
      · exact hfits
    · exact hentries
  cases request with
  | list | get => exact hentries
  | upsert r =>
      simp only [Request.onList]
      split
      · intro other hother
        rcases List.mem_or_eq_of_mem_set hother with hother | rfl
        · exact hentries other hother
        · exact hrequest
      · exact List.forall_mem_append.mpr ⟨hentries, List.forall_mem_singleton.mpr hrequest⟩
  | setEnabled id enabled =>
      exact hchange id _ fun r hr =>
        ⟨⟨hr.site.instructions, hr.site.options, hr.site.updatedAt⟩, hr.checkIntervalDays,
          hr.priority, hr.history⟩
  | record id history =>
      exact hchange id _ fun r hr => ⟨hr.site, hr.checkIntervalDays, hr.priority, hrequest⟩

section

variable {changes : Prop} {step : Answer × List Registration} {served : Outcome Answer × Files}

/-- The answer is that of the list, and the file holds what the list has become. -/
theorem Follows.eq_and_holds (hfollows : Follows file files register changes step served)
    (hfile : file.Holds files register) (hstep : Register.Fits step.2)
    (hcalls : changes → ∃ written, file.Replaces step.2 files written) :
    served.1 = .ok step.1 ∧ file.Holds served.2 step.2 := by
  cases hfollows with
  | unchanged answer => exact ⟨rfl, hfile⟩
  | changed hchanges answer entries hfound =>
      obtain ⟨written, hreplaces⟩ := hcalls hchanges
      rw [hreplaces.write_eq]
      exact ⟨rfl, hreplaces.holds hstep⟩

/-- Where no registration is found nothing has been written. -/
theorem Follows.eq_self (hfollows : Follows file files register changes step served)
    (hanswer : served.1 = .ok (.found false) ∨ ∃ cause, served.1 = .error cause)
    (hcalls : changes → ∃ written, file.Replaces step.2 files written) : served.2 = files := by
  cases hfollows with
  | unchanged answer => rfl
  | changed hchanges answer entries hfound =>
      obtain ⟨written, hreplaces⟩ := hcalls hchanges
      rw [hreplaces.write_eq] at hanswer
      rcases hanswer with hanswer | ⟨cause, hanswer⟩
      · exact absurd (Except.ok.inj hanswer) hfound
      · cases hanswer

end

/-- A register that cannot be read answers with the cause, and nothing is written. -/
theorem serve_of_unreadable {cause : Failure} (hread : file.read files = .error cause)
    (request : Request) : file.serve files request = (.error cause, files) := by
  cases request <;> simp [serve, get, upsert, setEnabled, record, amend, hread, Except.map]

/-- Whatever the files are, a request that finds no registration or fails leaves them as they
are. -/
theorem serve_eq_self {request : Request} (hcalls : file.CallsSucceed files request)
    (hanswer : (file.serve files request).1 = .ok (.found false) ∨
      ∃ cause, (file.serve files request).1 = .error cause) :
    (file.serve files request).2 = files := by
  cases hread : file.read files with
  | error cause => rw [serve_of_unreadable hread]
  | ok register =>
      exact (serve_follows hread request).eq_self hanswer (hcalls register (read_eq_ok.mp hread))

/-! ## One request after another -/

theorem serveAll_eq_allOnList (hfile : file.Holds files register) {requests : List Request}
    (hrequests : ∀ request ∈ requests, request.Fits)
    (hcalls : ∀ before request after, requests = before ++ request :: after →
      file.CallsSucceed (file.serveAll before files).2 request) :
    (file.serveAll requests files).1 = (Request.allOnList requests register).1.map .ok ∧
      file.Holds (file.serveAll requests files).2 (Request.allOnList requests register).2 := by
  induction requests generalizing files register with
  | nil => exact ⟨rfl, hfile⟩
  | cons request rest ih =>
      have hfirst := hcalls [] request rest rfl
      obtain ⟨hanswer, hholds⟩ := (serve_follows (read_eq_ok.mpr hfile) request).eq_and_holds hfile
        (fits_onList hfile.fits (hrequests request List.mem_cons_self)) (hfirst register hfile)
      obtain ⟨hanswers, hlast⟩ := ih hholds
        (fun other hother => hrequests other (List.mem_cons_of_mem _ hother))
        fun before other after hsplit =>
          hcalls (request :: before) other after (by rw [hsplit, List.cons_append])
      refine ⟨?_, hlast⟩
      simp only [serveAll, Request.allOnList, List.map_cons, hanswer, hanswers]

/-! ## When the system does its part -/

/-- A file that can be written, and its draft beside it: directories lead there or can be made, the
names are short enough, and no directory bears them. -/
structure IsWritable (file : RegisterFile) (files : Files) (parent : FilePath) (name : String) :
    Prop where
  path : FilePath.ofText file.path = parent ++ [name]
  passable : files.IsPassable parent
  names : ∀ own ∈ [name, draftName name], own.utf8ByteSize ≤ Files.maxNameBytes
  clear : ∀ own ∈ [name, draftName name], files.node? (parent ++ [own]) ≠ some .directory

variable {parent : FilePath} {name : String}

/-- A file that can be written is written, and can be written again. -/
theorem IsWritable.exists_replaces (hfile : file.IsWritable files parent name)
    (register : Register) :
    ∃ written, file.Replaces register files written ∧ file.IsWritable written parent name := by
  obtain ⟨drafted, renamed, hplace, hrename, hpassable, hclear⟩ :=
    hfile.passable.exists_replace (draftName_ne name) hfile.names hfile.clear
      register.document.toUTF8
  rw [← draftPath_eq hfile.path] at hplace hrename
  rw [← hfile.path] at hrename
  exact ⟨renamed, ⟨drafted, hplace, hrename⟩, hfile.path, hpassable, hfile.names, hclear⟩

theorem IsWritable.callsSucceed (hfile : file.IsWritable files parent name) (request : Request) :
    file.CallsSucceed files request := by
  intro entries _ _
  obtain ⟨written, hreplaces, -⟩ := hfile.exists_replaces (request.onList entries).2
  exact ⟨written, hreplaces⟩

theorem IsWritable.follows {changes : Prop} {step : Answer × List Registration}
    {served : Outcome Answer × Files} (hfile : file.IsWritable files parent name)
    (hfollows : Follows file files register changes step served) :
    file.IsWritable served.2 parent name := by
  cases hfollows with
  | unchanged answer => exact hfile
  | changed hchanges answer entries hfound =>
      obtain ⟨written, hreplaces, hagain⟩ := hfile.exists_replaces entries
      rw [hreplaces.write_eq]
      exact hagain

/-- A file that can be written can be written after every request. -/
theorem IsWritable.serve (hfile : file.IsWritable files parent name) (request : Request) :
    file.IsWritable (file.serve files request).2 parent name := by
  cases hread : file.read files with
  | error cause =>
      rw [serve_of_unreadable hread]
      exact hfile
  | ok register => exact hfile.follows (serve_follows hread request)

theorem IsWritable.serveAll (hfile : file.IsWritable files parent name) (requests : List Request) :
    file.IsWritable (file.serveAll requests files).2 parent name := by
  induction requests generalizing files with
  | nil => exact hfile
  | cons request rest ih => exact ih (hfile.serve request)

/-! ## The whole -/

/-- A register in a file refines a list. Begun with a file that is missing or can be read, and with
the system carrying out the calls that are made, every request is answered as by the list, in which
an entry takes the place of the first one of its id and a change is a change to that one; and after
every request the file holds just this list. Whatever the files are, a request that finds no
registration or fails leaves them as they are, and one that meets a document that cannot be read
fails for that reason. -/
theorem refinesList (hfile : file.Holds files register) {requests : List Request}
    (hrequests : ∀ request ∈ requests, request.Fits)
    (hcalls : ∀ before request after, requests = before ++ request :: after →
      file.CallsSucceed (file.serveAll before files).2 request) :
    (file.serveAll requests files).1 = (Request.allOnList requests register).1.map .ok ∧
    (∀ served, served <+: requests →
      file.Holds (file.serveAll served files).2 (Request.allOnList served register).2) ∧
    (∀ files request, file.CallsSucceed files request →
      (file.serve files request).1 = .ok (.found false) ∨
        (∃ cause, (file.serve files request).1 = .error cause) →
      (file.serve files request).2 = files) ∧
    ∀ files bytes cause, files.read (FilePath.ofText file.path) = .ok bytes →
      Register.ofBytes bytes = .error cause →
      ∀ request, (file.serve files request).1 = .error cause := by
  refine ⟨(serveAll_eq_allOnList hfile hrequests hcalls).1, fun served hserved => ?_,
    fun files request hcall hanswer => serve_eq_self hcall hanswer,
    fun files bytes cause hbytes hcause request => ?_⟩
  · obtain ⟨rest, rfl⟩ := hserved
    refine (serveAll_eq_allOnList hfile
      (fun request hrequest => hrequests request (List.mem_append_left _ hrequest)) ?_).2
    intro before request after hsplit
    exact hcalls before request (after ++ rest) (by simp [hsplit])
  · have hread : file.read files = .error cause := by simp only [read, hbytes, hcause]
    rw [serve_of_unreadable hread]

end RegisterFile

namespace Rehearsal

/-- A site with a plan, an instant in a leap second and texts of all kinds. -/
def shop : Registration where
  site := {
    id := "shop"
    domain := "example.com"
    instructions := [
      { step := 1, description := "open", action := .navigate none, timeoutMs := some 5000 },
      { step := 2, description := "say \"hello\"\n", action := .enter "#q" "Ω",
        waitFor := some .networkIdle, optional := true },
      { step := 3, description := "", action := .wait (some ".ready") none }]
    updatedAt := some ⟨1483228799, 1500000000⟩ }
  priority := -3

/-- A registration is made, a round is put down, and a site that nobody registered is switched off. -/
def someRequests : List RegisterFile.Request :=
  [.upsert shop, .record "shop" { totalRuns := 1, lastCheckedAt := some ⟨0, 250000000⟩ },
    .setEnabled "gone" false, .list]

theorem fits_someRequests : ∀ request ∈ someRequests, request.Fits := by
  have hshop : shop.Fits := by
    refine ⟨⟨?_, ⟨⟨by decide, by decide⟩, by decide, by decide, by decide, by decide⟩, ?_⟩,
      by decide, by decide, ⟨?_, ?_, ?_, by decide, by decide⟩⟩
    · simp only [shop, List.forall_mem_cons, List.not_mem_nil, false_implies, implies_true, and_true]
      exact ⟨⟨by decide, by simp⟩, ⟨by decide, by simp⟩, by decide, by simp⟩
    · rintro t ⟨⟩
      exact ⟨by decide, by decide, by decide⟩
    all_goals rintro t ⟨⟩
  have hround : Bookkeeping.Fits { totalRuns := 1, lastCheckedAt := some ⟨0, 250000000⟩ } := by
    refine ⟨?_, ?_, ?_, by decide, by decide⟩
    · rintro t ⟨⟩
      exact ⟨by decide, by decide, by decide⟩
    all_goals rintro t ⟨⟩
  simp only [someRequests, List.forall_mem_cons, List.not_mem_nil, false_implies, implies_true,
    and_true]
  exact ⟨hshop, hround, trivial, trivial⟩

theorem ofText_jobs : FilePath.ofText "jobs" = ["jobs"] := by
  decide +kernel

/-- Where there are no files yet, one can be written. -/
theorem isWritable_jobs : (RegisterFile.mk "jobs").IsWritable {} [] "jobs" where
  path := ofText_jobs
  passable := ⟨by simp [Files.node?], by simp⟩
  names := by decide +kernel
  clear := by simp [Files.node?]

/-- Four requests to a file that is not there yet. -/
theorem refinesList_of_missing :
    (RegisterFile.mk "jobs").Holds {} [] ∧ (∀ request ∈ someRequests, request.Fits) ∧
    (∀ before request after, someRequests = before ++ request :: after →
      (RegisterFile.mk "jobs").CallsSucceed ((RegisterFile.mk "jobs").serveAll before {}).2
        request) ∧
    ((RegisterFile.mk "jobs").serveAll someRequests {}).1 = [.ok .done, .ok (.found true),
      .ok (.found false), .ok (.all [{ shop with
        history := { totalRuns := 1, lastCheckedAt := some ⟨0, 250000000⟩ } }])] := by
  have hfile : (RegisterFile.mk "jobs").Holds {} [] := by
    have hmissing : Files.read {} ["jobs"] = .error .notFound := by rfl
    simp only [RegisterFile.Holds, ofText_jobs, hmissing, and_self]
  have hcalls : ∀ before request after, someRequests = before ++ request :: after →
      (RegisterFile.mk "jobs").CallsSucceed ((RegisterFile.mk "jobs").serveAll before {}).2
        request :=
    fun before request _ _ => (isWritable_jobs.serveAll before).callsSucceed request
  refine ⟨hfile, fits_someRequests, hcalls, ?_⟩
  rw [(RegisterFile.refinesList hfile fits_someRequests hcalls).1]
  rfl

end Rehearsal

end SiteWatch
