/-
# A register under management

Operators run commands one after another, the schedule ticks, and other things happen to the machine
in between. As long as nobody but the program writes to the file of a register, that file is in order
from its first line on: its ids differ, its intervals are at least a day, and every page that an
operator named lies within its site. Whoever registers a site again changes what the command is about
and nothing else, and a command that fails changes nothing.
-/

import SiteWatch.Proofs.CommandLine.Registering

namespace SiteWatch

namespace Register

/-- What registering a site makes of a register. The registration that is known keeps its place, whom
to tell and its bookkeeping; a new one comes last. -/
def registered (register : Register) (site : Site) (targetUrls : List String)
    (checkIntervalDays : Nat) (priority : Int) : Register :=
  if register.has site.id then
    register.amend (fun r => { r with site, targetUrls, checkIntervalDays, priority }) site.id
  else register ++ [({ site, targetUrls, checkIntervalDays, priority } : Registration)]

/-- To amend what is found under a name is to put another one in its place. -/
theorem exists_amend_of_get? {register : Register} {id : String} {known : Registration}
    (hknown : register.get? id = some known) : ∃ before after : Register,
      (∀ r ∈ before, r.id ≠ id) ∧
        ∀ change, register.amend change id = before ++ change known :: after := by
  induction register with
  | nil => cases hknown
  | cons r rest ih =>
      rw [get?, List.find?_cons] at hknown
      by_cases hid : (r.id == id) = true
      · rw [hid] at hknown
        cases hknown
        refine ⟨[], rest, by simp, fun change => ?_⟩
        rw [amend, if_pos hid, List.nil_append]
      · have hother : r.id ≠ id := by simpa using hid
        rw [Bool.not_eq_true] at hid
        rw [hid] at hknown
        obtain ⟨before, after, hbefore, hamend⟩ := ih hknown
        refine ⟨r :: before, after, List.forall_mem_cons.mpr ⟨hother, hbefore⟩, fun change => ?_⟩
        rw [amend, hid, hamend]
        rfl

theorem amend_congr_of_get? {register : Register} {id : String} {known : Registration}
    (hknown : register.get? id = some known) {change other : Registration → Registration}
    (hsame : change known = other known) : register.amend change id = register.amend other id := by
  obtain ⟨before, after, -, hamend⟩ := exists_amend_of_get? hknown
  rw [hamend, hamend, hsame]

theorem get?_amend_of_get? {register : Register} {id : String} {known : Registration}
    (hknown : register.get? id = some known) {change : Registration → Registration}
    (hid : (change known).id = id) : (register.amend change id).get? id = some (change known) := by
  obtain ⟨before, after, hbefore, hamend⟩ := exists_amend_of_get? hknown
  have hnone : before.find? (·.id == id) = none :=
    List.find?_eq_none.mpr fun r hr => by simpa using hbefore r hr
  rw [hamend, get?, List.find?_append, hnone, Option.none_or, List.find?_cons, hid,
    beq_self_eq_true]

end Register

namespace CommandLine

variable {ν : Type}

namespace Invocation

theorem upsert_registrationFor (register : Register) (site : Site) (targetUrls : List String)
    (checkIntervalDays : Nat) (priority : Int) :
    register.upsert (registrationFor site (register.get? site.id) targetUrls checkIntervalDays
      priority) = register.registered site targetUrls checkIntervalDays priority := by
  have hid : ∀ known, (registrationFor site known targetUrls checkIntervalDays priority).id =
      site.id := by
    intro known
    rw [Registration.id, registrationFor_site]
  rw [Register.upsert, Register.registered, hid]
  split
  · rename_i hhas
    obtain ⟨r, hr, hrid⟩ := List.any_eq_true.mp hhas
    cases hknown : register.get? site.id with
    | none => exact absurd hrid (List.find?_eq_none.mp hknown r hr)
    | some known => exact Register.amend_congr_of_get? hknown rfl
  · rename_i hnew
    cases hknown : register.get? site.id with
    | none => rfl
    | some known =>
        refine absurd (List.any_eq_true.mpr ⟨known, List.mem_of_find?_eq_some hknown, ?_⟩) hnew
        exact List.find?_some (p := fun r : Registration => r.id == site.id) hknown

end Invocation

/-! ## One run -/

section

variable {network : Network ν} {env : Environment} {words : List String} {online : Online ν}
  {i : Invocation}

/-- A run whose command line is understood ends as its command does. -/
theorem exists_of_meets (hi : Invocation.ofWords (environmentOf env online.files) words = .ok i)
    {post : Except Completed Completed → Desk ν → Prop}
    (hmeets : Meets (i.perform network (environmentOf env online.files)) post { world := online }) :
    ∃ completed desk, (post (.ok completed) desk ∨ post (.error completed) desk) ∧
      runProgram network env words online =
        ({ exitCode := completed.ending.exitCode, output := completed.output
           report := completed.ending.report }, desk.world) := by
  rw [Meets] at hmeets
  cases hrun : (i.perform network (environmentOf env online.files)).run.run { world := online } with
  | mk outcome desk =>
      rw [hrun] at hmeets
      cases outcome with
      | ok completed =>
          exact ⟨completed, desk, .inl hmeets, by simp only [runProgram, hi, Invocation.run, hrun]⟩
      | error completed =>
          exact ⟨completed, desk, .inr hmeets, by simp only [runProgram, hi, Invocation.run, hrun]⟩

/-- Runs keep registers in order, whatever they are asked. -/
theorem isInOrder_runProgram (network : Network ν) (env : Environment) (words : List String)
    {online : Online ν} {parent : FilePath}
    (horder : IsInOrder (online.content? (parent ++ [StoreLayout.registerName]))) :
    IsInOrder ((runProgram network env words online).2.content?
      (parent ++ [StoreLayout.registerName])) := by
  cases hi : Invocation.ofWords (environmentOf env online.files) words with
  | error stop =>
      simp only [runProgram, hi]
      exact horder
  | ok i =>
      obtain ⟨completed, desk, hended, hrun⟩ := exists_of_meets hi
        (Invocation.isInOrder_perform network _ (Invocation.fits_of_ofWords hi) horder)
      rw [hrun]
      exact hended.elim id id

/-- A command on the register that fails leaves its file as it is. -/
theorem content?_of_failed (hi : Invocation.ofWords (environmentOf env online.files) words = .ok i)
    (hmanages : i.command.Manages)
    (hfailed : (runProgram network env words online).1.exitCode ≠ 0) :
    (runProgram network env words online).2.content? i.registerPath =
      online.content? i.registerPath := by
  obtain ⟨completed, desk, hended, hrun⟩ :=
    exists_of_meets hi (Invocation.meets_perform_failed network _ hmanages _)
  rw [hrun] at hfailed ⊢
  rcases hended with hok | herror
  · apply hok
    rintro _ ⟨⟩ hfine
    rw [hfine] at hfailed
    exact hfailed rfl
  · exact herror fun _ hok => nomatch hok

/-- A run that registers a site. -/
theorem exists_registers (hi : Invocation.ofWords (environmentOf env online.files) words = .ok i)
    {document : String} {targetUrls : List String} {checkIntervalDays : Nat} {priority : Int}
    (hcommand : i.command = .register document targetUrls checkIntervalDays priority)
    (hcode : (runProgram network env words online).1.exitCode = 0) :
    ∃ site register, i.Registers document targetUrls checkIntervalDays priority online.files
      (runProgram network env words online).2.files site register := by
  obtain ⟨completed, desk, hended, hrun⟩ :=
    exists_of_meets hi (Invocation.meets_perform_register network _ hcommand)
  rw [hrun] at hcode ⊢
  rcases hended with hok | herror
  · exact hok.2
  · obtain ⟨⟨causes, hfailed⟩, -⟩ := herror
    rw [hfailed] at hcode
    cases hcode

end

/-- What is written when a site is registered is read back as it is. -/
theorem Invocation.Registers.read_after {i : Invocation} {document : String}
    {targetUrls : List String} {checkIntervalDays : Nat} {priority : Int} {files after : Files}
    {site : Site} {register : Register}
    (hregisters : i.Registers document targetUrls checkIntervalDays priority files after site
      register)
    (hfits : (Command.register document targetUrls checkIntervalDays priority).Fits) :
    i.register.read after =
      .ok (register.registered site targetUrls checkIntervalDays priority) := by
  have hregister := (RegisterFile.read_eq_ok.mp hregisters.read).fits
  have hwrite := hregisters.write
  have hfit := hregister.upsert (hregisters.fits_registrationFor hfits)
  rw [upsert_registrationFor] at hwrite hfit
  exact RegisterFile.read_eq_ok.mpr ((RegisterFile.replaces_of_write hwrite).holds hfit)

/-- A run that registers a site leaves a register with its registration. -/
theorem read_runProgram_of_register {network : Network ν} {env : Environment} {words : List String}
    {online : Online ν} {i : Invocation} {document : String} {targetUrls : List String}
    {checkIntervalDays : Nat} {priority : Int} {site : Site} {register : Register}
    (hi : Invocation.ofWords (environmentOf env online.files) words = .ok i)
    (hcommand : i.command = .register document targetUrls checkIntervalDays priority)
    (hcode : (runProgram network env words online).1.exitCode = 0)
    (hload : Site.load document online.files = .ok site)
    (hread : i.register.read online.files = .ok register) :
    i.register.read (runProgram network env words online).2.files =
      .ok (register.registered site targetUrls checkIntervalDays priority) := by
  obtain ⟨site', register', hregisters⟩ := exists_registers hi hcommand hcode
  obtain rfl := Except.ok.inj (hload.symm.trans hregisters.load)
  obtain rfl := Except.ok.inj (hread.symm.trans hregisters.read)
  have hfits := Invocation.fits_of_ofWords hi
  rw [hcommand] at hfits
  exact hregisters.read_after hfits

/-! ## Runs, and what happens in between -/

/-- A machine on which nobody but the program writes to the file of a register. -/
inductive IsManaged (layout : StoreLayout) : Online ν → Prop where
  /-- There is no such file yet. -/
  | fresh {online : Online ν} (hnone : online.content? layout.registerPath = none) :
      IsManaged layout online
  /-- The program ran, in whatever environment and with whatever words. -/
  | ran {online : Online ν} (hmanaged : IsManaged layout online) (network : Network ν)
      (env : Environment) (words : List String) :
      IsManaged layout (runProgram network env words online).2
  /-- Something else happened, to anything but that file. -/
  | elsewhere {online later : Online ν} (hmanaged : IsManaged layout online)
      (hsame : later.content? layout.registerPath = online.content? layout.registerPath) :
      IsManaged layout later

theorem IsManaged.isInOrder {layout : StoreLayout} {online : Online ν}
    (hmanaged : IsManaged layout online) : IsInOrder (online.content? layout.registerPath) := by
  induction hmanaged with
  | fresh hnone => simp [IsInOrder, hnone]
  | ran _ network env words ih => exact isInOrder_runProgram network env words ih
  | elsewhere _ hsame ih => rwa [hsame]

/-- What operators rely on: the register is in order, as it is written and as it is read; who
registers a site changes what the command is about and nothing else; and a command on the register
that fails leaves its file as it is, byte for byte. -/
structure IsKept (layout : StoreLayout) (online : Online ν) : Prop where
  written : IsInOrder (online.content? layout.registerPath)
  read : ∀ register, (RegisterFile.mk layout.registrationsFile).read online.files = .ok register →
    register.IsProper
  registered : ∀ network env words i,
    Invocation.ofWords (environmentOf env online.files) words = .ok i →
    i.register = ⟨layout.registrationsFile⟩ →
    ∀ document targetUrls checkIntervalDays priority,
      i.command = .register document targetUrls checkIntervalDays priority →
      (runProgram network env words online).1.exitCode = 0 →
      ∃ site register, Site.load document online.files = .ok site ∧
        i.register.read online.files = .ok register ∧
        i.register.read (runProgram network env words online).2.files =
          .ok (register.registered site targetUrls checkIntervalDays priority)
  failed : ∀ network env words,
    (∀ i, Invocation.ofWords (environmentOf env online.files) words = .ok i →
      i.register = ⟨layout.registrationsFile⟩ ∧ i.command.Manages) →
    (runProgram network env words online).1.exitCode ≠ 0 →
    (runProgram network env words online).2.content? layout.registerPath =
      online.content? layout.registerPath

/-- Whatever was run and whatever happened in between, a register under management is kept. -/
theorem IsManaged.keeps_register {layout : StoreLayout} {online : Online ν}
    (hmanaged : IsManaged layout online) : IsKept layout online where
  written := hmanaged.isInOrder
  read register hread := by
    refine (RegisterFile.isProper_of_read ?_ hread).1
    rw [layout.ofText_registrationsFile]
    exact hmanaged.isInOrder
  registered network env words i hi _ document targetUrls checkIntervalDays priority hcommand
      hcode := by
    obtain ⟨site, register, hregisters⟩ := exists_registers hi hcommand hcode
    exact ⟨site, register, hregisters.load, hregisters.read,
      read_runProgram_of_register hi hcommand hcode hregisters.load hregisters.read⟩
  failed network env words hwords hfailed := by
    cases hi : Invocation.ofWords (environmentOf env online.files) words with
    | error stop => simp only [runProgram, hi]
    | ok i =>
        obtain ⟨hregister, hmanages⟩ := hwords i hi
        have hpath : FilePath.ofText i.register.path = i.registerPath := i.ofText_register_path
        rw [hregister, layout.ofText_registrationsFile] at hpath
        rw [hpath]
        exact content?_of_failed hi hmanages hfailed

namespace Rehearsal

/-- The document of a site whose pages are those of its events. -/
def eventsDocument : String :=
  "\x7b\"id\":\"events\",\"domain\":\"example.com\",\"urlPatterns\":[\"/events\"]\x7d"

/-- The site that the document describes. -/
def events : Site := { id := "events", domain := "example.com", urlPatterns := ["/events"] }

/-- A machine with that document, on which nothing has been run. -/
def ready : Online Unit where
  network := ()
  files := { entries := [(["events.json"], .file eventsDocument.toUTF8)] }

theorem load_events : Site.load "events.json" ready.files = .ok events := by
  decide +kernel

theorem content?_ready : ready.content? (StoreLayout.registerPath {}) = none := by
  refine Option.isNone_iff_eq_none.mp ?_
  decide +kernel

theorem read_ready : (RegisterFile.mk (StoreLayout.registrationsFile {})).read ready.files = .ok [] := by
  decide +kernel

/-- What is asked for when the site is registered with some pages. -/
def addition (targetUrls : List String) : Invocation where
  layout := {}
  engine := .http
  command := .register "events.json" targetUrls 1 0

/-- The words that ask to register the site with one of its pages. -/
def addPage : List String :=
  ["registrations", "add", "events.json", "--url", "https://example.com/events"]

/-- The machine after these words. -/
def withPage : Online Unit := (runProgram Network.unreachable [] addPage ready).2

theorem ofWords_addPage : Invocation.ofWords (environmentOf [] ready.files) addPage =
    .ok (addition ["https://example.com/events"]) := by
  decide

theorem exitCode_addPage : (runProgram Network.unreachable [] addPage ready).1.exitCode = 0 := by
  decide +kernel

/-- A site is registered where there was no register. -/
theorem isKept_withPage :
    IsManaged {} withPage ∧ (RegisterFile.mk (StoreLayout.registrationsFile {})).read withPage.files =
      .ok [{ site := events, targetUrls := ["https://example.com/events"] }] ∧
    IsKept {} withPage := by
  have hmanaged : IsManaged {} withPage := .ran (.fresh content?_ready) _ _ _
  refine ⟨hmanaged, ?_, hmanaged.keeps_register⟩
  exact read_runProgram_of_register ofWords_addPage rfl exitCode_addPage load_events read_ready

end Rehearsal

end CommandLine

end SiteWatch
