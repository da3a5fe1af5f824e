/-
# Carrying out commands

What the commands do to the files of the machine, and what they print. A command that fails tells why:
what it was about, and then the causes, one below the other.
-/

import SiteWatch.CommandLine.Command
import SiteWatch.Environment.File
import SiteWatch.Schedule.Timeline
import SiteWatch.Scrape.Live
import SiteWatch.Store.RegisterFile
import SiteWatch.Store.ResultFolder
import SiteWatch.Web.Delivery

namespace SiteWatch.CommandLine

/-- How a command ends. -/
inductive Ending where
  | fine
  /-- It could not do what it was asked for, and says why. -/
  | failed (causes : List String)
  /-- It broke off. -/
  | broken
deriving DecidableEq, Repr, Inhabited

/-- A command that was carried out. -/
structure Completed where
  output : String := ""
  ending : Ending := .fine
deriving DecidableEq, Repr, Inhabited

namespace Ending

/-- The code with which the program ends. -/
def exitCode : Ending → Nat
  | fine => 0
  | failed _ => 1
  | broken => 101

/-- A cause, with every line set in. -/
def cause (head indent text : String) : String := head ++ text.replace "\n" ("\n" ++ indent)

/-- The causes of a failure; several are numbered. -/
def causes : List String → String
  | [] => ""
  | [text] => "\n\nCaused by:\n" ++ cause "    " "    " text
  | texts => "\n\nCaused by:" ++ String.join (texts.zipIdx.map fun (text, n) =>
      let number := toString n
      cause ("\n" ++ String.ofList (List.replicate (5 - number.length) ' ') ++ number ++ ": ")
        "       " text)

/-- What a failure prints. -/
def report : Ending → String
  | failed (first :: rest) => s!"Error: {first}{causes rest}\n"
  | _ => ""

end Ending

/-- A failure and what lies behind it. -/
def causesOf (failure : Failure) : List String :=
  match failure with
  | .malformed reason => [failure.message, reason]
  | _ => [failure.message]

namespace Completed

/-- Lines of output. -/
def ofLines (lines : List String) : Completed := { output := String.join (lines.map (· ++ "\n")) }

/-- The end of a command that a failure keeps from its work. -/
def ofFailure (failure : Failure) : Completed := { ending := .failed (causesOf failure) }

/-- The end of a command that a failure keeps from its work, with what it was about. -/
def ofContext (context : String) (failure : Failure) : Completed :=
  { ending := .failed (context :: causesOf failure) }

end Completed

/-- The state of the program. -/
abbrev Desk (ν : Type) := Scraping (Online ν)

/-- Work that a failure may cut short, leaving the desk as it is then. -/
abbrev Task (ν α : Type) := ExceptT Completed (StateM (Desk ν)) α

namespace Invocation

variable {ν : Type}

/-- The files as they are. -/
def files : Task ν Files := return (← get).world.files

/-- Change the files. -/
def onFiles {α : Type} (change : Files → Outcome α × Files) : Task ν (Outcome α) := do
  let desk ← get
  let (outcome, files) := change desk.world.files
  set { desk with world := { desk.world with files } }
  return outcome

/-- The answer of work, or the end of the command. -/
def orEnd {α : Type} (ending : Failure → Completed) : Outcome α → Task ν α
  | .ok value => return value
  | .error cause => throw (ending cause)

/-- The register of the program. -/
def register (i : Invocation) : RegisterFile := ⟨i.layout.registrationsFile⟩

/-- The stored results of the program. -/
def results (i : Invocation) : ResultFolder := ⟨i.layout.resultsDir⟩

/-- Make sure that the register can be read. -/
def openStore (i : Invocation) : Task ν Unit := do
  let _ ← orEnd (Completed.ofContext s!"Failed to open store at {i.layout.dataDir}")
    (i.register.read (← files))

/-- Make sure that pages can be opened. -/
def openEngine (i : Invocation) : Task ν Unit :=
  orEnd (Completed.ofContext "Failed to set up page engine") i.engine.requireBuiltIn

/-- The service for scrapes. -/
def service (i : Invocation) (network : Network ν) : ScrapeService (Online ν) StaticFrame :=
  Online.service network i.layout.screenshotsDir

/-- The site documents of the program, of which no snapshot is taken yet. -/
def siteFolder (i : Invocation) : SiteFolder := { directory := i.layout.sitesDir }

/-- Scrape one page. -/
def scrape (i : Invocation) (network : Network ν) (request : ScrapeRequest) : Task ν Completed := do
  i.openEngine
  match ((i.service network).scrape request).run none 0 (← get) with
  | none => return { ending := .broken }
  | some (result, _, desk) =>
    set desk
    let ending : Ending :=
      if result.success then .fine
      else
        let kind := result.errorKind.getD "unknown"
        let errors := "; ".intercalate result.errors
        .failed [s!"scrape failed ({kind}): {errors}"]
    return { output := result.toJson.pretty ++ "\n", ending }

/-- How a switch is told. -/
def stateWord (enabled : Bool) : String := if enabled then "enabled" else "disabled"

/-- A site in a list. -/
def siteLine (site : Site) : String :=
  s!"  {site.id} ({site.domain}) [{stateWord site.enabled}] v{site.version}: {site.instructions.length} instructions, {site.extractors.length} extractors"

/-- List the sites. -/
def listSites (i : Invocation) : Task ν Completed := do
  let sites ← orEnd Completed.ofFailure (i.siteFolder.load (← files))
  if sites.isEmpty then return .ofLines [s!"No site configurations in {i.layout.sitesDir}"]
  return .ofLines (sites.map siteLine ++ ["", s!"Total: {sites.length} sites"])

/-- What became of a document, in a list. -/
def checkLine (check : DocumentCheck) : String :=
  match check.outcome with
  | .ok site => s!"  [ok]      {check.path} ({site.id})"
  | .error cause => s!"  [invalid] {check.path}: {cause.message}"

/-- Check all site documents. -/
def checkSites (i : Invocation) : Task ν Completed := do
  let checks ← orEnd Completed.ofFailure (i.siteFolder.check (← files))
  let invalid := (checks.filter (·.outcome.toOption.isNone)).length
  let report := Completed.ofLines
    (checks.map checkLine ++ ["", s!"{checks.length} files, {invalid} invalid"])
  if invalid = 0 then return report
  return { report with ending := .failed [s!"{invalid} invalid site configuration(s)"] }

/-- Check an address that a site is to be scraped at. -/
def checkTarget (site : Site) (address : String) : Task ν Unit :=
  match Url.parse address with
  | .error fault =>
    throw { ending := .failed [s!"Invalid target URL: {address}", fault.message] }
  | .ok url =>
    if site.covers url then return ()
    else
      let problem := s!"{address} is not covered by site '{site.id}' ({site.domain})"
      throw { ending := .failed [problem] }

/-- The registration of a site: the one that is there, with its bookkeeping, or a new one. -/
def registrationOf (site : Site) (known : Option Registration) : Registration :=
  match known with
  | some registration => { registration with site }
  | none => { site }

/-- Register a site. -/
def addRegistration (i : Invocation) (document : String) (targetUrls : List String)
    (checkIntervalDays : Nat) (priority : Int) : Task ν Completed := do
  let site ← orEnd (Completed.ofContext s!"Invalid site configuration: {document}")
    (Site.load document (← files))
  targetUrls.forM (checkTarget site)
  let known ← orEnd Completed.ofFailure (i.register.get site.id (← files))
  let registration := { registrationOf site known with targetUrls, checkIntervalDays, priority }
  orEnd Completed.ofFailure (← onFiles (i.register.upsert registration))
  return .ofLines [s!"Registered {registration.id}"]

/-- A registration in a list. -/
def registrationLine (r : Registration) : String :=
  let next := (r.history.nextCheckAt.map (·.minuteText)).getD "due"
  s!"  {r.id} [{stateWord r.site.enabled}] every {r.checkIntervalDays}d, priority {r.priority}, next: {next}, runs: {r.history.totalRuns}, failures: {r.history.consecutiveFailures}"

/-- List the registrations. -/
def listRegistrations (i : Invocation) : Task ν Completed := do
  let register ← orEnd Completed.ofFailure (i.register.read (← files))
  if register.isEmpty then return .ofLines ["No registered sites"]
  return .ofLines (register.map registrationLine ++ ["", s!"Total: {register.length} registrations"])

/-- Switch a registered site on or off. -/
def switch (i : Invocation) (siteId : String) (enabled : Bool) : Task ν Completed := do
  let found ← orEnd Completed.ofFailure (← onFiles (i.register.setEnabled siteId enabled))
  unless found do throw { ending := .failed [s!"No registration with id '{siteId}'"] }
  return .ofLines [s!"{siteId} {stateWord enabled}"]

/-- Work on the surroundings of the desk. -/
def onOnline {α : Type} (work : Online ν → α × Online ν) (desk : Desk ν) : α × Desk ν :=
  let (value, world) := work desk.world
  (value, { desk with world })

/-- Work on the files of the desk. -/
def onDeskFiles {α : Type} (work : Files → α × Files) : Desk ν → α × Desk ν :=
  onOnline fun online =>
    let (value, files) := work online.files
    (value, { online with files })

/-- Deliver a notice, beside the clock of the schedule. -/
def deliver (network : Network ν) (channel : Channel) (notice : Notice) (online : Online ν) :
    Outcome Unit × Online ν :=
  match (channel.deliver network notice).run.run none 0 online with
  | some (outcome, _, online) => (outcome, online)
  | none => (.error (.cancelled "delivery"), online)

/-- What the scheduler works with. -/
def schedule (i : Invocation) (network : Network ν) (channel : Channel)
    (settings : ScheduleSettings) : ScheduleServices (Desk ν) where
  settings
  now desk := desk.world.now
  register desk := i.register.read desk.world.files
  record id history := onDeskFiles (i.register.record id history)
  scrape := (i.service network).scrape
  save id result desk :=
    onDeskFiles (fun files =>
      let (outcome, files) := i.results.save id result desk.world.now files
      (outcome.map (·.name), files)) desk
  notify notice := onOnline (deliver network channel notice)

/-- Set the scheduler up, with a channel to the address that the environment names. -/
def openSchedule (i : Invocation) (network : Network ν) (env : Environment)
    (settings : ScheduleSettings) : Task ν (ScheduleServices (Desk ν)) := do
  i.openStore
  i.openEngine
  let endpoint := (env.lookup "ARGOS_NOTIFY_WEBHOOK").filter (! ·.isEmpty)
  let channel ← orEnd (Completed.ofContext "Invalid ARGOS_NOTIFY_WEBHOOK") (Channel.ofEndpoint endpoint)
  return i.schedule network channel settings

/-- The longest wait that the clock can measure, in seconds. -/
def maxWaitSecs : Nat := 9223372036854775807

/-- Launch what is due once, wait for it, and show the jobs. -/
def tick (i : Invocation) (network : Network ν) (env : Environment)
    (settings : ScheduleSettings) (waitSecs : Nat) : Task ν Completed := do
  let services ← i.openSchedule network env settings
  let (outcome, t) := Timeline.tick services { scheduler := { around := { world := ← get } } }
  let _ ← orEnd Completed.ofFailure outcome
  if waitSecs ≥ maxWaitSecs then return { ending := .broken }
  let (idle, t) := t.waitIdle services (waitSecs * 1000)
  let t := if idle then t else (t.stop services).2
  set t.scheduler.around.world
  let jobs := (t.scheduler.status services).recentJobs
  return { output := (Json.array (jobs.map Job.toJson)).pretty ++ "\n" }

/-- Run the periodic loop for a time, in milliseconds, and stop it. -/
def runSchedule (i : Invocation) (network : Network ν) (env : Environment)
    (settings : ScheduleSettings) (forMs : Nat) : Task ν Completed := do
  let services ← i.openSchedule network env settings
  let (_, t) := Timeline.start services { scheduler := { around := { world := ← get } } }
  let (report, t) := (t.sleep services forMs).stop services
  set t.scheduler.around.world
  return .ofLines
    [s!"Scheduler stopped: {report.drained} jobs drained, {report.abandoned} abandoned"]

/-- Prune the results. -/
def pruneResults (i : Invocation) (keepDays : Nat) : Task ν Completed := do
  let desk ← get
  match i.results.pruneOlderThan? keepDays desk.world.now.date desk.world.files with
  | none => return { ending := .broken }
  | some answer =>
    let removed ← orEnd Completed.ofFailure (← onFiles fun _ => answer)
    return .ofLines [s!"Removed {removed} day directories older than {keepDays} days"]

/-- List the results of a day. -/
def listResults (i : Invocation) (day : Option Date) : Task ν Completed := do
  let today := (← get).world.now.date
  let paths ← orEnd Completed.ofFailure (i.results.listDay (day.getD today) (← files))
  return .ofLines (paths ++ ["", s!"Total: {paths.length} results"])

/-- Carry a command out. -/
def perform (i : Invocation) (network : Network ν) (env : Environment) : Task ν Completed := do
  modify fun desk => { desk with world := { desk.world with sites := i.siteFolder } }
  match i.command with
  | .scrape url screenshot frames timeoutMs =>
    let request := ({ url : ScrapeRequest }).withoutCache
    let options := { request.options with screenshot, includeFrames := frames, timeoutMs }
    i.scrape network { request with options }
  | .listSites => i.listSites
  | .checkSites => i.checkSites
  | .register document urls intervalDays priority => do
    i.openStore
    i.addRegistration document urls intervalDays priority
  | .listRegistrations => do
    i.openStore
    i.listRegistrations
  | .switch siteId enabled => do
    i.openStore
    i.switch siteId enabled
  | .runSchedule intervalSecs maxConcurrentJobs =>
    i.runSchedule network env { intervalMs := intervalSecs * 1000, maxConcurrentJobs }
      (intervalSecs * 1000)
  | .tick maxConcurrentJobs waitSecs => i.tick network env { maxConcurrentJobs } waitSecs
  | .pruneResults keepDays => do
    i.openStore
    i.pruneResults keepDays
  | .listResults day => do
    i.openStore
    i.listResults day

/-- Carry a command out on a desk. -/
def run (i : Invocation) (network : Network ν) (env : Environment) (desk : Desk ν) :
    Completed × Desk ν :=
  match (i.perform network env).run.run desk with
  | (.ok completed, desk) => (completed, desk)
  | (.error completed, desk) => (completed, desk)

end Invocation

/-- How the program is used. -/
def usage : String :=
  "Robots-aware scraping engine\n\nUsage: argos [OPTIONS] <COMMAND>\n\nCommands: scrape, sites, registrations, schedule, results\n"

/-- What a command line does that is not carried out, and the code with which the program ends. -/
def Stop.answer : Stop → String × Nat
  | .misuse => ("", 2)
  | .help => (usage, 0)
  | .version => ("argos 0.1.0\n", 0)

/-- One run of the program. -/
structure ProgramRun where
  exitCode : Nat := 0
  output : String := ""
  /-- What is told about a failure. -/
  report : String := ""
deriving DecidableEq, Repr, Inhabited

/-- The variables of a run: those that are set, and those of the file of variables in the current
directory. -/
def environmentOf (env : Environment) (files : Files) : Environment :=
  match files.readText [".env"] with
  | .ok text => Environment.addFile env text
  | .error _ => env

/-- Run the program with the words of a command line. -/
def runProgram {ν : Type} (network : Network ν) (env : Environment) (words : List String)
    (online : Online ν) : ProgramRun × Online ν :=
  let env := environmentOf env online.files
  match Invocation.ofWords env words with
  | .error stop =>
    let (output, exitCode) := stop.answer
    ({ exitCode, output }, online)
  | .ok invocation =>
    let (completed, desk) := invocation.run network env { world := online }
    ({ exitCode := completed.ending.exitCode, output := completed.output
       report := completed.ending.report }, desk.world)

end SiteWatch.CommandLine
