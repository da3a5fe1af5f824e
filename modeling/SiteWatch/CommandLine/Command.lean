/-
# Commands

What can be asked of the program on a command line, and how it is written there.
-/

import SiteWatch.CommandLine.Grammar
import SiteWatch.Store.Layout
import SiteWatch.Time.Reading
import SiteWatch.Web.EngineKind

namespace SiteWatch.CommandLine

/-- What can be asked of the program. -/
inductive Command where
  | scrape (url : String) (screenshot frames : Bool) (timeoutMs : Option Nat)
  | listSites
  | checkSites
  /-- Register the site that a document describes, or change its registration. -/
  | register (document : String) (urls : List String) (intervalDays : Nat) (priority : Int)
  | listRegistrations
  /-- Switch a registered site on or off. -/
  | switch (siteId : String) (enabled : Bool)
  /-- Run the periodic loop until it is interrupted. -/
  | runSchedule (intervalSecs maxConcurrentJobs : Nat)
  /-- Launch what is due once, and wait for it. -/
  | tick (maxConcurrentJobs waitSecs : Nat)
  | pruneResults (keepDays : Nat)
  /-- List the results of a day; of this one, if none is named. -/
  | listResults (day : Option Date)
deriving DecidableEq, Repr

/-- A command with what holds for all of them. -/
structure Invocation where
  layout : StoreLayout
  engine : EngineKind
  command : Command
deriving DecidableEq, Repr

/-- A number of at most `limit`, with or without a plus sign. -/
def natural? (limit : Nat) (text : String) : Option Nat :=
  (Environment.readNumber limit text.toList).toOption

/-- A number between bounds, with or without a sign. -/
def integer? (low high : Int) (text : String) : Option Int := do
  let n ← match text.toList with
    | '-' :: digits => (Environment.readDigits Environment.max64 0 digits).toOption.bind fun n =>
        if digits.isEmpty then none else some (-(n : Int))
    | chars => (Environment.readNumber Environment.max64 chars).toOption.map Int.ofNat
  if low ≤ n ∧ n ≤ high then some n else none

/-- A count of 32 bits. -/
def count? (text : String) : Option Nat := (integer? 0 Environment.max32 text).map Int.toNat

/-- A number of 32 bits, one of which is the sign. -/
def priority? (text : String) : Option Int := integer? (-2147483648) 2147483647 text

/-- A number of 64 bits. -/
def long? (text : String) : Option Nat := natural? Environment.max64 text

/-- The options of the program as a whole. -/
def sharedChoices : List Choice :=
  [{ name := "sites-dir", variableName := some "ARGOS_SITES_DIR", accepts := (! ·.isEmpty) },
   { name := "data-dir", variableName := some "ARGOS_DATA_DIR", accepts := (! ·.isEmpty) },
   { name := "engine", variableName := some "ARGOS_ENGINE"
     accepts := fun text => (EngineKind.parse text).toOption.isSome }]

/-- The option for how many jobs may run at once. -/
def jobsChoice : Choice where
  name := "max-concurrent-jobs"
  variableName := some "ARGOS_MAX_CONCURRENT_JOBS"
  accepts text := (long? text).isSome

/-- Any text will do. -/
def anyText (_ : String) : Bool := true

/-- A command without operands, options and further commands. -/
def bare (name : String) : CommandTree := .node name [] [] []

/-- A command that only has further commands. -/
def group (name : String) (commands : List CommandTree) : CommandTree := .node name [] [] commands

/-- The commands of the program. -/
def program : CommandTree :=
  group "argos" [
    .node "scrape"
      [{ name := "screenshot", valued := false }, { name := "no-frames", valued := false },
       { name := "timeout-ms", accepts := fun text => (long? text).isSome }]
      [anyText] [],
    group "sites" [bare "list", bare "validate"],
    group "registrations" [
      .node "add"
        [{ name := "url", letter := some 'u', repeats := true },
         { name := "interval-days", letter := some 'i', accepts := fun text => (count? text).isSome },
         { name := "priority", letter := some 'p', accepts := fun text => (priority? text).isSome }]
        [(! ·.isEmpty)] [],
      bare "list", .node "enable" [] [anyText] [], .node "disable" [] [anyText] []],
    group "schedule" [
      .node "run"
        [{ name := "interval-secs", variableName := some "ARGOS_SCHEDULER_INTERVAL_SECS"
           accepts := fun text => (long? text).isSome }, jobsChoice] [] [],
      .node "tick"
        [jobsChoice, { name := "wait-secs", accepts := fun text => (long? text).isSome }] [] []],
    group "results" [
      .node "prune" [{ name := "keep-days", accepts := fun text => (count? text).isSome }] [] [],
      .node "list"
        [{ name := "day", accepts := fun text => (Time.readDate text).toOption.isSome }] [] []]]

/-- The command of a command line that was read. -/
def commandOf (reading : Reading) (env : Environment) : Option Command :=
  let value {α : Type} (read : String → Option α) (name : String) : Option α :=
    (reading.value? env name).bind read
  let atLeastOne (name : String) (default : Nat) : Nat := max 1 ((value long? name).getD default)
  match reading.path with
  | ["scrape"] => some (.scrape (reading.operand 0) (reading.has "screenshot")
      (!reading.has "no-frames") (value long? "timeout-ms"))
  | ["sites", "list"] => some .listSites
  | ["sites", "validate"] => some .checkSites
  | ["registrations", "add"] => some (.register (reading.operand 0) (reading.values "url")
      (max 1 ((value count? "interval-days").getD 1)) ((value priority? "priority").getD 0))
  | ["registrations", "list"] => some .listRegistrations
  | ["registrations", "enable"] => some (.switch (reading.operand 0) true)
  | ["registrations", "disable"] => some (.switch (reading.operand 0) false)
  | ["schedule", "run"] => some (.runSchedule (atLeastOne "interval-secs" 86400)
      (atLeastOne "max-concurrent-jobs" 3))
  | ["schedule", "tick"] => some (.tick (atLeastOne "max-concurrent-jobs" 3)
      ((value long? "wait-secs").getD 900))
  | ["results", "prune"] => some (.pruneResults ((value count? "keep-days").getD 30))
  | ["results", "list"] => some (.listResults (value (Time.readDate · |>.toOption) "day"))
  | _ => none

/-- What a command line asks for. -/
def Invocation.ofWords (env : Environment) (words : List String) : Except Stop Invocation := do
  let reading ← read program sharedChoices env words
  let standard : StoreLayout := {}
  match commandOf reading env with
  | none => throw .misuse
  | some command => return {
      layout := {
        dataDir := (reading.value? env "data-dir").getD standard.dataDir
        sitesDir := (reading.value? env "sites-dir").getD standard.sitesDir }
      engine := ((reading.value? env "engine").bind (EngineKind.parse · |>.toOption)).getD .http
      command }

end SiteWatch.CommandLine
