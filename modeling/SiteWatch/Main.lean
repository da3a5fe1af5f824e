/-
# The program

The command line on the files of the machine. What a command needs of them is read before it begins,
and what it changed is written when it is done. There is no way to the network from here, so every
fetch fails and is told so.
-/

import SiteWatch.CommandLine.Run
import Std.Time.DateTime.Timestamp

namespace SiteWatch.Console

open CommandLine

/-- Where the components of a path lead. -/
def placeOf : FilePath → String
  | "/" :: rest => "/" ++ "/".intercalate rest
  | [] => "."
  | path => "/".intercalate path

/-- What stands at a path and below it. -/
partial def load (path : FilePath) (files : Files) : IO Files := do
  let place := (← IO.currentDir) / placeOf path
  if ← place.isDir then
    let mut files := if path.isEmpty then files else files.set path .directory
    for entry in ← place.readDir do
      files ← load (path ++ [entry.fileName]) files
    return files
  else if ← place.pathExists then
    return files.set path (.file (← IO.FS.readBinFile place))
  else return files

/-- What stands at a path, with the directories that lead there. -/
def loadWithParents (text : String) (files : Files) : IO Files := do
  let path := FilePath.ofText text
  let mut files := files
  for n in List.range path.length do
    let above := path.take n
    if !above.isEmpty && (← ((← IO.currentDir) / placeOf above).isDir) then
      files := files.set above .directory
  load path files

/-- Write what is new and remove what is gone. -/
def store (before after : Files) : IO Unit := do
  for (path, node) in before.entries do
    let place := (← IO.currentDir) / placeOf path
    if (after.node? path).isNone && (← place.pathExists) then
      match node with
      | .directory => IO.FS.removeDirAll place
      | .file _ => IO.FS.removeFile place
  for (path, node) in after.entries do
    let place := (← IO.currentDir) / placeOf path
    match node, before.node? path with
    | .directory, some .directory => pure ()
    | .directory, _ => IO.FS.createDirAll place
    | .file content, some (.file old) =>
      if content.data != old.data then IO.FS.writeBinFile place content
    | .file content, _ => IO.FS.writeBinFile place content

/-- The variables that the program heeds. -/
def variableNames : List String :=
  ["ARGOS_SITES_DIR", "ARGOS_DATA_DIR", "ARGOS_ENGINE", "ARGOS_MAX_CONCURRENT_JOBS",
   "ARGOS_SCHEDULER_INTERVAL_SECS", "ARGOS_NOTIFY_WEBHOOK", "HOME"]

/-- The time of day. -/
def currentTime : IO Instant := do
  let since := (← Std.Time.Timestamp.now).toNanosecondsSinceUnixEpoch.val
  return ⟨since / 1000000000, (since % 1000000000).toNat⟩

/-- The paths that a command needs. -/
def pathsOf (invocation : Invocation) : List String :=
  [invocation.layout.sitesDir, invocation.layout.dataDir] ++
    match invocation.command with
    | .register document .. => [document]
    | _ => []

/-- Carry out one command line. -/
def runOnce (env : Environment) (words : List String) : IO ProgramRun := do
  let mut files ← loadWithParents ".env" {}
  if let .ok invocation := Invocation.ofWords (environmentOf env files) words then
    for path in pathsOf invocation do
      files ← loadWithParents path files
  let online : Online Unit := { network := (), files, now := ← currentTime }
  let (run, online) := runProgram Network.unreachable env words online
  store files online.files
  return run

/-- Tick again and again. -/
partial def repeatTicks (env : Environment) (intervalSecs : Nat) (words : List String) : IO UInt32 := do
  let run ← runOnce env words
  if run.exitCode ≠ 0 then
    IO.eprint run.report
    return run.exitCode.toUInt32
  IO.sleep (intervalSecs * 1000).toUInt32
  repeatTicks env intervalSecs words

/-- Run the program with the words of a command line. -/
def start (words : List String) : IO UInt32 := do
  let mut env : Environment := []
  for name in variableNames do
    if let some value ← IO.getEnv name then env := env ++ [(name, value)]
  let files ← loadWithParents ".env" {}
  match Invocation.ofWords (environmentOf env files) words with
  | .ok { layout, command := .runSchedule intervalSecs maxConcurrentJobs, .. } =>
    repeatTicks env intervalSecs
      ["schedule", "tick", "--max-concurrent-jobs", toString maxConcurrentJobs,
       "--sites-dir", layout.sitesDir, "--data-dir", layout.dataDir]
  | _ =>
    let run ← runOnce env words
    IO.print run.output
    IO.eprint run.report
    return run.exitCode.toUInt32

end SiteWatch.Console

def main (words : List String) : IO UInt32 := SiteWatch.Console.start words
