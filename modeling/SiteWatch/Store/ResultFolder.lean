/-
# Results in files

Every stored result is a file of its own, in a directory for the day on which it was stored. A name
that is taken is never written over: the file gets the next free number. Days that are too old are
pruned as a whole.
-/

import SiteWatch.Json.Reader
import SiteWatch.Json.Writer
import SiteWatch.Store.Files
import SiteWatch.Store.StoredResult
import SiteWatch.Time.Reading

namespace SiteWatch

/-- The directory of all stored results. -/
structure ResultFolder where
  root : String
deriving DecidableEq, Repr, Inhabited

/-- Where a result was stored. -/
structure SavedFile where
  path : String
  name : String
  /-- The bytes of the file. -/
  size : Nat
deriving DecidableEq, Repr, Inhabited

namespace StoredResult

/-- The result that a document holds. -/
def ofDocument (text : String) : Outcome StoredResult :=
  match Json.read text with
  | .error reason => .error (.malformed reason)
  | .ok value =>
    match read value with
    | .error mismatch => .error (.malformed mismatch.message)
    | .ok stored => .ok stored

end StoredResult

namespace ResultFolder

/-- The directory of a day. -/
def dayDirectory (folder : ResultFolder) (day : Date) : String :=
  Text.joinPath folder.root day.text

/-- The beginning of the names for results of a site that are stored at a moment. -/
def stem (siteId : String) (now : Instant) : String := s!"{Text.fileName siteId}_{now.stamp}"

/-- The name for a number of earlier attempts. -/
def nameFor (siteId : String) (now : Instant) : Nat → String
  | 0 => stem siteId now ++ ".json"
  | attempt + 1 => s!"{stem siteId now}_{attempt + 1}.json"

/-- A result with the block about its saving under a name. -/
def stored (siteId : String) (result : ScrapeResult) (now : Instant) (name : String) :
    StoredResult :=
  { siteId, result, saveInfo := ⟨name, result.toJson.pretty.utf8ByteSize, now⟩ }

/-- Write a result under the first free name, beginning with that for a number of attempts and trying
at most `tries` of them. -/
def saveFrom (directory siteId : String) (result : ScrapeResult) (now : Instant) (files : Files) :
    (tries attempt : Nat) → Outcome SavedFile × Files
  | 0, _ => (.error (FileFault.alreadyThere.at directory), files)
  | tries + 1, attempt =>
    let name := nameFor siteId now attempt
    let path := Text.joinPath directory name
    match files.find (FilePath.ofText path) with
    | .ok _ => saveFrom directory siteId result now files tries (attempt + 1)
    | .error _ =>
      let content := (stored siteId result now name).toJson.pretty.toUTF8
      match files.write (FilePath.ofText path) content with
      | .error fault => (.error (fault.at path), files)
      | .ok written => (.ok ⟨path, name, content.size⟩, written)

/-- Store a result. There is always a free name among one more than there are entries. -/
def save (folder : ResultFolder) (siteId : String) (result : ScrapeResult) (now : Instant)
    (files : Files) : Outcome SavedFile × Files :=
  let directory := folder.dayDirectory now.date
  match files.makeDirectories (FilePath.ofText directory) with
  | .error fault => (.error (fault.at directory), files)
  | .ok ready => saveFrom directory siteId result now ready (ready.entries.length + 1) 0

/-- The stored result in a file. -/
def read (path : String) (files : Files) : Outcome StoredResult :=
  match files.read (FilePath.ofText path) with
  | .error fault => .error (fault.at path)
  | .ok bytes =>
    match String.fromUTF8? bytes with
    | none => .error (.malformed "invalid unicode code point")
    | some text => StoredResult.ofDocument text

/-- The paths of the results of a day, sorted. -/
def listDay (folder : ResultFolder) (day : Date) (files : Files) : Outcome (List String) :=
  let directory := folder.dayDirectory day
  (files.documents directory).map (·.map (Text.joinPath directory))

/-- Whether the name of an entry is a day before another. -/
def isBefore (cutoff : Date) (name : String) : Bool :=
  match Time.readDay name with
  | .ok day => decide (day.day < cutoff.day)
  | .error _ => false

/-- Remove directories of days, one after another. Answers how many. -/
def removeDays (folder : ResultFolder) (files : Files) (removed : Nat) :
    List String → Outcome Nat × Files
  | [] => (.ok removed, files)
  | name :: rest =>
    let path := Text.joinPath folder.root name
    if files.isFile (FilePath.ofText path) then (.error (FileFault.notDirectory.at path), files)
    else folder.removeDays (files.remove (FilePath.ofText path)) (removed + 1) rest

/-- Remove the days before a day; what is not named like a day is left alone. -/
def prune (folder : ResultFolder) (cutoff : Date) (files : Files) : Outcome Nat × Files :=
  match files.names (FilePath.ofText folder.root) with
  | .error .notFound => (.ok 0, files)
  | .error fault => (.error (fault.at folder.root), files)
  | .ok names =>
    let days := (names.filter (isBefore cutoff)).mergeSort fun a b => decide (a ≤ b)
    folder.removeDays files 0 days

/-- Remove the days that are more than a number of days before another; `none` when there is no such
day at all. -/
def pruneOlderThan? (folder : ResultFolder) (keepDays : Nat) (today : Date) (files : Files) :
    Option (Outcome Nat × Files) :=
  (today.minusDays? keepDays).map fun cutoff => folder.prune cutoff files

end ResultFolder

end SiteWatch
