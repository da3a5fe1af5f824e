/-
# The register in a file

The register as one JSON document. The file is the truth: every operation reads it anew, so that
changes made by others are seen. It is written as a draft beside it first, which then takes its place.
-/

import SiteWatch.Json.Reader
import SiteWatch.Json.Writer
import SiteWatch.Schedule.Register
import SiteWatch.Store.Files

namespace SiteWatch

namespace Register

/-- The register as a document. -/
def document (register : Register) : String := (Json.array (register.map Registration.toJson)).pretty

/-- The register that a document holds. -/
def ofDocument (text : String) : Outcome Register :=
  match Json.read text with
  | .error reason => .error (.malformed reason)
  | .ok value =>
    match Json.readList Registration.read value with
    | .error mismatch => .error (.malformed mismatch.message)
    | .ok register => .ok register

/-- The register that the bytes of a file hold. -/
def ofBytes (bytes : ByteArray) : Outcome Register :=
  match String.fromUTF8? bytes with
  | none => .error (.malformed "invalid unicode code point")
  | some text => ofDocument text

end Register

/-- A register kept in a file. -/
structure RegisterFile where
  path : String
deriving DecidableEq, Repr, Inhabited

namespace RegisterFile

/-- The path of the draft: that of the file with another ending. -/
def draftPath (file : RegisterFile) : FilePath :=
  match (FilePath.ofText file.path).getLast? with
  | none => []
  | some name =>
    let stem := match Text.extension? name with
      | some ending => String.ofList (name.toList.take (name.length - ending.length - 1))
      | none => name
    (FilePath.ofText file.path).dropLast ++ [stem ++ ".json.tmp"]

/-- Read the register; a file that is missing holds an empty one. -/
def read (file : RegisterFile) (files : Files) : Outcome Register :=
  match files.read (FilePath.ofText file.path) with
  | .ok bytes => Register.ofBytes bytes
  | .error .notFound => .ok []
  | .error fault => .error (.storage s!"failed to read {file.path}: {fault.message}")

/-- Make the directory of the file and write a draft there. -/
def writeDraft (file : RegisterFile) (register : Register) (files : Files) :
    Except FileFault Files :=
  files.place file.draftPath register.document.toUTF8

/-- Let the draft take the place of the file. -/
def commit (file : RegisterFile) (files : Files) : Except FileFault Files :=
  files.rename file.draftPath (FilePath.ofText file.path)

/-- Write the register. -/
def write (file : RegisterFile) (register : Register) (files : Files) : Outcome Unit × Files :=
  match file.writeDraft register files with
  | .error fault => (.error (fault.at file.path), files)
  | .ok drafted =>
    match file.commit drafted with
    | .error fault => (.error (fault.at file.path), drafted)
    | .ok written => (.ok (), written)

/-- The registration of an id. -/
def get (file : RegisterFile) (id : String) (files : Files) : Outcome (Option Registration) :=
  (file.read files).map (·.get? id)

/-- Replace the registration of the same id, or add one. -/
def upsert (file : RegisterFile) (r : Registration) (files : Files) : Outcome Unit × Files :=
  match file.read files with
  | .error cause => (.error cause, files)
  | .ok register => file.write (register.upsert r) files

/-- Change the registration of an id. Answers whether there is one; if not, nothing is written. -/
def amend (file : RegisterFile) (id : String) (change : Registration → Registration)
    (files : Files) : Outcome Bool × Files :=
  match file.read files with
  | .error cause => (.error cause, files)
  | .ok register =>
    if register.has id then
      let (outcome, files) := file.write (register.amend change id) files
      (outcome.map fun _ => true, files)
    else (.ok false, files)

/-- Switch a site on or off. -/
def setEnabled (file : RegisterFile) (id : String) (enabled : Bool) (files : Files) :
    Outcome Bool × Files :=
  file.amend id (fun r => { r with site := { r.site with enabled } }) files

/-- Write the bookkeeping of a round back. -/
def record (file : RegisterFile) (id : String) (history : Bookkeeping) (files : Files) :
    Outcome Bool × Files :=
  file.amend id (·.withHistory history) files

end RegisterFile

end SiteWatch
