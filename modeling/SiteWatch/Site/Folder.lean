/-
# Sites in files

The sites described by the JSON documents of a directory. What is asked for is answered from a
snapshot, which is taken when it is first needed and whenever a reload succeeds. Of several documents
with one id the first by name counts, and documents that are not valid are passed over.
-/

import SiteWatch.Site.Document
import SiteWatch.Site.Source
import SiteWatch.Store.Files

namespace SiteWatch

/-- What became of one document. -/
structure DocumentCheck where
  path : String
  outcome : Outcome Site

/-- A directory of site documents, with the snapshot taken of it. -/
structure SiteFolder where
  directory : String
  snapshot : Option (List Site) := none
deriving DecidableEq, Repr, Inhabited

namespace Site

/-- Read and check one document. -/
def load (path : String) (files : Files) : Outcome Site :=
  match files.readText (FilePath.ofText path) with
  | .error fault => .error (fault.at path)
  | .ok text =>
    match parse text with
    | .error (.invalid problem) => .error (.invalid s!"{path}: {problem}")
    | other => other

/-- Add a site, unless there is one of its id. -/
def addNew (sites : List Site) (site : Site) : List Site :=
  if sites.any (·.id == site.id) then sites else sites ++ [site]

end Site

namespace SiteFolder

/-- Check every document of the directory, in the order of their names. -/
def check (folder : SiteFolder) (files : Files) : Outcome (List DocumentCheck) :=
  (files.documents folder.directory).map fun names => names.map fun name =>
    let path := Text.joinPath folder.directory name
    ⟨path, Site.load path files⟩

/-- The sites of the directory. -/
def load (folder : SiteFolder) (files : Files) : Outcome (List Site) :=
  (files.documents folder.directory).map fun names =>
    names.foldl (fun sites name =>
      match Site.load (Text.joinPath folder.directory name) files with
      | .ok site => Site.addNew sites site
      | .error _ => sites) []

/-- The sites of the snapshot, which is taken if there is none yet. -/
def current (files : Files) (folder : SiteFolder) : Outcome (List Site) × SiteFolder :=
  match folder.snapshot with
  | some sites => (.ok sites, folder)
  | none =>
    match folder.load files with
    | .error cause => (.error cause, folder)
    | .ok sites => (.ok sites, { folder with snapshot := some sites })

/-- The site for a page. -/
def resolve (files : Files) (url : Url) (folder : SiteFolder) : Outcome (Option Site) × SiteFolder :=
  let (sites, folder) := folder.current files
  (sites.map (Site.bestFor? · url), folder)

/-- Take a new snapshot. Answers the number of sites; a failure leaves the old snapshot. -/
def reload (files : Files) (folder : SiteFolder) : Outcome Nat × SiteFolder :=
  match folder.load files with
  | .error cause => (.error cause, folder)
  | .ok sites => (.ok sites.length, { folder with snapshot := some sites })

end SiteFolder

/-- The source of the sites of a directory, for a state that holds the files and the folder. -/
def SiteSource.folder {σ : Type} (files : σ → Files) (folder : σ → SiteFolder)
    (setFolder : SiteFolder → σ → σ) : SiteSource σ where
  resolve url := Attempt.step fun s =>
    let (site, after) := (folder s).resolve (files s) url
    (site, setFolder after s)
  list := Attempt.step fun s =>
    let (sites, after) := (folder s).current (files s)
    (sites, setFolder after s)
  reload := Attempt.step fun s =>
    let (count, after) := (folder s).reload (files s)
    (count, setFolder after s)

end SiteWatch
