/-
# Pictures in files

The album that keeps pictures of pages as files of one directory, which is made when it is missing.
-/

import SiteWatch.Store.Files
import SiteWatch.Text.FileName
import SiteWatch.Web.Page

namespace SiteWatch

namespace Files

/-- Write a file into a directory that is made when it is missing. -/
def writeInto (files : Files) (directory file : String) (content : ByteArray) : Outcome Unit × Files :=
  match files.makeDirectories (FilePath.ofText directory) with
  | .error fault => (.error (fault.at directory), files)
  | .ok ready =>
    let path := Text.joinPath directory file
    match ready.write (FilePath.ofText path) content with
    | .error fault => (.error (fault.at path), ready)
    | .ok written => (.ok (), written)

end Files

/-- The album in a directory of the files that a state holds. -/
def Album.inFiles {σ : Type} (directory : String) (files : σ → Files) (setFiles : Files → σ → σ) :
    Album σ where
  directory
  save file content s :=
    let (outcome, after) := (files s).writeInto directory file content
    (outcome, setFiles after s)

end SiteWatch
