/-
# Files

A tree of files and directories as a table from paths to what stands there, and the operations on it
with the faults that a system reports. A path is the list of its components; the empty path is the
root, which is always a directory.
-/

import SiteWatch.Failure
import SiteWatch.Text.FileName

namespace SiteWatch

/-- What stands at a path. -/
inductive FileNode where
  | file (content : ByteArray)
  | directory

/-- Why an operation on files fails. -/
inductive FileFault where
  | notFound
  | alreadyThere
  | notDirectory
  | isDirectory
  | nameTooLong
  | notText
deriving DecidableEq, Repr

/-- What the system says to a fault. -/
def FileFault.message : FileFault → String
  | notFound => "No such file or directory (os error 2)"
  | alreadyThere => "File exists (os error 17)"
  | notDirectory => "Not a directory (os error 20)"
  | isDirectory => "Is a directory (os error 21)"
  | nameTooLong => "File name too long (os error 36)"
  | notText => "stream did not contain valid UTF-8"

/-- The failure of an operation on the file at a path. -/
def FileFault.at (fault : FileFault) (path : String) : Failure :=
  .storage s!"{path}: {fault.message}"

/-- The components of a path. -/
abbrev FilePath := List String

/-- A tree of files and directories. -/
structure Files where
  entries : List (FilePath × FileNode) := []

namespace FilePath

/-- Add a component: a full stop stays where it is, two of them lead up. -/
def enter (path : FilePath) (component : String) : FilePath :=
  if component.isEmpty ∨ component = "." then path
  else if component = ".." ∧ !path.isEmpty ∧ path.getLast? ≠ some ".." then path.dropLast
  else path ++ [component]

/-- Where a path that is written with slashes begins. One from the root of the system begins with a
component of its own, so that it lies outside the tree below the current directory. -/
def start (text : List Char) : FilePath := if text.head? = some '/' then ["/"] else []

/-- The components of a path that is written with slashes. -/
@[irreducible]
def ofText (text : String) : FilePath :=
  ((text.toList.splitOn '/').map String.ofList).foldl enter (start text.toList)

end FilePath

namespace Files

/-- The most bytes that the name of an entry may have. -/
def maxNameBytes : Nat := 255

/-- The entry at a path. -/
def node? (files : Files) (path : FilePath) : Option FileNode :=
  if path.isEmpty then some .directory
  else (files.entries.find? (·.1 == path)).map (·.2)

/-- Walk down from what stands at `above` to the entry that further components lead to. -/
def walk (files : Files) (above : FilePath) (current : FileNode) : FilePath → Except FileFault FileNode
  | [] => .ok current
  | name :: rest =>
    match current with
    | .file _ => .error .notDirectory
    | .directory =>
      if name.utf8ByteSize > maxNameBytes then .error .nameTooLong
      else match files.node? (above ++ [name]) with
        | none => .error .notFound
        | some next => files.walk (above ++ [name]) next rest

/-- The entry at a path, or why there is none. -/
def find (files : Files) (path : FilePath) : Except FileFault FileNode :=
  files.walk [] .directory path

/-- Whether there is an entry at a path. -/
def has (files : Files) (path : FilePath) : Bool := (files.find path).toOption.isSome

/-- Whether there is a directory at a path. -/
def isDirectory (files : Files) (path : FilePath) : Bool :=
  match files.find path with
  | .ok .directory => true
  | _ => false

/-- Whether there is a plain file at a path. -/
def isFile (files : Files) (path : FilePath) : Bool :=
  match files.find path with
  | .ok (.file _) => true
  | _ => false

/-- Replace an entry in a table, or add it. -/
def setEntry (path : FilePath) (node : FileNode) :
    List (FilePath × FileNode) → List (FilePath × FileNode)
  | [] => [(path, node)]
  | entry :: rest =>
    if entry.1 == path then (path, node) :: rest else entry :: setEntry path node rest

/-- The tree with an entry at a path. -/
def set (files : Files) (path : FilePath) (node : FileNode) : Files :=
  ⟨setEntry path node files.entries⟩

/-- The tree without an entry and what lies below it. -/
def remove (files : Files) (path : FilePath) : Files :=
  ⟨files.entries.filter fun entry => !path.isPrefixOf entry.1⟩

/-- The bytes of a file. -/
def read (files : Files) (path : FilePath) : Except FileFault ByteArray :=
  match files.find path with
  | .error fault => .error fault
  | .ok .directory => .error .isDirectory
  | .ok (.file content) => .ok content

/-- The text of a file. -/
def readText (files : Files) (path : FilePath) : Except FileFault String :=
  match files.read path with
  | .error fault => .error fault
  | .ok content =>
    match String.fromUTF8? content with
    | some text => .ok text
    | none => .error .notText

/-- Write a file in a directory that is there, in place of an older one. -/
def write (files : Files) (path : FilePath) (content : ByteArray) : Except FileFault Files :=
  match files.find path with
  | .ok .directory => .error .isDirectory
  | .ok (.file _) => .ok (files.set path (.file content))
  | .error .notFound =>
    match files.find path.dropLast with
    | .ok .directory => .ok (files.set path (.file content))
    | .ok (.file _) => .error .notDirectory
    | .error fault => .error fault
  | .error fault => .error fault

/-- Make the directories that are missing on the way down from `above`. -/
def makeBelow (files : Files) (above : FilePath) : FilePath → Except FileFault Files
  | [] => .ok files
  | name :: rest =>
    if name.utf8ByteSize > maxNameBytes then .error .nameTooLong
    else match files.node? (above ++ [name]) with
      | none => (files.set (above ++ [name]) .directory).makeBelow (above ++ [name]) rest
      | some .directory => files.makeBelow (above ++ [name]) rest
      | some (.file _) => .error (if rest.isEmpty then .alreadyThere else .notDirectory)

/-- Make a directory and those above it, as far as they are missing. -/
def makeDirectories (files : Files) (path : FilePath) : Except FileFault Files :=
  files.makeBelow [] path

/-- Write a file, and make the directories that lead to it as far as they are missing. -/
def place (files : Files) (path : FilePath) (content : ByteArray) : Except FileFault Files := do
  let ready ← files.makeDirectories path.dropLast
  ready.write path content

/-- Rename a file over another, or to a new name in a directory that is there. -/
def rename (files : Files) (source target : FilePath) : Except FileFault Files := do
  let content ← files.read source
  let written ← files.write target content
  return written.remove source

/-- The names of the entries of a directory. -/
def names (files : Files) (path : FilePath) : Except FileFault (List String) :=
  match files.find path with
  | .error fault => .error fault
  | .ok (.file _) => .error .notDirectory
  | .ok .directory => .ok (files.entries.filterMap fun entry =>
      if entry.1.dropLast == path then entry.1.getLast? else none)

/-- All entries below a directory, sorted, with a slash after directories. -/
def tree (files : Files) (path : FilePath) : List String :=
  let shown := files.entries.filterMap fun entry =>
    if path.isPrefixOf entry.1 && path.length < entry.1.length then
      let name := "/".intercalate (entry.1.drop path.length)
      match entry.2 with
      | .directory => some (name ++ "/")
      | .file _ => some name
    else none
  shown.mergeSort fun a b => decide (a ≤ b)

/-- The names of the entries of a directory that are JSON documents by their names, sorted; none if
there is no such directory. -/
def documents (files : Files) (directory : String) : Outcome (List String) :=
  match files.names (FilePath.ofText directory) with
  | .error .notFound => .ok []
  | .error fault => .error (fault.at directory)
  | .ok names =>
    let documents := names.filter fun name => Text.extension? name = some "json"
    .ok (documents.mergeSort fun a b => decide (a ≤ b))

end Files

end SiteWatch
