/-
# File names

Any text as the name of a file: one component of a path that holds only ASCII letters and digits,
full stops, hyphens and underscores and does not begin with a full stop.
-/

namespace SiteWatch.Text

/-- Whether a character may stand in a file name. -/
def isNameChar (c : Char) : Bool := c.isAlphanum || c = '.' || c = '_' || c = '-'

/-- The characters of a text as the name of a file, before the empty name is dealt with. -/
def nameChars (text : List Char) : List Char :=
  (text.map fun c => if isNameChar c then c else '_').dropWhile (· = '.')

/-- A text as the name of a file. -/
def fileName (text : String) : String :=
  let chars := nameChars text.toList
  if chars.isEmpty then "unnamed" else String.ofList chars

/-- The name of the entry `name` of a directory, as a path. -/
def joinPath (directory name : String) : String :=
  if startsWithSlash name || directory.isEmpty then name
  else if directory.toList.getLast? = some '/' then directory ++ name
  else directory ++ "/" ++ name
where
  /-- Whether a path begins at the root. -/
  startsWithSlash (path : String) : Bool := path.toList.head? = some '/'

/-- The ending of a file name after its last full stop; a name that begins with its only full stop
has none. -/
def extension? (name : String) : Option String :=
  let reversed := name.toList.reverse
  let ending := reversed.takeWhile (· ≠ '.')
  match reversed.dropWhile (· ≠ '.') with
  | _ :: _ :: _ => if name = ".." then none else some (String.ofList ending.reverse)
  | _ => none

end SiteWatch.Text
