/-
# Environments in files

Variables written down in a file, one on each line. Values may be quoted, may go over several lines
between quotes, and may refer to variables that are set already. A variable that is set keeps its value.
Reading stops at the first line that makes no sense, and what came before it counts.
-/

import SiteWatch.Environment

namespace SiteWatch.Environment

/-- Where the reading of a line stands. -/
inductive LineMark where
  | plain
  /-- Right after a blank. -/
  | blank
  | escaped
  /-- Between double quotes. -/
  | weak
  | weakEscaped
  /-- Between single quotes. -/
  | strong
  | strongEscaped
deriving DecidableEq, Repr, Inhabited

namespace LineMark

/-- The mark after a character that is not quoted. -/
def opening (c : Char) : LineMark :=
  if c = '\\' then escaped else if c = '"' then weak else if c = '\'' then strong else plain

/-- The mark after one more character; none where a comment begins. -/
def next (mark : LineMark) (c : Char) : Option LineMark :=
  match mark with
  | plain => some (if Text.isBlank c && c ≠ '\n' && c ≠ '\r' then blank else LineMark.opening c)
  | blank => if c = '#' then none else some (LineMark.opening c)
  | escaped => some plain
  | weak => some (if c = '\\' then weakEscaped else if c = '"' then plain else weak)
  | weakEscaped => some weak
  | strong => some (if c = '\\' then strongEscaped else if c = '\'' then plain else strong)
  | strongEscaped => some strong

/-- Read on to the end of a line or to a comment. The text before that, and the mark, which is absent
at a comment. -/
def scan (mark : LineMark) : List Char → List Char × Option LineMark
  | [] => ([], some mark)
  | c :: rest =>
    match mark.next c with
    | none => ([], none)
    | some mark =>
      let (before, last) := mark.scan rest
      (c :: before, last)

end LineMark

/-- The lines of a text, with what ends them. -/
def physicalLines : List Char → List (List Char)
  | [] => []
  | c :: rest =>
    if c = '\n' then [c] :: physicalLines rest
    else
      match physicalLines rest with
      | [] => [[c]]
      | line :: lines => (c :: line) :: lines

/-- A line without what ends it. -/
def withoutEnd (line : List Char) : List Char :=
  match line.reverse with
  | '\n' :: '\r' :: rest => rest.reverse
  | '\n' :: rest => rest.reverse
  | _ => line

/-- Put lines together where a quoted value goes on. What is left open at the end is dropped. -/
def logicalLines (begun : List Char) (mark : LineMark) : List (List Char) → List (List Char)
  | [] => []
  | line :: rest =>
    let whole := begun ++ line
    if (Text.dropBlanks whole).head? = some '#' then logicalLines [] .plain rest
    else
      match mark.scan line with
      | (before, none) => (begun ++ before) :: logicalLines [] .plain rest
      | (_, some .plain) => withoutEnd whole :: logicalLines [] .plain rest
      | (_, some mark) => logicalLines whole mark rest

/-- How a value refers to a variable. -/
inductive Reference where
  | none
  | bare
  | braced
deriving DecidableEq, Repr, Inhabited

/-- Where the reading of a value stands. -/
structure ValueReader where
  output : List Char := []
  mark : LineMark := .plain
  /-- Whether the value is over, so that only blanks and a comment may follow. -/
  ended : Bool := false
  reference : Reference := .none
  /-- The name of the variable that is referred to. -/
  name : List Char := []

namespace ValueReader

/-- Add a character to the value. -/
def push (reader : ValueReader) (c : Char) : ValueReader := { reader with output := reader.output ++ [c] }

/-- Put the variable that is referred to in the place of its name. -/
def refer (env : Environment) (reader : ValueReader) : ValueReader :=
  let value := (env.lookup (String.ofList reader.name)).getD ""
  { reader with output := reader.output ++ value.toList, name := [], reference := .none }

/-- Read a character of a name. -/
def stepName (env : Environment) (reader : ValueReader) (c : Char) : ValueReader :=
  if c.isAlphanum then { reader with name := reader.name ++ [c] }
  else if reader.reference = .braced then
    if c = '\x7d' then reader.refer env else { reader with name := reader.name ++ [c] }
  else if c = '\x7b' ∧ reader.name.isEmpty then { reader with reference := .braced }
  else if c = '$' then { reader.refer env with reference := .bare }
  else (reader.refer env).push c

/-- Read a character after a backslash. -/
def stepEscaped (reader : ValueReader) (back : LineMark) (c : Char) : Option ValueReader :=
  let reader := { reader with mark := back }
  if ['\\', '\'', '"', '$', ' '].contains c then some (reader.push c)
  else if c = 'n' then some (reader.push '\n')
  else none

/-- Read a character between double quotes. -/
def stepWeak (reader : ValueReader) (c : Char) : ValueReader :=
  if c = '"' then { reader with mark := .plain }
  else if c = '\\' then { reader with mark := .weakEscaped }
  else reader.push c

/-- Read a character outside of quotes. -/
def stepPlain (reader : ValueReader) (c : Char) : ValueReader :=
  match LineMark.opening c with
  | .plain => if c = ' ' ∨ c = '\t' then { reader with ended := true } else reader.push c
  | mark => { reader with mark }

/-- Read one character of a value; none if it makes no sense. -/
def step (env : Environment) (reader : ValueReader) (c : Char) : Option ValueReader :=
  if reader.ended then (if c = ' ' ∨ c = '\t' then some reader else none)
  else
    match reader.mark with
    | .escaped => reader.stepEscaped .plain c
    | .weakEscaped => reader.stepEscaped .weak c
    | .strong =>
      some (if c = '\'' then { reader with mark := .plain } else reader.push c)
    | mark =>
      some (
        if reader.reference ≠ .none then reader.stepName env c
        else if c = '$' then { reader with reference := .bare }
        else if mark = .weak then reader.stepWeak c
        else reader.stepPlain c)

/-- Read a value. -/
def read (env : Environment) (reader : ValueReader) : List Char → Option String
  | [] =>
    if reader.reference = .braced ∨ reader.mark = .strong ∨ reader.mark = .weak then none
    else some (String.ofList (reader.refer env).output)
  | c :: rest =>
    if reader.ended && c = '#' then some (String.ofList (reader.refer env).output)
    else (reader.step env c).bind fun reader => reader.read env rest

end ValueReader

/-- The name at the beginning of a line, and what follows it. -/
def nameIn (line : List Char) : Option (String × List Char) :=
  match line with
  | c :: _ =>
    if c.isAlpha || c = '_' then
      let isNameChar (c : Char) : Bool := c.isAlphanum || c = '_' || c = '.'
      some (String.ofList (line.takeWhile isNameChar), Text.dropBlanks (line.dropWhile isNameChar))
    else none
  | [] => none

/-- The name that a line sets, and what stands after the sign of equality. A line may say that its
variable is for export. -/
def assignmentIn (line : List Char) : Option (String × List Char) := do
  let (name, rest) ← nameIn line
  match rest with
  | '=' :: value => return (name, Text.dropBlanks value)
  | _ =>
    if name ≠ "export" then none
    else
      let (name, rest) ← nameIn rest
      match rest with
      | '=' :: value => return (name, Text.dropBlanks value)
      | _ => none

/-- The variable that a line sets, if any; an error if the line makes no sense. -/
def variableIn (env : Environment) (line : List Char) : Except Unit (Option (String × String)) :=
  let line := Text.trimmed line
  if line.isEmpty ∨ line.head? = some '#' then .ok none
  else
    match assignmentIn line with
    | none => .error ()
    | some (name, value) =>
      if value.isEmpty ∨ value.head? = some '#' then .ok (some (name, ""))
      else
        match ({} : ValueReader).read env value with
        | some value => .ok (some (name, value))
        | none => .error ()

/-- Set the variables of lines that are not set yet. -/
def addLines (env : Environment) : List (List Char) → Environment
  | [] => env
  | line :: rest =>
    match variableIn env line with
    | .error _ => env
    | .ok none => env.addLines rest
    | .ok (some (name, value)) =>
      if (env.lookup name).isSome then env.addLines rest
      else Environment.addLines (env ++ [(name, value)]) rest

/-- Set the variables of a file that are not set yet. -/
def addFile (env : Environment) (text : String) : Environment :=
  let chars := match text.toList with
    | '\uFEFF' :: rest => rest
    | chars => chars
  env.addLines (logicalLines [] .plain (physicalLines chars))

end SiteWatch.Environment
