/-
# Reading command lines

A command line is a walk down a tree of commands: each word is an option of the command reached so far,
its value, the name of a command below, or an operand. Options of the program as a whole may stand
anywhere; of those that are given at several commands the last one counts. An option that is not given
takes its value from a variable of the environment, if it has one.
-/

import SiteWatch.Environment

namespace SiteWatch.CommandLine

/-- Why a command line is not carried out. -/
inductive Stop where
  /-- It cannot be understood. -/
  | misuse
  /-- It asks how the program is used. -/
  | help
  /-- It asks for the version of the program. -/
  | version
deriving DecidableEq, Repr, Inhabited

/-- An option. -/
structure Choice where
  name : String
  letter : Option Char := none
  /-- Whether a value follows. -/
  valued : Bool := true
  /-- Whether it may be given several times. -/
  repeats : Bool := false
  /-- The variable that stands in for it. -/
  variableName : Option String := none
  /-- Which values make sense. -/
  accepts : String → Bool := fun _ => true

/-- A command, with its options and either operands or commands below. -/
inductive CommandTree where
  | node (name : String) (choices : List Choice) (operands : List (String → Bool))
      (commands : List CommandTree)

namespace CommandTree

def name : CommandTree → String
  | node name _ _ _ => name

def choices : CommandTree → List Choice
  | node _ choices _ _ => choices

/-- Which values of each operand make sense. -/
def operands : CommandTree → List (String → Bool)
  | node _ _ operands _ => operands

/-- The commands below. -/
def commands : CommandTree → List CommandTree
  | node _ _ _ commands => commands

/-- The command of a name below. -/
def find? (tree : CommandTree) (name : String) : Option CommandTree :=
  tree.commands.find? (·.name == name)

/-- Whether words name commands, each below the one before. -/
def knows (tree : CommandTree) : List String → Bool
  | [] => true
  | name :: rest =>
    match tree.find? name with
    | some command => command.knows rest
    | none => name == "help" && rest.isEmpty

end CommandTree

/-- What is given at one command. -/
structure Level where
  command : CommandTree
  /-- The options of the program as a whole. -/
  shared : List Choice
  given : List (String × String) := []
  operands : List String := []

namespace Level

/-- The options that may be given. -/
def choices (level : Level) : List Choice := level.command.choices ++ level.shared

/-- The option of a long name. -/
def named? (level : Level) (name : String) : Option Choice := level.choices.find? (·.name == name)

/-- The option of a letter. -/
def lettered? (level : Level) (letter : Char) : Option Choice :=
  level.choices.find? (·.letter == some letter)

/-- Note an option and its value. -/
def give (level : Level) (choice : Choice) (value : String) : Except Stop Level :=
  if level.given.any (·.1 == choice.name) && !choice.repeats then .error .misuse
  else if !choice.accepts value then .error .misuse
  else .ok { level with given := level.given ++ [(choice.name, value)] }

/-- Note an operand. -/
def put (level : Level) (value : String) : Except Stop Level :=
  match level.command.operands[level.operands.length]? with
  | none => .error .misuse
  | some accepts =>
    if accepts value then .ok { level with operands := level.operands ++ [value] }
    else .error .misuse

/-- Check what variables stand in for at a command. -/
def checkVariables (env : Environment) (level : Level) : Except Stop Unit :=
  let isSound (choice : Choice) : Bool :=
    level.given.any (·.1 == choice.name)
      || ((choice.variableName.bind (env.lookup ·)).map choice.accepts).getD true
  if level.choices.all isSound then .ok () else .error .misuse

/-- A command is complete when it has all its operands and no command below is missing. -/
def finish (env : Environment) (level : Level) : Except Stop Level :=
  if level.operands.length < level.command.operands.length ∨ !level.command.commands.isEmpty then
    .error .misuse
  else (level.checkVariables env).map fun _ => level

end Level

/-- A word, by its shape. -/
inductive Word where
  /-- Two hyphens alone: only operands follow. -/
  | separator
  | long (name : String) (value : Option String)
  | short (letter : Char) (attached : List Char)
  | plain (text : String)
deriving DecidableEq, Repr, Inhabited

/-- The shape of a word. -/
def Word.ofText (text : String) : Word :=
  match text.toList with
  | ['-', '-'] => .separator
  | '-' :: '-' :: rest =>
    match rest.dropWhile (· ≠ '=') with
    | '=' :: value =>
      .long (String.ofList (rest.takeWhile (· ≠ '='))) (some (String.ofList value))
    | _ => .long (String.ofList rest) none
  | '-' :: letter :: attached => .short letter attached
  | _ => .plain text

/-- Whether a word is no option, so that it can be the value of one. -/
def Word.isPlain : Word → Bool
  | plain _ => true
  | _ => false

/-- A command line that was read: the levels from the program down to the command. -/
abbrev Reading := List Level

/-- An option that waits for its value, or the level that goes on. -/
inductive Next where
  | goOn (level : Level)
  | awaitValue (choice : Choice)

namespace Level

/-- Read a long option. -/
def readLong (level : Level) (isTop : Bool) (name : String) (value : Option String) :
    Except Stop Next :=
  match level.named? name, value with
  | some choice, some value =>
    if choice.valued then (level.give choice value).map .goOn else .error .misuse
  | some choice, none =>
    if choice.valued then .ok (.awaitValue choice) else (level.give choice "").map .goOn
  | none, none =>
    if name = "help" then .error .help
    else if name = "version" ∧ isTop then .error .version
    else .error .misuse
  | none, some _ => .error .misuse

/-- Read an option by its letter. Its value may be attached, with or without a sign of equality. -/
def readShort (level : Level) (isTop : Bool) (letter : Char) (attached : List Char) :
    Except Stop Next :=
  match level.lettered? letter with
  | some choice =>
    match attached with
    | [] => .ok (.awaitValue choice)
    | '=' :: value => (level.give choice (String.ofList value)).map .goOn
    | value => (level.give choice (String.ofList value)).map .goOn
  | none =>
    if letter = 'h' then .error .help
    else if letter = 'V' ∧ isTop then .error .version
    else .error .misuse

end Level

/-- Read the words after the separator: all are operands. -/
def readOperands (env : Environment) (above : List Level) (level : Level) :
    List String → Except Stop Reading
  | [] => (level.finish env).map fun level => above ++ [level]
  | word :: rest => do readOperands env above (← level.put word) rest

/-- Read words at a command; `above` are the levels over it, and `awaiting` is an option whose value
is due. -/
def readWords (env : Environment) (above : List Level) (level : Level) (awaiting : Option Choice) :
    List String → Except Stop Reading
  | [] =>
    if awaiting.isSome then .error .misuse
    else (level.finish env).map fun level => above ++ [level]
  | word :: rest =>
    match awaiting, Word.ofText word with
    | some choice, shape =>
      if shape.isPlain then do readWords env above (← level.give choice word) none rest
      else .error .misuse
    | none, .separator => readOperands env above level rest
    | none, .long name value => do
      match ← level.readLong above.isEmpty name value with
      | .goOn level => readWords env above level none rest
      | .awaitValue choice => readWords env above level (some choice) rest
    | none, .short letter attached => do
      match ← level.readShort above.isEmpty letter attached with
      | .goOn level => readWords env above level none rest
      | .awaitValue choice => readWords env above level (some choice) rest
    | none, .plain text =>
      if level.command.commands.isEmpty then do readWords env above (← level.put text) none rest
      else if text = "help" then .error (if level.command.knows rest then .help else .misuse)
      else
        match level.command.find? text with
        | none => .error .misuse
        | some command => do
          let reading ← readWords env (above ++ [level]) { command, shared := level.shared } none rest
          level.checkVariables env
          return reading

/-- Read a command line. -/
def read (program : CommandTree) (shared : List Choice) (env : Environment) (words : List String) :
    Except Stop Reading :=
  readWords env [] { command := program, shared } none words

namespace Reading

/-- The commands, from the first below the program down. -/
def path (reading : Reading) : List String := (reading.drop 1).map (·.command.name)

/-- The operand at a position. -/
def operand (reading : Reading) (position : Nat) : String :=
  ((reading.getLast?.map (·.operands)).getD [])[position]?.getD ""

/-- All values given for an option, at the command reached. -/
def values (reading : Reading) (name : String) : List String :=
  (((reading.getLast?.map (·.given)).getD []).filter (·.1 == name)).map (·.2)

/-- Whether an option is given. -/
def has (reading : Reading) (name : String) : Bool := !(reading.values name).isEmpty

/-- The value of an option: the last one given, or that of its variable. -/
def value? (reading : Reading) (env : Environment) (name : String) : Option String :=
  let given := (reading.flatMap (·.given)).filter (·.1 == name)
  let choice := (reading.flatMap Level.choices).find? (·.name == name)
  (given.getLast?.map (·.2)).or ((choice.bind (·.variableName)).bind (env.lookup ·))

end Reading

end SiteWatch.CommandLine
