/-
# Instructions

One step of page automation: a numbered, described action with its own deadline and wait condition.
The actions form a closed set; in JSON the members of the action stand beside those of the
instruction, and the member `action` says which action it is.
-/

import SiteWatch.Json.Record

namespace SiteWatch

open Json (Reader Record Mismatch)

/-- What a step does to the page. -/
inductive Action where
  /-- Open a page. In a plan the first of these opens the requested page. -/
  | navigate (target : Option String)
  /-- Click an element. -/
  | click (selector : String)
  /-- Wait for a condition, for an element, or for a number of milliseconds. -/
  | wait (selector value : Option String)
  /-- Type a text into an element. -/
  | enter (selector text : String)
  /-- Scroll an element into view, or to the end of the document. -/
  | scroll (selector : Option String)
  /-- A mark only: fields are extracted after all instructions. -/
  | extract
  /-- Save a picture of the page under a name. -/
  | screenshot (name : Option String)
deriving DecidableEq, Repr, Inhabited

/-- What a step waits for. -/
inductive WaitCondition where
  | navigation
  | selector
  | timeout
  | networkIdle
deriving DecidableEq, Repr, Inhabited

/-- One step of page automation. -/
structure Instruction where
  step : Nat
  description : String
  action : Action
  timeoutMs : Option Nat := none
  waitFor : Option WaitCondition := none
  /-- The failure of an optional instruction is passed over. -/
  optional : Bool := false
deriving DecidableEq, Repr, Inhabited

namespace Action

/-- The word for an action in JSON. -/
def word : Action → String
  | navigate _ => "navigate"
  | click _ => "click"
  | wait .. => "wait"
  | enter .. => "type"
  | scroll _ => "scroll"
  | extract => "extract"
  | screenshot _ => "screenshot"

/-- Whether an action opens a page. -/
def isNavigate : Action → Bool
  | navigate _ => true
  | _ => false

/-- The members of an action. -/
def members : Action → Members
  | navigate target => Json.member? "value" .string target
  | click selector => [("selector", .string selector)]
  | wait selector value =>
    Json.member? "selector" .string selector ++ Json.member? "value" .string value
  | enter selector text => [("selector", .string selector), ("value", .string text)]
  | scroll selector => Json.member? "selector" .string selector
  | extract => []
  | screenshot name => Json.member? "value" .string name

/-- The actions by their words, each with the record of its members. -/
def records : List (String × Record Action) :=
  [("navigate", navigate <$> Record.optional "value" Json.readText),
   ("click", click <$> Record.required "selector" Json.readText),
   ("wait", wait <$> Record.optional "selector" Json.readText
      <*> Record.optional "value" Json.readText),
   ("type", enter <$> Record.required "selector" Json.readText
      <*> Record.required "value" Json.readText),
   ("scroll", scroll <$> Record.optional "selector" Json.readText),
   ("extract", pure extract),
   ("screenshot", screenshot <$> Record.optional "value" Json.readText)]

/-- The record that the member `action` asks for: by word, or by position among the actions. -/
def recordFor : Json → Except Mismatch (Record Action)
  | .string word =>
    match records.lookup word with
    | some record => .ok record
    | none => .error (.choice word)
  | .int n =>
    if n < 0 then Json.wrongType "variant identifier" (.int n)
    else match records[n.toNat]? with
      | some found => .ok found.2
      | none => .error (.value (Json.int n).description "variant index 0 <= i < 7")
  | other => Json.wrongType "variant identifier" other

/-- Read an action from the members that stand beside those of its instruction. -/
def read (members : Members) : Except Mismatch Action :=
  match members.filter (·.1 == "action") with
  | [] => .error (.missing "action")
  | [(_, tag)] => do
    let record ← recordFor tag
    record.readMembers (members.filter (·.1 != "action"))
  | _ => .error (.repeated "action")

end Action

namespace WaitCondition

/-- The words for the conditions in JSON. -/
def words : List (String × WaitCondition) :=
  [("navigation", navigation), ("selector", selector), ("timeout", timeout),
   ("networkidle", networkIdle)]

def word : WaitCondition → String
  | navigation => "navigation"
  | selector => "selector"
  | timeout => "timeout"
  | networkIdle => "networkidle"

end WaitCondition

namespace Instruction

/-- A required step that opens a page. -/
def navigateTo (step : Nat) (url : String) : Instruction :=
  { step, description := s!"Navigate to {url}", action := .navigate (some url) }

/-- An instruction as JSON. -/
def toJson (i : Instruction) : Json :=
  .object ([("step", .ofNat i.step), ("description", .string i.description),
      ("action", .string i.action.word)]
    ++ i.action.members
    ++ Json.member? "timeoutMs" .ofNat i.timeoutMs
    ++ Json.member? "waitFor" (fun condition => .string condition.word) i.waitFor
    ++ [("optional", .bool i.optional)])

/-- The members of an instruction other than those of its action. -/
def record : Record (Action → Instruction) :=
  (fun step description timeoutMs waitFor optional action =>
      { step, description, action, timeoutMs, waitFor, optional : Instruction })
    <$> Record.required "step" Json.readNat32
    <*> Record.required "description" Json.readText
    <*> Record.optional "timeoutMs" Json.readNat64
    <*> Record.optional "waitFor" (Json.readChoice WaitCondition.words)
    <*> Record.defaulted "optional" false Json.readBool

/-- Read an instruction from an object. -/
def read : Reader Instruction
  | .object members => do
    let build ← record.readMembers members
    let action ← Action.read (record.others members)
    return build action
  | other => Json.wrongType "a map" other

/-- What is wrong with an instruction, if anything: a description, and the selectors and texts that
its action needs, must not be empty. -/
def problem? (i : Instruction) : Option String :=
  if Text.isVoid i.description then some "description must not be empty"
  else match i.action with
    | .click selector =>
      if Text.isVoid selector then some "click requires a selector" else none
    | .enter selector text =>
      if Text.isVoid selector then some "type requires a selector"
      else if text.isEmpty then some "type requires a value"
      else none
    | .wait none _ =>
      if i.waitFor = some .selector then some "wait for selector requires a selector" else none
    | _ => none

end Instruction

end SiteWatch
