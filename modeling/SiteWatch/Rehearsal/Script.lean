/-
# Scripts as JSON

Scripts of pages, and failures in them, read from JSON. What a script leaves out is empty or does not
happen.
-/

import SiteWatch.Json.Basic
import SiteWatch.Rehearsal.Page

namespace SiteWatch.Rehearsal

namespace Script

/-- The member of an object; `null` if there is none. -/
def field (value : Json) (key : String) : Json :=
  match value with
  | .object members => (Members.get? members key).getD .null
  | _ => .null

def text? : Json → Option String
  | .string text => some text
  | _ => none

def text (value : Json) (key : String) : String := (text? (field value key)).getD ""

def flag (value : Json) (key : String) : Bool := field value key == .bool true

def number? : Json → Option Nat
  | .int n => if n < 0 then none else some n.toNat
  | _ => none

def number (value : Json) (key : String) : Nat := (number? (field value key)).getD 0

def items : Json → List Json
  | .array items => items
  | _ => []

def texts (value : Json) : List String := (items value).filterMap text?

def members : Json → Members
  | .object members => members
  | _ => []

def has (value : Json) (key : String) : Bool := (members value).any (·.1 == key)

/-- A text that may be missing. -/
def optional (value : Json) (key : String) : Option String := text? (field value key)

/-- A number that may be missing. -/
def count? (value : Json) (key : String) : Option Nat := number? (field value key)

/-- A number, or what stands for it where it is missing. -/
def countOr (value : Json) (key : String) (default : Nat) : Nat := (count? value key).getD default

/-- The items of a list that may be missing. -/
def itemsOf (value : Json) (key : String) : List Json := items (field value key)

/-- The texts of a list that may be missing. -/
def textsOf (value : Json) (key : String) : List String := texts (field value key)

/-- Lists of texts by name. -/
def textLists (value : Json) : List (String × List String) :=
  (members value).map fun member => (member.1, texts member.2)

end Script

open Script

mutual

/-- A frame of a script. -/
def FrameScript.ofJson : Json → FrameScript
  | .object ms =>
    { texts := textLists (field (.object ms) "texts")
      failing := Script.texts (field (.object ms) "failing")
      contentFrames := framesAmong ms
      neverLoads := flag (.object ms) "never_loads" }
  | _ => {}

/-- The frames within a frame, from its members. -/
def framesAmong : List (String × Json) → List (String × FrameScript)
  | [] => []
  | (key, value) :: rest =>
    if key = "content_frames" then framesIn value else framesAmong rest

/-- The frames that an object holds. -/
def framesIn : Json → List (String × FrameScript)
  | .object ms => framesOf ms
  | _ => []

/-- Frames by selector. -/
def framesOf : List (String × Json) → List (String × FrameScript)
  | [] => []
  | (selector, frame) :: rest => (selector, FrameScript.ofJson frame) :: framesOf rest

end

/-- The words for calls. -/
def Call.words : List (String × Call) :=
  [("launch", .launch), ("new_page", .openPage), ("close", .close), ("goto", .goto),
   ("url", .address), ("content_frame", .contentFrame), ("wait_for_navigation", .awaitNavigation),
   ("wait_for_network_idle", .awaitNetworkIdle), ("screenshot", .screenshot), ("frames", .frames),
   ("memory_usage", .memoryUsage)]

/-- A failure by its kind and what belongs to it; none of an unknown kind. -/
def failureOf? (value : Json) : Option Failure :=
  let message := text value "message"
  match text value "kind" with
  | "policy_blocked" => some (.policyBlocked message)
  | "configuration_missing" => some (.configurationMissing message)
  | "instruction_failed" =>
    some (.instructionFailed (number value "step") (text value "description") message)
  | "browser_launch_failed" => some (.launchFailed message)
  | "network_fetch_failed" => some (.networkFailed message)
  | "extraction_failed" => some (.extractionFailed message)
  | "timeout" => some (.timedOut (number value "ms"))
  | "cancelled" => some (.cancelled message)
  | "validation_error" => some (.invalid message)
  | "serialization_error" => some (.malformed "EOF while parsing a value at line 1 column 0")
  | "storage_error" => some (.storage message)
  | "config_error" => some (.misconfigured message)
  | _ => none

/-- How a call goes wrong. -/
def Fault.ofJson? (value : Json) : Option Fault :=
  match value with
  | .string "hang" => some .hang
  | .string "none" => some .nothing
  | _ =>
    match number? (field value "delay_ms") with
    | some milliseconds => some (.delay milliseconds)
    | none => (failureOf? value).map .fail

/-- A script; calls and faults with unknown names are left out. -/
def PageScript.ofJson (value : Json) : PageScript where
  texts := textLists (field value "texts")
  attributeValues :=
    (members (field value "attributes")).map fun member => (member.1, textLists member.2)
  failing := Script.texts (field value "failing")
  hanging := Script.texts (field value "hanging")
  failsNavigation := flag value "fail_navigation"
  failsScreenshot := flag value "fail_screenshot"
  frames := (items (field value "frames")).map FrameScript.ofJson
  contentFrames := framesIn (field value "content_frames")
  launchFailure := text? (field value "launch_fails")
  faults := (members (field value "faults")).filterMap fun (name, fault) => do
    return (← Call.words.lookup name, ← Fault.ofJson? fault)

end SiteWatch.Rehearsal
