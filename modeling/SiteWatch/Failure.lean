/-
# Failures

Every operation of the library that can fail does so with one of twelve causes. A cause has three
readings: a stable kind that clients may branch on, one line of text for people, and whether trying
again later may help. The text of each cause is written here and nowhere else.
-/

namespace SiteWatch

/-- Why an operation failed. -/
inductive Failure where
  /-- The robots rules of the origin forbid the page. -/
  | policyBlocked (url : String)
  /-- No enabled site configuration covers the page. -/
  | configurationMissing (url : String)
  /-- A required instruction failed. -/
  | instructionFailed (step : Nat) (description message : String)
  /-- The page engine did not start. -/
  | launchFailed (reason : String)
  /-- A fetch or a navigation failed. -/
  | networkFailed (reason : String)
  /-- A required field was not found, or a query itself broke. -/
  | extractionFailed (reason : String)
  /-- A deadline passed. -/
  | timedOut (milliseconds : Nat)
  /-- The surrounding job was called off. -/
  | cancelled (what : String)
  /-- A configuration or a request breaks a rule. -/
  | invalid (problem : String)
  /-- A JSON document could not be read. -/
  | malformed (reason : String)
  /-- Files could not be read or written. -/
  | storage (reason : String)
  /-- The surroundings of the program are set up wrongly. -/
  | misconfigured (reason : String)
deriving DecidableEq, Repr, Inhabited

/-- A result, or the cause of its absence. -/
abbrev Outcome (α : Type) := Except Failure α

namespace Failure

/-- The identifier under which a failure is reported to clients. -/
def kind : Failure → String
  | policyBlocked _ => "policy_blocked"
  | configurationMissing _ => "configuration_missing"
  | instructionFailed .. => "instruction_failed"
  | launchFailed _ => "browser_launch_failed"
  | networkFailed _ => "network_fetch_failed"
  | extractionFailed _ => "extraction_failed"
  | timedOut _ => "timeout"
  | cancelled _ => "cancelled"
  | invalid _ => "validation_error"
  | malformed _ => "serialization_error"
  | storage _ => "storage_error"
  | misconfigured _ => "config_error"

/-- One line of text for people. -/
def message : Failure → String
  | policyBlocked url => s!"Blocked by robots.txt: {url}"
  | configurationMissing url => s!"No enabled site configuration for {url}"
  | instructionFailed step description reason =>
    s!"Instruction {step} ({description}) failed: {reason}"
  | launchFailed reason => s!"Browser launch failed: {reason}"
  | networkFailed reason => s!"Network fetch failed: {reason}"
  | extractionFailed reason => s!"Extraction failed: {reason}"
  | timedOut milliseconds => s!"Timed out after {milliseconds} ms"
  | cancelled what => s!"Cancelled: {what}"
  | invalid problem => s!"Validation error: {problem}"
  | malformed reason => s!"Serialization error: {reason}"
  | storage reason => s!"Storage error: {reason}"
  | misconfigured reason => s!"Configuration error: {reason}"

/-- Transient causes: a later run may succeed without anyone changing anything. -/
def isRetryable : Failure → Bool
  | networkFailed _ | timedOut _ | launchFailed _ => true
  | _ => false

end Failure

end SiteWatch
