/-
# Steps on a page

One instruction carried out on a page under its deadline. What goes wrong is told in the words of the
step; a failure of an optional step is passed over, and that it was called off is never hidden.
-/

import SiteWatch.Environment
import SiteWatch.Site.Instruction
import SiteWatch.Text.FileName
import SiteWatch.Web.Page

namespace SiteWatch

variable {σ F : Type}

/-- The name of the file for a picture. -/
def pictureFile (name : String) : String :=
  let file := Text.fileName name
  if Text.endsWith file ".png" then file else file ++ ".png"

/-- Take a picture of a page within a time and save it. Answers its path. -/
def Page.capture (page : Page σ F) (album : Album σ) (name : String) (limit : Nat) :
    Attempt σ String := do
  let picture ← page.screenshot.timeout limit
  let file := pictureFile name
  Attempt.step (album.save file picture)
  return Text.joinPath album.directory file

namespace Instruction

/-- The deadline of a step: its own, or that of the page. -/
def limitMs (i : Instruction) (options : PageOptions) : Nat := i.timeoutMs.getD options.timeoutMs

/-- How long a step that waits for nothing else pauses: the number of milliseconds that it spells,
or its deadline. -/
def pauseMs (value : Option String) (limit : Nat) : Nat :=
  match value with
  | none => limit
  | some text =>
    match Environment.readNumber Environment.max64 (Text.trimmed text.toList) with
    | .ok time => time
    | .error _ => limit

/-- Wait for what a step says. -/
def await (page : Page σ F) (condition : Option WaitCondition) (selector value : Option String)
    (limit : Nat) : Attempt σ Unit :=
  match condition, selector with
  | some .navigation, _ => page.awaitNavigation.timeout limit
  | some .networkIdle, _ => page.awaitNetworkIdle.timeout limit
  | some .selector, some selector | none, some selector =>
    (page.awaitSelector selector).timeout limit
  | _, _ => Attempt.ofActivity (Activity.sleep (pauseMs value limit))

/-- Do what a step says, each call under its deadline. -/
def perform (i : Instruction) (page : Page σ F) (album : Album σ) (limit : Nat) : Attempt σ Unit :=
  match i.action with
  | .navigate none => throw (.invalid "navigate instruction has no URL")
  | .navigate (some url) => (page.goto url).timeout limit
  | .click selector => do
    (page.click selector).timeout limit
    if i.waitFor = some .navigation then page.awaitNavigation.timeout limit
  | .wait selector value => await page i.waitFor selector value limit
  | .enter selector text => (page.enter selector text).timeout limit
  | .scroll selector => (page.scroll selector).timeout limit
  | .extract => pure ()
  | .screenshot name => do
    let _ ← page.capture album (name.getD s!"step-{i.step}.png") limit

/-- The failure of a step, in its words. -/
def blame (i : Instruction) (cause : Failure) : Failure :=
  match cause with
  | .cancelled _ => cause
  | _ =>
    if i.action.isNavigate then
      match cause with
      | .timedOut milliseconds => .networkFailed s!"navigation timed out after {milliseconds} ms"
      | other => .networkFailed other.message
    else .instructionFailed i.step i.description cause.message

/-- What a step comes to: whether it succeeded, or its failure when it is not optional. -/
def settle (i : Instruction) : Outcome Unit → Outcome Bool
  | .ok () => .ok true
  | .error cause => if i.optional then .ok false else .error (i.blame cause)

/-- Carry out one instruction. -/
def execute (i : Instruction) (page : Page σ F) (album : Album σ) (options : PageOptions) :
    Attempt σ Bool :=
  ExceptT.mk ((i.perform page album (i.limitMs options)).run.bind fun outcome =>
    .done (i.settle outcome))

end Instruction

/-- Start a browser; every failure of that is one of the engine. -/
def PageEngine.start (engine : PageEngine σ F) (options : PageOptions) : Attempt σ (Browser σ F) :=
  ExceptT.mk ((engine.launch options).run.bind fun outcome =>
    .done (match outcome with
      | .error (.launchFailed reason) => .error (.launchFailed reason)
      | .error cause => .error (.launchFailed cause.message)
      | .ok browser => .ok browser))

end SiteWatch
