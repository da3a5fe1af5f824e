/-
# Rehearsed pages

A page engine that follows a script. All pages of a stage are one page, whose address and log of
actions last; the script says what its selectors find, which of them fail or never answer, and which
calls go wrong. Rehearsals show what a site configuration does before it meets the site.
-/

import SiteWatch.Store.Pictures

namespace SiteWatch.Rehearsal

/-- The script of an embedded document. -/
structure FrameScript where
  /-- The texts that selectors find. -/
  texts : List (String × List String) := []
  /-- Selectors whose query fails. -/
  failing : List String := []
  contentFrames : List (String × FrameScript) := []
  neverLoads : Bool := false
deriving Inhabited

/-- The calls that a script can make go wrong. -/
inductive Call where
  | launch
  | openPage
  | close
  | goto
  | address
  | contentFrame
  | awaitNavigation
  | awaitNetworkIdle
  | screenshot
  | frames
  | memoryUsage
deriving DecidableEq, Repr, Inhabited

/-- How a call goes wrong. -/
inductive Fault where
  /-- It never answers. -/
  | hang
  /-- It takes its time, in milliseconds. -/
  | delay (milliseconds : Nat)
  | fail (cause : Failure)
  /-- It answers that there is no value, where a value is optional. -/
  | nothing
deriving DecidableEq, Repr, Inhabited

/-- The script of a page and of the engine that opens it. -/
structure PageScript where
  texts : List (String × List String) := []
  /-- The values that selectors find for an attribute. -/
  attributeValues : List (String × List (String × List String)) := []
  failing : List String := []
  /-- Selectors at which an action never ends. -/
  hanging : List String := []
  failsNavigation : Bool := false
  failsScreenshot : Bool := false
  frames : List FrameScript := []
  contentFrames : List (String × FrameScript) := []
  /-- Why the engine does not start, if it does not. -/
  launchFailure : Option String := none
  faults : List (Call × Fault) := []
deriving Inhabited

/-- What a rehearsal remembers. -/
structure Stage where
  address : String := "https://example.com/"
  /-- What was done to the page, in order. -/
  actions : List String := []
  /-- The addresses that the robots rules were asked about. -/
  asked : List String := []
  launches : Nat := 0
  closes : Nat := 0
  /-- The files that pictures are saved in. -/
  files : Files := {}

/-- Note an action. -/
def Stage.note (stage : Stage) (action : String) : Stage :=
  { stage with actions := stage.actions ++ [action] }

/-- The texts found, or the first of them alone. -/
def found (multiple : Bool) (texts : Option (List String)) : List String :=
  if multiple then texts.getD [] else (texts.getD []).take 1

/-- The failure of a query for a failing selector. -/
def queryFailure (selector : String) : Failure :=
  .extractionFailed s!"selector '{selector}' failed"

/-- The bytes of every picture. -/
def picture : ByteArray := ⟨#[0x89, 0x50, 0x4E, 0x47, 0x0D, 0x0A, 0x1A, 0x0A]⟩

namespace FrameScript

/-- The document of a scripted frame. -/
def document (frame : FrameScript) : Document Stage FrameScript where
  select selector attributeName multiple :=
    if frame.failing.contains selector then throw (queryFailure selector)
    else match attributeName with
      | some _ => pure []
      | none => pure (found multiple (frame.texts.lookup selector))
  contentFrame selector := pure (frame.contentFrames.lookup selector)
  address := pure (some "https://example.com/frame")

/-- A frame loads at once or never. -/
def awaitLoad (frame : FrameScript) : Attempt Stage Unit :=
  if frame.neverLoads then ExceptT.mk (Activity.never (.done (.ok ()))) else pure ()

end FrameScript

namespace PageScript

variable {α : Type}

/-- A call as the script has it go: it may hang, take its time or fail before anything is done. -/
def faulty (script : PageScript) (call : Call) (rest : Attempt Stage α) : Attempt Stage α :=
  match script.faults.lookup call with
  | some .hang => ExceptT.mk (Activity.never rest.run)
  | some (.delay milliseconds) => do
    Attempt.ofActivity (Activity.sleep milliseconds)
    rest
  | some (.fail cause) => throw cause
  | some .nothing | none => rest

/-- A call whose value the script may withhold. -/
def faulty? (script : PageScript) (call : Call) (rest : Attempt Stage α) :
    Attempt Stage (Option α) :=
  script.faulty call (
    if script.faults.lookup call = some .nothing then pure none
    else do return some (← rest))

/-- Note an action. -/
def note (action : String) : Attempt Stage Unit :=
  Attempt.ofActivity (Activity.modify (·.note action))

/-- Act on an element. -/
def touch (script : PageScript) (selector : String) : Attempt Stage Unit :=
  if script.failing.contains selector then
    throw (.extractionFailed s!"no element matches '{selector}'")
  else if script.hanging.contains selector then ExceptT.mk (Activity.never (.done (.ok ())))
  else pure ()

/-- Move the page to an address. -/
def visit (script : PageScript) (url : String) : Attempt Stage Unit := do
  note s!"goto {url}"
  if script.failsNavigation then
    throw (.networkFailed s!"net::ERR_NAME_NOT_RESOLVED {url}")
  Attempt.ofActivity (Activity.modify fun stage => { stage with address := url })

/-- The scripted page. -/
def page (script : PageScript) : Page Stage FrameScript where
  select selector attributeName multiple :=
    if script.failing.contains selector then throw (queryFailure selector)
    else match attributeName with
      | some name =>
        pure (found multiple ((script.attributeValues.lookup selector).bind (·.lookup name)))
      | none => pure (found multiple (script.texts.lookup selector))
  contentFrame selector :=
    script.faulty .contentFrame (pure (script.contentFrames.lookup selector))
  address := script.faulty? .address (Attempt.step fun stage => (.ok stage.address, stage))
  goto url := script.faulty .goto (script.visit url)
  click selector := do
    note s!"click {selector}"
    script.touch selector
  enter selector text := do
    note s!"type {selector} {text}"
    script.touch selector
  scroll selector := do
    note ("scroll " ++ selector.getD "<bottom>")
    match selector with
    | some selector => script.touch selector
    | none => pure ()
  awaitSelector selector := do
    note s!"wait_for_selector {selector}"
    script.touch selector
  awaitNavigation := do
    note "wait_for_navigation"
    script.faulty .awaitNavigation (pure ())
  awaitNetworkIdle := do
    note "wait_for_network_idle"
    script.faulty .awaitNetworkIdle (pure ())
  screenshot := script.faulty .screenshot (
    if script.failsScreenshot then throw (.extractionFailed "screenshot failed") else pure picture)
  frames := script.faulty .frames (pure script.frames)
  memoryUsage := script.faulty? .memoryUsage (pure 4194304)

/-- A browser that opens the scripted page. -/
def browser (script : PageScript) : Browser Stage FrameScript where
  openPage _ := script.faulty .openPage (pure script.page)
  close := script.faulty .close (Attempt.ofActivity (Activity.modify fun stage =>
    { stage with closes := stage.closes + 1 }))

/-- The engine of a script. A start is counted before anything goes wrong with it. -/
def engine (script : PageScript) : PageEngine Stage FrameScript where
  launch _ := do
    Attempt.ofActivity (Activity.modify fun stage => { stage with launches := stage.launches + 1 })
    script.faulty .launch (
      match script.launchFailure with
      | some reason => throw (.launchFailed reason)
      | none => pure script.browser)
  document := FrameScript.document
  awaitLoad := FrameScript.awaitLoad

end PageScript

/-- The album of a rehearsal. -/
def album (directory : String) : Album Stage :=
  Album.inFiles directory Stage.files fun files stage => { stage with files }

end SiteWatch.Rehearsal
