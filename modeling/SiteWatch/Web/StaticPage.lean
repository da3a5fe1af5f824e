/-
# Pages without a browser

The engine for sites whose documents come ready from the server. A page is the last document that
was fetched into its tab: it answers queries at once, and since nothing in it moves, there is nothing
to wait for, to click or to type into. A fetch that fails leaves the page as it was. Frames are
fetched when they are asked for.
-/

import SiteWatch.Html.Query
import SiteWatch.Web.Online
import SiteWatch.Web.Page

namespace SiteWatch

/-- A frame: a document, and the name under which further ones are fetched. -/
structure StaticFrame where
  document : WebDocument
  agent : String
deriving DecidableEq, Repr

namespace StaticPage

variable {ν : Type}

/-- The name under which pages are fetched if the site does not ask for another. -/
def agentName : String :=
  "Mozilla/5.0 (X11; Linux x86_64) AppleWebKit/537.36 (KHTML, like Gecko) ArgosBot/0.1"

/-- How long a fetch may take, in milliseconds. -/
def limitMs : Nat := 30000

/-- What keeps a document from being fetched. -/
def failureOf (address : String) : FetchFault → Failure
  | .late _ => .networkFailed s!"timed out fetching {address}"
  | fault => .networkFailed s!"{address}: {fault.message}"

/-- The document that a reply brings, if it brings one. -/
def documentOf (address : String) (url : Url) (reply : WebReply) : Outcome WebDocument :=
  if !reply.isSuccess then .error (.networkFailed s!"HTTP {reply.status} for {address}")
  else
    match reply.body with
    | some html => .ok ⟨url, html⟩
    | none => .error (.networkFailed s!"failed to read body: {(FetchFault.unreadable url).message}")

/-- Fetch the document at an address. -/
def fetch (network : Network ν) (limitMs : Nat) (agent address : String) :
    Attempt (Online ν) WebDocument := do
  match ← Attempt.ofActivity (Online.onNetwork (network.ask limitMs agent address).run) with
  | .error fault => throw (failureOf address fault)
  | .ok (url, reply) => Attempt.ofOutcome (documentOf address url reply)

/-- Fetch the document of a frame. -/
def fetchFrame (network : Network ν) (limitMs : Nat) (agent : String) (url : Url) :
    Attempt (Online ν) StaticFrame := do
  return ⟨← fetch network limitMs agent url.text, agent⟩

/-- Fetch the document of the frame that a selector names in a document. -/
def fetchFrameOf (network : Network ν) (limitMs : Nat) (agent : String) (document : WebDocument)
    (selector : String) : Attempt (Online ν) (Option StaticFrame) := do
  match ← Attempt.ofOutcome (Html.frameAddressOf document.html document.url selector) with
  | none => return none
  | some url => return some (← fetchFrame network limitMs agent url)

/-- Fetch frames one after another, and pass over those that cannot be had. -/
def fetchFrames (network : Network ν) (limitMs : Nat) (agent : String) :
    List Url → Activity (Online ν) (List StaticFrame)
  | [] => .done []
  | url :: rest =>
    ((fetchFrame network limitMs agent url).ok?).bind fun frame =>
      (fetchFrames network limitMs agent rest).bind fun frames =>
        .done (frame.toList ++ frames)

/-- The document of a tab, which must have one. -/
def loaded (tab : Nat) : Attempt (Online ν) WebDocument :=
  Attempt.step fun online =>
    (match online.document? tab with
      | some document => .ok document
      | none => .error (.extractionFailed "no document loaded"), online)

/-- What only a browser can do. -/
def needsBrowser {α : Type} (action : String) : Attempt (Online ν) α :=
  throw (.invalid s!"{action} requires the browser engine")

/-- The answers of a frame. -/
def frameDocument (network : Network ν) (limitMs : Nat) (frame : StaticFrame) :
    Document (Online ν) StaticFrame where
  select selector attributeName multiple :=
    Attempt.ofOutcome (Html.selectValues frame.document.html selector attributeName multiple)
  contentFrame selector := fetchFrameOf network limitMs frame.agent frame.document selector
  address := pure (some frame.document.url.text)

/-- The page in a tab. -/
def page (network : Network ν) (limitMs : Nat) (agent : String) (tab : Nat) :
    Page (Online ν) StaticFrame where
  select selector attributeName multiple := do
    let document ← loaded tab
    Attempt.ofOutcome (Html.selectValues document.html selector attributeName multiple)
  contentFrame selector := do
    fetchFrameOf network limitMs agent (← loaded tab) selector
  address := Attempt.step fun online => (.ok ((online.document? tab).map (·.url.text)), online)
  goto address := do
    let document ← fetch network limitMs agent address
    Attempt.ofActivity (Activity.modify (Online.showDocument tab document))
  click _ := needsBrowser "click"
  enter _ _ := needsBrowser "type"
  scroll _ := pure ()
  awaitSelector selector := do
    let document ← loaded tab
    let found ← Attempt.ofOutcome (Html.selectValues document.html selector none false)
    if found.isEmpty then
      throw (.extractionFailed s!"'{selector}' is not present in the static document")
  awaitNavigation := pure ()
  awaitNetworkIdle := pure ()
  screenshot := needsBrowser "screenshot"
  frames := do
    let document ← loaded tab
    Attempt.ofActivity (fetchFrames network limitMs agent
      (Html.frameAddresses document.html document.url))
  memoryUsage := pure none

/-- Open a tab without a document. Answers its number. -/
def openTab : Attempt (Online ν) Nat :=
  Attempt.step fun online => (.ok online.tabs.length, { online with tabs := online.tabs ++ [none] })

/-- The engine over a network. -/
def engine (network : Network ν) (limitMs : Nat := limitMs) : PageEngine (Online ν) StaticFrame where
  launch _ := pure {
    openPage := fun options => do
      let tab ← openTab
      return page network limitMs (options.userAgent.getD agentName) tab
    close := pure () }
  document := frameDocument network limitMs
  awaitLoad _ := pure ()

end StaticPage

end SiteWatch
