/-
# Page options

How a page of a site is opened and treated: the engine's window and user agent, the deadlines, the
pause before every visit, and whether pictures of failures are taken and embedded frames read.
-/

import SiteWatch.Json.Record

namespace SiteWatch

open Json (Reader Record)

/-- The size of the window. -/
structure Viewport where
  width : Nat := 1920
  height : Nat := 1080
deriving DecidableEq, Repr, Inhabited

/-- How a page of a site is opened and treated. -/
structure PageOptions where
  headless : Bool := true
  userAgent : Option String := none
  viewport : Viewport := {}
  retries : Nat := 3
  timeoutMs : Nat := 30000
  politenessDelayMs : Nat := 1000
  screenshotOnError : Bool := false
  waitForIframes : Bool := true
  iframeTimeoutMs : Nat := 5000
deriving DecidableEq, Repr, Inhabited

namespace Viewport

def toJson (v : Viewport) : Json :=
  .object [("width", .ofNat v.width), ("height", .ofNat v.height)]

/-- Both sides of a window must be given. -/
def record : Record Viewport :=
  (fun width height => { width, height : Viewport })
    <$> Record.required "width" Json.readNat32
    <*> Record.required "height" Json.readNat32

def read : Reader Viewport := record.read

end Viewport

namespace PageOptions

/-- Options as JSON; an absent user agent is written as `null`. -/
def toJson (o : PageOptions) : Json :=
  .object [("headless", .bool o.headless), ("userAgent", .ofOption .string o.userAgent),
    ("viewport", o.viewport.toJson), ("retries", .ofNat o.retries),
    ("timeoutMs", .ofNat o.timeoutMs), ("politenessDelayMs", .ofNat o.politenessDelayMs),
    ("screenshotOnError", .bool o.screenshotOnError), ("waitForIframes", .bool o.waitForIframes),
    ("iframeTimeoutMs", .ofNat o.iframeTimeoutMs)]

/-- The options, each with its default. -/
def record : Record PageOptions :=
  (fun headless userAgent viewport retries timeoutMs politenessDelayMs screenshotOnError
      waitForIframes iframeTimeoutMs =>
      { headless, userAgent, viewport, retries, timeoutMs, politenessDelayMs, screenshotOnError,
        waitForIframes, iframeTimeoutMs : PageOptions })
    <$> Record.defaulted "headless" true Json.readBool
    <*> Record.optional "userAgent" Json.readText
    <*> Record.defaulted "viewport" {} Viewport.read
    <*> Record.defaulted "retries" 3 Json.readNat32
    <*> Record.defaulted "timeoutMs" 30000 Json.readNat64
    <*> Record.defaulted "politenessDelayMs" 1000 Json.readNat64
    <*> Record.defaulted "screenshotOnError" false Json.readBool
    <*> Record.defaulted "waitForIframes" true Json.readBool
    <*> Record.defaulted "iframeTimeoutMs" 5000 Json.readNat64

def read : Reader PageOptions := record.read

end PageOptions

end SiteWatch
