/-
# Pages

What the library asks of an engine that opens pages. A document answers queries; a page is a document
that can also be moved and acted on; frames are documents embedded in others; a browser opens pages
until it is closed. Every call takes time and may fail, and deadlines are set by the caller.
-/

import SiteWatch.Activity
import SiteWatch.Site.Options

namespace SiteWatch

/-- What a document answers, over a state `σ` and with frames `F`. -/
structure Document (σ F : Type) where
  /-- The texts, or the values of an attribute, of the elements that a selector names: of the first
  one, or of all. That nothing is named is no failure. -/
  select : (selector : String) → (attributeName : Option String) → (multiple : Bool) →
    Attempt σ (List String)
  /-- The document in the frame that a selector names. -/
  contentFrame : (selector : String) → Attempt σ (Option F)
  /-- The address of the document. -/
  address : Attempt σ (Option String)

/-- What can be done with a page. -/
structure Page (σ F : Type) extends Document σ F where
  goto : (url : String) → Attempt σ Unit
  click : (selector : String) → Attempt σ Unit
  enter : (selector text : String) → Attempt σ Unit
  /-- Bring an element into view, or go to the end of the document. -/
  scroll : (selector : Option String) → Attempt σ Unit
  awaitSelector : (selector : String) → Attempt σ Unit
  awaitNavigation : Attempt σ Unit
  awaitNetworkIdle : Attempt σ Unit
  /-- A picture of the page, as the bytes of a file. -/
  screenshot : Attempt σ ByteArray
  /-- The frames of the page, in the order in which they stand. -/
  frames : Attempt σ (List F)
  memoryUsage : Attempt σ (Option Nat)

/-- A browser that runs. -/
structure Browser (σ F : Type) where
  openPage : PageOptions → Attempt σ (Page σ F)
  close : Attempt σ Unit

/-- What opens pages. -/
structure PageEngine (σ F : Type) where
  launch : PageOptions → Attempt σ (Browser σ F)
  /-- The document in a frame. -/
  document : F → Document σ F
  /-- Wait until the document of a frame is loaded. -/
  awaitLoad : F → Attempt σ Unit

/-- A directory that pictures of pages are saved in. -/
structure Album (σ : Type) where
  directory : String
  /-- Save a picture under a file name. -/
  save : (file : String) → ByteArray → σ → Outcome Unit × σ

end SiteWatch
