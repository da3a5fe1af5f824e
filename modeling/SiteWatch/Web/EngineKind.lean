/-
# Kinds of engines

Pages are opened either by a browser or by plain fetches. Only the latter is built in.
-/

import SiteWatch.Failure
import SiteWatch.Text.Blank

namespace SiteWatch

/-- What opens pages. -/
inductive EngineKind where
  | browser
  | http
deriving DecidableEq, Repr, Inhabited

namespace EngineKind

/-- The name of a kind. -/
def name : EngineKind → String
  | browser => "Browser"
  | http => "Http"

/-- The kind that a text names. -/
def parse (text : String) : Outcome EngineKind :=
  let word := Text.asciiLower (Text.trim text)
  if word = "browser" ∨ word = "chromium" then .ok browser
  else if word = "http" then .ok http
  else .error (.misconfigured s!"unknown engine '{word}' (expected 'browser' or 'http')")

/-- Check that an engine of a kind can be set up. -/
def requireBuiltIn : EngineKind → Outcome Unit
  | http => .ok ()
  | browser => .error (.misconfigured
      "the browser engine is not compiled in (enable the 'browser' feature)")

end EngineKind

end SiteWatch
