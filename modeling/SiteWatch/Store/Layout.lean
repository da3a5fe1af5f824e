/-
# Where files live

The directory of everything that is written, and the directory of the site documents.
-/

import SiteWatch.Environment
import SiteWatch.Text.FileName

namespace SiteWatch

/-- The directories of the program. -/
structure StoreLayout where
  dataDir : String := "./data"
  sitesDir : String := "./sites"
deriving DecidableEq, Repr, Inhabited

namespace StoreLayout

/-- The directories that the environment sets. -/
def ofEnvironment (env : Environment) : Outcome StoreLayout := do
  let dataDir ← env.directoryOr "ARGOS_DATA_DIR" "./data"
  let sitesDir ← env.directoryOr "ARGOS_SITES_DIR" "./sites"
  return { dataDir, sitesDir }

def registrationsFile (layout : StoreLayout) : String :=
  Text.joinPath layout.dataDir "registrations.json"

def resultsDir (layout : StoreLayout) : String := Text.joinPath layout.dataDir "results"

def screenshotsDir (layout : StoreLayout) : String := Text.joinPath layout.dataDir "screenshots"

end StoreLayout

end SiteWatch
