/-
# Being online

What a scraper has around it when it works with fetched documents: the network, the files of the
machine, the documents in its open tabs, the site documents it has read and the robots rules it knows.
-/

import SiteWatch.Robots.Fetch
import SiteWatch.Site.Folder
import SiteWatch.Web.Network

namespace SiteWatch

/-- A fetched document and the address that it came from in the end. -/
structure WebDocument where
  url : Url
  html : String
deriving DecidableEq, Repr

/-- Robots rules and when they were fetched, in milliseconds of the service. -/
structure KnownRules where
  fetched : Robots.Fetched
  fetchedAtMs : Nat
deriving DecidableEq, Repr

/-- The surroundings of a scraper that is online, over the state `ν` of the network. -/
structure Online (ν : Type) where
  network : ν
  files : Files := {}
  /-- The document of each tab, if it has one yet. -/
  tabs : List (Option WebDocument) := []
  /-- The robots rules that are known, by origin. -/
  rules : List (String × KnownRules) := []
  sites : SiteFolder := { directory := "" }
  /-- The time of day. -/
  now : Instant := ⟨0, 0⟩
  /-- The time since the service began, in milliseconds. -/
  uptimeMs : Nat := 0

namespace Online

variable {ν α : Type}

/-- Work on the network alone. -/
def onNetwork (work : Activity ν α) : Activity (Online ν) α :=
  Activity.within Online.network (fun network online => { online with network }) work

/-- The document of a tab. -/
def document? (online : Online ν) (tab : Nat) : Option WebDocument := (online.tabs[tab]?).join

/-- Show a document in a tab. -/
def showDocument (tab : Nat) (document : WebDocument) (online : Online ν) : Online ν :=
  { online with tabs := online.tabs.set tab (some document) }

end Online

end SiteWatch
