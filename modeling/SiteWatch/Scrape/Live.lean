/-
# Live scraping

The service that scrapes what it fetches itself: pages without a browser, robots rules from their
origins, pictures in files.
-/

import SiteWatch.Robots.Policy
import SiteWatch.Scrape.Service
import SiteWatch.Store.Pictures
import SiteWatch.Web.StaticPage

namespace SiteWatch.Online

variable {ν : Type}

/-- The sites in the files of the machine. -/
def siteSource : SiteSource (Online ν) :=
  SiteSource.folder Online.files Online.sites fun sites online => { online with sites }

/-- The service over a network, with pictures in a directory and a limit for each fetch, in
milliseconds. -/
def service (network : Network ν) (screenshotDir : String) (limitMs : Nat := StaticPage.limitMs)
    (sites : SiteSource (Online ν) := siteSource) : ScrapeService (Online ν) StaticFrame where
  engine := StaticPage.engine network limitMs
  robots := Robots.check network
  sites
  album := Album.inFiles screenshotDir Online.files fun files online => { online with files }
  settings := { screenshotDir }
  now := Online.now
  uptimeMs := Online.uptimeMs

end SiteWatch.Online
