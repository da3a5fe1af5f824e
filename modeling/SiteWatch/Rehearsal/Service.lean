/-
# Rehearsed scraping

A scrape service whose pages, robots rules and sites are given.
-/

import SiteWatch.Rehearsal.Page
import SiteWatch.Scrape.Service

namespace SiteWatch.Rehearsal

/-- Robots rules with one answer to every question; the questions are noted. -/
def robots (status : RobotsStatus) (url : String) : Activity Stage RobotsStatus :=
  Activity.step fun stage => (status, { stage with asked := stage.asked ++ [url] })

/-- A service at which only the pages go wrong, at a time of day that stands still. -/
def service (script : PageScript) (status : RobotsStatus) (sites : List Site) (directory : String)
    (now : Instant) : ScrapeService Stage FrameScript where
  engine := script.engine
  robots := robots status
  sites := SiteSource.fixed sites
  album := album directory
  now _ := now

end SiteWatch.Rehearsal
