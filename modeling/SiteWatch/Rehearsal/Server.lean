/-
# Rehearsed servers

A server whose pages, sites, registrations, results and notices are those of a rehearsal: scrapes that
are asked for and those of the scheduler share one service.
-/

import SiteWatch.Rehearsal.Schedule
import SiteWatch.Server.Api

namespace SiteWatch.Rehearsal

/-- What a rehearsed server works with. -/
def Backstage.api (quota : Quota) (schedule : ScheduleServices Backstage)
    (service : ScrapeService Stage FrameScript) (sites : List Site) : ApiServices Backstage where
  quota
  schedule
  scrape := Backstage.scrapeBy service
  cache b := b.scraping.cache
  setCache cache b := { b with scraping := { b.scraping with cache } }
  sites := SiteSource.fixed sites

end SiteWatch.Rehearsal
