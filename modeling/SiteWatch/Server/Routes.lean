/-
# Routes

What can be asked of the server, and the document that says so. A request that asks for a document may
ask for its head alone.
-/

import SiteWatch.Json.Basic
import SiteWatch.Text.Blank

namespace SiteWatch.Server

/-- What a request can be for. -/
inductive Endpoint where
  | scrape
  | cacheStats
  | clearCache
  | startScheduler
  | stopScheduler
  | schedulerStatus
  | sites
  | reloadSites
  | health
  /-- The document that describes the others. -/
  | description
  /-- The way to the viewer of that document. -/
  | viewerEntry
  /-- A file of the viewer. -/
  | viewer (file : String)
deriving DecidableEq, Repr, Inhabited

/-- A way to an endpoint. -/
structure Route where
  method : String
  path : String
  endpoint : Endpoint
deriving DecidableEq, Repr, Inhabited

/-- The routes that the description lists. -/
def routes : List Route :=
  [⟨"POST", "/scrape", .scrape⟩,
   ⟨"GET", "/scrape/cache/stats", .cacheStats⟩,
   ⟨"DELETE", "/scrape/cache", .clearCache⟩,
   ⟨"POST", "/scheduler/start", .startScheduler⟩,
   ⟨"POST", "/scheduler/stop", .stopScheduler⟩,
   ⟨"GET", "/scheduler/status", .schedulerStatus⟩,
   ⟨"GET", "/sites", .sites⟩,
   ⟨"POST", "/sites/reload", .reloadSites⟩,
   ⟨"GET", "/health", .health⟩]

/-- Where the viewer is. -/
def viewerPath : String := "/swagger-ui"

/-- The route that a path belongs to. -/
def routeOf? (path : String) : Option Route :=
  match routes.find? (·.path == path) with
  | some route => some route
  | none =>
    if path = "/api-docs/openapi.json" then some ⟨"GET", path, .description⟩
    else if path = viewerPath then some ⟨"GET", path, .viewerEntry⟩
    else if Text.startsWith path (viewerPath ++ "/") then
      some ⟨"GET", path, .viewer (path.drop (viewerPath.length + 1)).toString⟩
    else none

/-- Whether a route is there for a method. -/
def Route.serves (route : Route) (method : String) : Bool :=
  method == route.method || (method == "HEAD" && route.method == "GET")

/-- The files of the viewer. -/
def viewerFiles : List String :=
  ["index.html", "index.css", "oauth2-redirect.html", "favicon-16x16.png", "favicon-32x32.png",
   "swagger-initializer.js", "swagger-ui.css", "swagger-ui.js", "swagger-ui-bundle.js",
   "swagger-ui-es-bundle.js", "swagger-ui-es-bundle-core.js", "swagger-ui-standalone-preset.js"]

/-- The types of documents that are sent and received. -/
def documentTypes : List String :=
  ["ScrapeRequest", "ScrapeOptionsBody", "ScrapeResponse", "CacheStatsResponse",
   "ClearCacheResponse", "SchedulerStartResponse", "SchedulerStopResponse",
   "SchedulerStatusResponse", "SiteSummary", "SiteListResponse", "ReloadResponse",
   "HealthResponse", "ErrorResponse"]

/-- The version of the server. -/
def version : String := "0.1.0"

/-- The description of the server. -/
def description : Json :=
  .object [("openapi", .string "3.1.0"),
    ("info", .object [("title", .string "Argos API"), ("version", .string version)]),
    ("paths", .object (routes.map fun route =>
      (route.path, .object [(Text.asciiLower route.method, .object [])]))),
    ("components", .object [("schemas",
      .object (documentTypes.map fun name => (name, .object [("type", .string "object")])))])]

end SiteWatch.Server
