/-
# Answers of the server

What the server answers to a request, and what that does to the scheduler and to the kept results.
Scrapes are limited for each client, by a quota that counts every request to their path. A scrape that
goes wrong is still answered as a result; only what keeps a request from being carried out at all is
answered as a failure.
-/

import SiteWatch.Failure
import SiteWatch.Json.Reader
import SiteWatch.Schedule.Timeline
import SiteWatch.Scrape.Cache
import SiteWatch.Server.Form
import SiteWatch.Server.Messages
import SiteWatch.Server.Quota
import SiteWatch.Server.Routes
import SiteWatch.Site.Source

namespace SiteWatch

/-- A request to the server. -/
structure ApiRequest where
  method : String
  /-- The path, and the query after a question mark. -/
  target : String
  contentType : Option String := none
  body : String := ""
  /-- The address of the client, if it is known. -/
  client : Option String := none
deriving Repr

/-- The status code under which a failure is reported. -/
def Failure.statusCode : Failure → Nat
  | .invalid _ | .malformed _ => 400
  | .configurationMissing _ => 404
  | .policyBlocked _ => 403
  | .timedOut _ => 504
  | .networkFailed _ => 502
  | .cancelled _ => 503
  | _ => 500

/-- What a reply holds. -/
inductive ApiBody where
  | empty
  | text (text : String)
  | json (value : Json)
  /-- A file of the viewer of the server's description. -/
  | file (name : String)
deriving Repr

/-- A reply of the server. -/
structure ApiReply where
  status : Nat := 200
  body : ApiBody := .empty
deriving Repr

/-- What the server works with, over the state `σ` of the world around it. -/
structure ApiServices (σ : Type) where
  quota : Quota
  schedule : ScheduleServices σ
  scrape : ScrapeRequest → Activity σ ScrapeResult
  /-- The kept results, and how to put them back. -/
  cache : σ → Cache
  setCache : Cache → σ → σ
  sites : SiteSource σ
  /-- The time since the server began, in milliseconds. -/
  uptimeMs : σ → Nat := fun _ => 0

/-- The state of the server. -/
structure ApiState (σ : Type) where
  timeline : Timeline σ
  /-- The buckets of clients that have asked for scrapes. -/
  buckets : List (String × Bucket) := []

namespace ApiRequest

/-- The path of a request. -/
def path (request : ApiRequest) : String :=
  String.ofList (request.target.toList.takeWhile fun c => c ≠ '?' && c ≠ '#')

/-- The query of a request; empty if it has none. -/
def query (request : ApiRequest) : String :=
  let rest := (request.target.toList.takeWhile (· ≠ '#')).dropWhile (· ≠ '?')
  String.ofList (rest.drop 1)

end ApiRequest

namespace ApiReply

/-- A reply that is a document. -/
def ofJson (value : Json) : ApiReply := { body := .json value }

/-- A reply that is a line of text. -/
def ofText (status : Nat) (text : String) : ApiReply := ⟨status, .text text⟩

/-- A reply that tells of a failure. -/
def ofFailure (cause : Failure) : ApiReply :=
  ⟨cause.statusCode, .json (.object [("error", .string cause.kind), ("message", .string cause.message)])⟩

/-- A reply as it goes out: to one who asks for the head alone, without its body. -/
def sentTo (request : ApiRequest) (reply : ApiReply) : ApiReply :=
  if request.method = "HEAD" then { reply with body := .empty } else reply

end ApiReply

namespace Server

/-- The largest body that is read, in bytes. -/
def maxBodySize : Nat := 2097152

/-- The scrape that a request asks for, or the reply to one that does not ask well. -/
def scrapeAsked (request : ApiRequest) : Except ApiReply ScrapeRequest :=
  if !request.contentType.any namesJson then
    .error (.ofText 415 "Expected request with \x60Content-Type: application/json\x60")
  else if request.body.utf8ByteSize > maxBodySize then
    .error (.ofText 413 "Failed to buffer the request body: length limit exceeded")
  else
    match Json.read request.body with
    | .error reason => .error (.ofText 400 s!"Failed to parse the request body as JSON: {reason}")
    | .ok tree =>
      match readRequest tree with
      | .error _ =>
        .error (.ofText 422 "Failed to deserialize the JSON body into the target type")
      | .ok asked =>
        if Text.isVoid asked.url then .error (.ofFailure (.invalid "url is required")) else .ok asked

end Server

namespace ApiServices

variable {σ : Type}

/-- Do work while the scheduler goes on; the reply is made of its answer. -/
def perform {α : Type} (services : ApiServices σ) (t : Timeline σ) (work : Activity σ α)
    (reply : α → ApiReply) : Option (ApiReply × Timeline σ) :=
  (t.perform services.schedule work).map fun (value, t) => (reply value, t)

/-- The reply to work that may fail. -/
def replyTo {α : Type} (encode : α → Json) : Outcome α → ApiReply
  | .ok value => .ofJson (encode value)
  | .error cause => .ofFailure cause

/-- Change the kept results. -/
def onCache (services : ApiServices σ) (change : Cache → Cache) (t : Timeline σ) : Timeline σ :=
  t.onWorld fun world => services.setCache (change (services.cache world)) world

/-- The kept results of a state. -/
def cacheOf (services : ApiServices σ) (t : Timeline σ) : Cache :=
  services.cache t.scheduler.around.world

/-- Forget kept results: all, or the one for an address. -/
def clearCache (services : ApiServices σ) (query : String) (t : Timeline σ) :
    ApiReply × Timeline σ :=
  match Server.queryValue "url" query with
  | .error reason => (.ofText 400 reason, t)
  | .ok url =>
    let change (cache : Cache) : Cache :=
      match url with
      | some url => cache.invalidate url
      | none => cache.clear
    (.ofJson (.object (("cleared", .bool true) :: Json.member? "url" .string url)),
      services.onCache change t)

/-- The sites as they are told. -/
def siteList (sites : List Site) : Json :=
  .object [("sites", .array (sites.map Server.siteSummary)), ("total", .ofNat sites.length)]

/-- What is told about the server's health. -/
def health (services : ApiServices σ) (t : Timeline σ) : Json :=
  let world := t.scheduler.around.world
  .object [("status", .string "healthy"), ("version", .string Server.version),
    ("uptimeSecs", .ofNat (services.uptimeMs world / 1000)),
    ("schedulerRunning", .bool (t.scheduler.status services.schedule).running)]

/-- Carry a request out. No answer if work waits that can never end. -/
def serve (services : ApiServices σ) (request : ApiRequest) (t : Timeline σ) :
    Server.Endpoint → Option (ApiReply × Timeline σ)
  | .scrape =>
    match Server.scrapeAsked request with
    | .error reply => some (reply, t)
    | .ok asked => services.perform t (services.scrape asked) fun result =>
      .ofJson (Server.resultBody result)
  | .cacheStats =>
    let now := services.uptimeMs t.scheduler.around.world
    let t := services.onCache (·.sweep now) t
    some (.ofJson (services.cacheOf t).stats, t)
  | .clearCache => some (services.clearCache request.query t)
  | .startScheduler =>
    let (begun, t) := t.start services.schedule
    some (.ofJson (.object [("started", .bool begun), ("running", .bool true)]), t)
  | .stopScheduler =>
    let (report, t) := t.stop services.schedule
    some (.ofJson report.toJson, t)
  | .schedulerStatus => some (.ofJson (t.scheduler.status services.schedule).toJson, t)
  | .sites => services.perform t services.sites.list.run (replyTo siteList)
  | .reloadSites => services.perform t services.sites.reload.run
      (replyTo fun count => .object [("loaded", .ofNat count)])
  | .health => some (.ofJson (services.health t), t)
  | .description => some (.ofJson Server.description, t)
  | .viewerEntry => some ({ status := 303 }, t)
  | .viewer file =>
    let name := if file.isEmpty then "index.html" else file
    some (if Server.viewerFiles.contains name then { body := .file name } else { status := 404 }, t)

/-- Take a token for a client. The reply to a client that has none left, or that is not known. -/
def limit (services : ApiServices σ) (client : Option String) (s : ApiState σ) :
    Except ApiReply (ApiState σ) :=
  match client with
  | none => .error (.ofText 500 "Unable To Extract Key!")
  | some client =>
    let now := services.uptimeMs s.timeline.scheduler.around.world
    let bucket := (s.buckets.lookup client).getD {}
    match services.quota.take? now bucket with
    | none => .error (.ofText 429 "Too Many Requests!")
    | some bucket => .ok { s with
        buckets := (client, bucket) :: s.buckets.filter (·.1 != client) }

/-- The reply of a route to a request. -/
def follow (services : ApiServices σ) (request : ApiRequest) (route : Server.Route)
    (s : ApiState σ) : Option (ApiReply × ApiState σ) :=
  if route.serves request.method then
    (services.serve request s.timeline route.endpoint).map fun (reply, timeline) =>
      (reply, { s with timeline })
  else some ({ status := 405 }, s)

/-- The reply to a request. -/
def answer (services : ApiServices σ) (request : ApiRequest) (s : ApiState σ) :
    Option (ApiReply × ApiState σ) := do
  let (reply, s) ←
    match Server.routeOf? request.path with
    | none => some ({ status := 404 }, s)
    | some route =>
      if route.endpoint = .scrape then
        match services.limit request.client s with
        | .error reply => some (reply, s)
        | .ok s => services.follow request route s
      else services.follow request route s
  return (reply.sentTo request, s)

end ApiServices

end SiteWatch
