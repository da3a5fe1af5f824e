/-
# Scrape requests

One scrape of one page: its address, the instructions and extractors that replace those of the
site for this time, and how the scrape is to be done. What a request leaves open is settled for all
scrapes of a service in common. Times are in milliseconds where nothing else is said.
-/

import SiteWatch.Site.Extractor
import SiteWatch.Site.Instruction

namespace SiteWatch

open Json (Reader Record)

/-- How long a result is kept when the request does not say, in milliseconds. -/
def defaultTtlMs : Nat := 300000

/-- What all scrapes of a service have in common. -/
structure ScrapeSettings where
  /-- How long results are kept that do not say. -/
  ttlMs : Nat := defaultTtlMs
  screenshotDir : String := "./data/screenshots"
  /-- The most that is added to the pause before a visit. -/
  jitterMs : Nat := 0
deriving DecidableEq, Repr, Inhabited

/-- How a scrape is to be done. -/
structure ScrapeOptions where
  /-- A kept result may be the answer. -/
  useCache : Bool := true
  /-- How long the result is kept, in seconds. -/
  cacheTtlSecs : Option Nat := none
  screenshot : Bool := false
  includeFrames : Bool := true
  /-- The deadline of the whole scrape, in milliseconds. -/
  timeoutMs : Option Nat := none
deriving DecidableEq, Repr, Inhabited

/-- One scrape of one page. -/
structure ScrapeRequest where
  url : String
  /-- Instructions in place of those of the site. -/
  instructions : Option (List Instruction) := none
  /-- Extractors in place of those of the site. -/
  extractors : Option (List Extractor) := none
  options : ScrapeOptions := {}
deriving DecidableEq, Repr, Inhabited

namespace ScrapeOptions

def toJson (o : ScrapeOptions) : Json :=
  .object [("useCache", .bool o.useCache), ("cacheTtlSecs", .ofOption .ofNat o.cacheTtlSecs),
    ("screenshot", .bool o.screenshot), ("includeFrames", .bool o.includeFrames),
    ("timeoutMs", .ofOption .ofNat o.timeoutMs)]

/-- The options, each with its default. -/
def record : Record ScrapeOptions :=
  (fun useCache cacheTtlSecs screenshot includeFrames timeoutMs =>
      { useCache, cacheTtlSecs, screenshot, includeFrames, timeoutMs : ScrapeOptions })
    <$> Record.defaulted "useCache" true Json.readBool
    <*> Record.optional "cacheTtlSecs" Json.readNat64
    <*> Record.defaulted "screenshot" false Json.readBool
    <*> Record.defaulted "includeFrames" true Json.readBool
    <*> Record.optional "timeoutMs" Json.readNat64

def read : Reader ScrapeOptions := record.read

/-- How long the result is kept, in milliseconds, if the request says. -/
def cacheTtlMs (o : ScrapeOptions) : Option Nat := o.cacheTtlSecs.map (· * 1000)

end ScrapeOptions

namespace ScrapeRequest

/-- A request whose answer must not come from the cache, as scheduled scrapes make them. -/
def withoutCache (request : ScrapeRequest) : ScrapeRequest :=
  { request with options := { request.options with useCache := false } }

def toJson (r : ScrapeRequest) : Json :=
  .object ([("url", .string r.url)]
    ++ Json.member? "instructions" (fun is => .array (is.map Instruction.toJson)) r.instructions
    ++ Json.member? "extractors" (fun es => .array (es.map Extractor.toJson)) r.extractors
    ++ [("options", r.options.toJson)])

/-- The fields of a request. The instructions may also be called actions. -/
def record : Record ScrapeRequest :=
  (fun url instructions extractors options =>
      { url, instructions, extractors, options : ScrapeRequest })
    <$> Record.required "url" Json.readText
    <*> Record.optionalAs ["instructions", "actions"] (Json.readList Instruction.read)
    <*> Record.optional "extractors" (Json.readList Extractor.read)
    <*> Record.defaulted "options" {} ScrapeOptions.read

def read : Reader ScrapeRequest := record.read

end ScrapeRequest

end SiteWatch
