/-
# Messages of the server

The bodies of requests and responses. A request may leave every option to its default by leaving it
out or setting it to `null`. A result is answered in the shape in which it is kept.
-/

import SiteWatch.Scrape.Request
import SiteWatch.Scrape.Result
import SiteWatch.Site.Basic

namespace SiteWatch.Server

open Json (Reader Record)

/-- The options of a request as its body has them. -/
structure OptionsBody where
  useCache : Option Bool := none
  cacheTtlSecs : Option Nat := none
  screenshot : Option Bool := none
  includeFrames : Option Bool := none
  timeoutMs : Option Nat := none
deriving DecidableEq, Repr, Inhabited

namespace OptionsBody

def record : Record OptionsBody :=
  (fun useCache cacheTtlSecs screenshot includeFrames timeoutMs =>
      { useCache, cacheTtlSecs, screenshot, includeFrames, timeoutMs : OptionsBody })
    <$> Record.nullable "useCache" Json.readBool
    <*> Record.nullable "cacheTtlSecs" Json.readNat64
    <*> Record.nullable "screenshot" Json.readBool
    <*> Record.nullable "includeFrames" Json.readBool
    <*> Record.nullable "timeoutMs" Json.readNat64

def read : Reader OptionsBody := record.read

/-- The options that are meant: one that is left out has its default. -/
def options (body : OptionsBody) : ScrapeOptions :=
  let standard : ScrapeOptions := {}
  { useCache := body.useCache.getD standard.useCache
    cacheTtlSecs := body.cacheTtlSecs
    screenshot := body.screenshot.getD standard.screenshot
    includeFrames := body.includeFrames.getD standard.includeFrames
    timeoutMs := body.timeoutMs }

end OptionsBody

/-- A request as its body has it. -/
structure RequestBody where
  url : String
  instructions : Option (List Instruction) := none
  extractors : Option (List Extractor) := none
  options : OptionsBody := {}
deriving DecidableEq, Repr, Inhabited

namespace RequestBody

/-- The fields of a request's body. The instructions may also be called actions. -/
def record : Record RequestBody :=
  (fun url instructions extractors options =>
      { url, instructions, extractors, options : RequestBody })
    <$> Record.required "url" Json.readText
    <*> Record.optionalAs ["instructions", "actions"] (Json.readList Instruction.read)
    <*> Record.optional "extractors" (Json.readList Extractor.read)
    <*> Record.defaulted "options" {} OptionsBody.read

def read : Reader RequestBody := record.read

/-- The scrape that is asked for. -/
def request (body : RequestBody) : ScrapeRequest where
  url := body.url
  instructions := body.instructions
  extractors := body.extractors
  options := body.options.options

end RequestBody

/-- The scrape that the body of a request asks for. -/
def readRequest : Reader ScrapeRequest := fun value =>
  (RequestBody.read value).map RequestBody.request

/-- A result as the body of a response has it: the fields and the notes are free data by then. -/
structure ResultBody where
  success : Bool
  url : String
  data : Json
  metadata : Json
  errors : List String
  errorKind : Option String
  timestamp : Instant

namespace ResultBody

/-- What is answered of a result. The members of its notes are sorted. -/
def ofResult (result : ScrapeResult) : ResultBody where
  success := result.success
  url := result.url
  data := .object result.data
  metadata := result.metadata.toJson.settle
  errors := result.errors
  errorKind := result.errorKind
  timestamp := result.timestamp

def toJson (body : ResultBody) : Json :=
  .object ([("success", .bool body.success), ("url", .string body.url), ("data", body.data),
      ("metadata", body.metadata), ("errors", .array (body.errors.map .string))]
    ++ Json.member? "errorKind" .string body.errorKind
    ++ [("timestamp", .string body.timestamp.text)])

end ResultBody

/-- A result as the body of a response. -/
def resultBody (result : ScrapeResult) : Json := (ResultBody.ofResult result).toJson

/-- What is told about a site. -/
def siteSummary (site : Site) : Json :=
  .object [("id", .string site.id), ("name", .string site.name), ("domain", .string site.domain),
    ("enabled", .bool site.enabled), ("version", .string site.version),
    ("instructionCount", .ofNat site.instructions.length),
    ("extractorCount", .ofNat site.extractors.length)]

end SiteWatch.Server
