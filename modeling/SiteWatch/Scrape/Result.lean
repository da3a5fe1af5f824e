/-
# Scrape results

What one scrape brought: the fields extracted, or the failure, and notes on how the scrape went.
-/

import SiteWatch.Failure
import SiteWatch.Json.Record
import SiteWatch.Scrape.Verdict

namespace SiteWatch

open Json (Reader Record)

/-- Notes on how a scrape went. -/
structure ScrapeMetadata where
  processingTimeMs : Nat := 0
  instructionsExecuted : Nat := 0
  extractorsRun : Nat := 0
  framesProcessed : Nat := 0
  cacheUsed : Bool := false
  /-- The address of the page in the end. -/
  finalUrl : Option String := none
  memoryUsageBytes : Option Nat := none
  robotsTxtChecked : Bool := false
  robotsTxtStatus : Option RobotsStatus := none
  siteId : Option String := none
  /-- Where the picture of the page was saved. -/
  screenshot : Option String := none
deriving DecidableEq, Repr, Inhabited

/-- What one scrape brought. -/
structure ScrapeResult where
  success : Bool
  url : String
  data : Members
  metadata : ScrapeMetadata
  errors : List String := []
  errorKind : Option String := none
  timestamp : Instant
deriving BEq, Repr, Inhabited

namespace ScrapeMetadata

def toJson (m : ScrapeMetadata) : Json :=
  .object ([("processingTimeMs", .ofNat m.processingTimeMs),
      ("instructionsExecuted", .ofNat m.instructionsExecuted),
      ("extractorsRun", .ofNat m.extractorsRun), ("framesProcessed", .ofNat m.framesProcessed),
      ("cacheUsed", .bool m.cacheUsed)]
    ++ Json.member? "finalUrl" .string m.finalUrl
    ++ Json.member? "memoryUsageBytes" .ofNat m.memoryUsageBytes
    ++ [("robotsTxtChecked", .bool m.robotsTxtChecked)]
    ++ Json.member? "robotsTxtStatus" (fun status => .string status.word) m.robotsTxtStatus
    ++ Json.member? "siteId" .string m.siteId
    ++ Json.member? "screenshot" .string m.screenshot)

/-- The notes; counts and flags must be there. -/
def record : Record ScrapeMetadata :=
  (fun processingTimeMs instructionsExecuted extractorsRun framesProcessed cacheUsed finalUrl
      memoryUsageBytes robotsTxtChecked robotsTxtStatus siteId screenshot =>
      { processingTimeMs, instructionsExecuted, extractorsRun, framesProcessed, cacheUsed,
        finalUrl, memoryUsageBytes, robotsTxtChecked, robotsTxtStatus, siteId,
        screenshot : ScrapeMetadata })
    <$> Record.required "processingTimeMs" Json.readNat64
    <*> Record.required "instructionsExecuted" Json.readCount
    <*> Record.required "extractorsRun" Json.readCount
    <*> Record.required "framesProcessed" Json.readCount
    <*> Record.required "cacheUsed" Json.readBool
    <*> Record.optional "finalUrl" Json.readText
    <*> Record.optional "memoryUsageBytes" Json.readNat64
    <*> Record.required "robotsTxtChecked" Json.readBool
    <*> Record.optional "robotsTxtStatus" RobotsStatus.read
    <*> Record.optional "siteId" Json.readText
    <*> Record.optional "screenshot" Json.readText

def read : Reader ScrapeMetadata := record.read

end ScrapeMetadata

namespace ScrapeResult

/-- The result of a scrape that went well. -/
def succeeded (url : String) (data : Members) (metadata : ScrapeMetadata) (timestamp : Instant) :
    ScrapeResult :=
  { success := true, url, data, metadata, timestamp }

/-- The result of a scrape that failed. -/
def failed (url : String) (failure : Failure) (metadata : ScrapeMetadata) (timestamp : Instant) :
    ScrapeResult :=
  { success := false, url, data := [], metadata, errors := [failure.message],
    errorKind := some failure.kind, timestamp }

/-- The number of pieces of content in the extracted fields. -/
def itemCount (result : ScrapeResult) : Nat := Json.itemCount (.object result.data)

/-- The members of a result. -/
def members (r : ScrapeResult) : Members :=
  [("success", .bool r.success), ("url", .string r.url), ("data", .object r.data),
    ("metadata", r.metadata.toJson), ("errors", .array (r.errors.map .string))]
    ++ Json.member? "errorKind" .string r.errorKind
    ++ [("timestamp", .string r.timestamp.text)]

def toJson (r : ScrapeResult) : Json := .object r.members

/-- The fields of a result. -/
def record : Record ScrapeResult :=
  (fun success url data metadata errors errorKind timestamp =>
      { success, url, data, metadata, errors, errorKind, timestamp : ScrapeResult })
    <$> Record.required "success" Json.readBool
    <*> Record.required "url" Json.readText
    <*> Record.required "data" Json.readMembers?
    <*> Record.required "metadata" ScrapeMetadata.read
    <*> Record.defaulted "errors" [] (Json.readList Json.readText)
    <*> Record.optional "errorKind" Json.readText
    <*> Record.required "timestamp" Json.readInstant

def read : Reader ScrapeResult := record.read

end ScrapeResult

end SiteWatch
