/-
# Stored results

A result as it is kept in a file: its own members, the site it is of, and a block about the saving.
-/

import SiteWatch.Scrape.Result

namespace SiteWatch

open Json (Reader Record)

/-- The block about the saving. -/
structure SaveInfo where
  filename : String
  /-- The bytes of the indented result without this block. -/
  fileSize : Nat
  savedAt : Instant
deriving DecidableEq, Repr, Inhabited

/-- A result as it is kept in a file. -/
structure StoredResult where
  siteId : String
  result : ScrapeResult
  saveInfo : SaveInfo
deriving BEq, Repr, Inhabited

namespace SaveInfo

def toJson (info : SaveInfo) : Json :=
  .object [("filename", .string info.filename), ("fileSize", .ofNat info.fileSize),
    ("savedAt", .string info.savedAt.text)]

def record : Record SaveInfo :=
  (fun filename fileSize savedAt => { filename, fileSize, savedAt : SaveInfo })
    <$> Record.required "filename" Json.readText
    <*> Record.required "fileSize" Json.readNat64
    <*> Record.required "savedAt" Json.readInstant

def read : Reader SaveInfo := record.read

end SaveInfo

namespace StoredResult

def toJson (stored : StoredResult) : Json :=
  .object ([("siteId", .string stored.siteId)] ++ stored.result.members
    ++ [("saveMetadata", stored.saveInfo.toJson)])

/-- The members that a file adds to those of the result. -/
def record : Record (ScrapeResult → StoredResult) :=
  (fun siteId saveInfo result => { siteId, result, saveInfo : StoredResult })
    <$> Record.required "siteId" Json.readText
    <*> Record.required "saveMetadata" SaveInfo.read

/-- Read a stored result from an object. -/
def read : Reader StoredResult
  | .object members => do
    let build ← record.readMembers members
    let result ← ScrapeResult.record.readMembers (record.others members)
    return build result
  | other => Json.wrongType "a map" other

end StoredResult

end SiteWatch
