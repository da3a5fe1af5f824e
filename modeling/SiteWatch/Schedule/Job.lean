/-
# Jobs

One round of one registered site: its state, its times, what went wrong, what was noted on the way
and a summary. A job is pending when made, then running, and ends in one of three terminal states.
-/

import SiteWatch.Json.Record
import SiteWatch.Text.Case

namespace SiteWatch

open Json (Reader Record)

/-- The state of a job. -/
inductive JobStatus where
  | pending
  | running
  | completed
  | failed
  | cancelled
deriving DecidableEq, Repr, Inhabited

/-- The identifier of a job, a number of 128 bits. -/
structure JobId where
  number : Nat
deriving DecidableEq, Repr, Inhabited

/-- What a job brought, in numbers. -/
structure JobSummary where
  urlsScraped : Nat := 0
  itemsExtracted : Nat := 0
  errorsEncountered : Nat := 0
  newContentFound : Bool := false
  contentHash : Option String := none
deriving DecidableEq, Repr, Inhabited

/-- One round of one registered site. -/
structure Job where
  id : JobId
  siteId : String
  status : JobStatus := .pending
  createdAt : Instant
  startedAt : Option Instant := none
  completedAt : Option Instant := none
  errors : List String := []
  logs : List String := []
  results : Option JobSummary := none
deriving DecidableEq, Repr, Inhabited

namespace JobStatus

/-- The words for the states. -/
def words : List (String × JobStatus) :=
  [("pending", pending), ("running", running), ("completed", completed), ("failed", failed),
   ("cancelled", cancelled)]

def word : JobStatus → String
  | pending => "pending"
  | running => "running"
  | completed => "completed"
  | failed => "failed"
  | cancelled => "cancelled"

/-- A terminal state is never left. -/
def isTerminal : JobStatus → Bool
  | completed | failed | cancelled => true
  | _ => false

/-- The state that a word names in any letter case. -/
def parse (text : String) : Except String JobStatus :=
  match words.lookup (Text.Case.lower text) with
  | some status => .ok status
  | none => .error s!"Unknown job status: {text}"

def read : Reader JobStatus := Json.readChoice words

end JobStatus

namespace JobId

/-- The hexadecimal digits of an identifier. -/
def digits (id : JobId) : List Char :=
  let shown := Nat.toDigits 16 id.number
  List.replicate (32 - shown.length) '0' ++ shown

/-- The text of an identifier: groups of eight, four, four, four and twelve digits. -/
def text (id : JobId) : String :=
  let digits := id.digits
  "-".intercalate ([digits.take 8, (digits.drop 8).take 4, (digits.drop 12).take 4,
    (digits.drop 16).take 4, digits.drop 20].map String.ofList)

/-- The value of a hexadecimal digit. -/
def digit? (c : Char) : Option Nat :=
  if c.isDigit then some (c.toNat - 48)
  else if 'a' ≤ c.toLower ∧ c.toLower ≤ 'f' then some (c.toLower.toNat - 87)
  else none

/-- The number of thirty-two hexadecimal digits. -/
def ofDigits? (digits : List Char) : Option JobId :=
  if digits.length = 32 then
    (digits.foldlM (fun n c => (digit? c).map (n * 16 + ·)) 0).map JobId.mk
  else none

/-- The number of digits in groups. -/
def ofGroups? (text : List Char) : Option JobId :=
  let isHyphen := fun place => text[place]? = some '-'
  if text.length = 36 ∧ isHyphen 8 ∧ isHyphen 13 ∧ isHyphen 18 ∧ isHyphen 23 then
    ofDigits? (text.filter (· ≠ '-'))
  else none

/-- The identifier that a text spells: digits in groups or in one row, in braces or after
`urn:uuid:` only in groups. -/
def parse? (text : List Char) : Option JobId :=
  match text with
  | '\x7b' :: rest => if rest.getLast? = some '\x7d' then ofGroups? rest.dropLast else none
  | _ =>
    if "urn:uuid:".toList.isPrefixOf text then ofGroups? (text.drop 9)
    else (ofGroups? text).or (ofDigits? text)

def read : Reader JobId
  | .string text =>
    match parse? text.toList with
    | some id => .ok id
    | none => .error (.format "invalid identifier")
  | other => Json.wrongType "an identifier" other

end JobId

namespace JobSummary

def toJson (s : JobSummary) : Json :=
  .object [("urlsScraped", .ofNat s.urlsScraped), ("itemsExtracted", .ofNat s.itemsExtracted),
    ("errorsEncountered", .ofNat s.errorsEncountered),
    ("newContentFound", .bool s.newContentFound),
    ("contentHash", .ofOption .string s.contentHash)]

def record : Record JobSummary :=
  (fun urlsScraped itemsExtracted errorsEncountered newContentFound contentHash =>
      { urlsScraped, itemsExtracted, errorsEncountered, newContentFound,
        contentHash : JobSummary })
    <$> Record.required "urlsScraped" Json.readCount
    <*> Record.required "itemsExtracted" Json.readCount
    <*> Record.required "errorsEncountered" Json.readCount
    <*> Record.required "newContentFound" Json.readBool
    <*> Record.nullable "contentHash" Json.readText

def read : Reader JobSummary := record.read

end JobSummary

namespace Job

/-- A new job. -/
def create (id : JobId) (siteId : String) (now : Instant) : Job :=
  { id, siteId, createdAt := now }

def start (now : Instant) (job : Job) : Job :=
  { job with status := .running, startedAt := some now }

def finish (now : Instant) (status : JobStatus) (job : Job) : Job :=
  { job with status, completedAt := some now }

/-- Note a line, with the time in front. -/
def note (now : Instant) (line : String) (job : Job) : Job :=
  { job with logs := job.logs ++ [now.offsetText ++ " " ++ line] }

def toJson (j : Job) : Json :=
  .object [("id", .string j.id.text), ("siteId", .string j.siteId),
    ("status", .string j.status.word), ("createdAt", .string j.createdAt.text),
    ("startedAt", .ofOption (fun t => .string t.text) j.startedAt),
    ("completedAt", .ofOption (fun t => .string t.text) j.completedAt),
    ("errors", .array (j.errors.map .string)), ("logs", .array (j.logs.map .string)),
    ("results", .ofOption JobSummary.toJson j.results)]

def record : Record Job :=
  (fun id siteId status createdAt startedAt completedAt errors logs results =>
      { id, siteId, status, createdAt, startedAt, completedAt, errors, logs, results : Job })
    <$> Record.required "id" JobId.read
    <*> Record.required "siteId" Json.readText
    <*> Record.required "status" JobStatus.read
    <*> Record.required "createdAt" Json.readInstant
    <*> Record.nullable "startedAt" Json.readInstant
    <*> Record.nullable "completedAt" Json.readInstant
    <*> Record.required "errors" (Json.readList Json.readText)
    <*> Record.required "logs" (Json.readList Json.readText)
    <*> Record.nullable "results" JobSummary.read

def read : Reader Job := record.read

end Job

end SiteWatch
