/-
# Site documents

Reading a site from the text of a JSON document. The document is held against a schema first, which
reports everything wrong with its shape at once; then its fields are read, which finds numbers out
of range and what an action lacks; and last the rules for sites are checked.
-/

import SiteWatch.Json.Reader
import SiteWatch.Json.Schema
import SiteWatch.Site.Validation

namespace SiteWatch.Site

open Json (Schema)

/-- The shape of an instruction. -/
def instructionSchema : Schema :=
  .objectOf ["step", "action", "description"]
    [("action", .oneOf
        ["navigate", "click", "wait", "type", "scroll", "extract", "screenshot"]),
     ("description", .typed [.string]),
     ("optional", .typed [.boolean]),
     ("selector", .typed [.string]),
     ("step", .integerFrom 0),
     ("timeoutMs", .integerFrom 0),
     ("value", .typed [.string]),
     ("waitFor", .oneOf ["navigation", "selector", "timeout", "networkidle"])]

/-- The shape of an extractor. -/
def extractorSchema : Schema :=
  .objectOf ["name", "selector"]
    [("attribute", .typed [.string]),
     ("multiple", .typed [.boolean]),
     ("name", .typed [.string]),
     ("required", .typed [.boolean]),
     ("selector", .typed [.string]),
     ("transform", .oneOf
        ["trim", "lowercase", "uppercase", "collapseWhitespace", "number", "absoluteUrl"])]

/-- The shape of the page options. -/
def optionsSchema : Schema :=
  .objectOf []
    [("headless", .typed [.boolean]),
     ("iframeTimeoutMs", .integerFrom 0),
     ("politenessDelayMs", .integerFrom 0),
     ("retries", .integerFrom 0),
     ("screenshotOnError", .typed [.boolean]),
     ("timeoutMs", .integerFrom 1),
     ("userAgent", .typed [.string, .null]),
     ("viewport", .objectOf ["width", "height"]
        [("height", .integerFrom 1), ("width", .integerFrom 1)]),
     ("waitForIframes", .typed [.boolean])]

/-- The shape of a site document. -/
def schema : Schema :=
  .objectOf ["id", "domain"]
    [("domain", .textOf 1),
     ("enabled", .typed [.boolean]),
     ("extractors", .listOf extractorSchema),
     ("id", .textOf 1),
     ("instructions", .listOf instructionSchema),
     ("name", .typed [.string]),
     ("options", optionsSchema),
     ("urlPatterns", .listOf (.typed [.string])),
     ("version", .typed [.string])]

/-- The site that a document holds. -/
def ofDocument (document : Json) : Outcome Site :=
  let problems := schema.problems document
  if ¬ problems.isEmpty then .error (.invalid ("; ".intercalate problems))
  else match Site.read document with
    | .error mismatch => .error (.invalid mismatch.message)
    | .ok site =>
      match site.validate with
      | .error failure => .error failure
      | .ok () => .ok site

/-- The site that the text of a document holds. -/
def parse (text : String) : Outcome Site :=
  match Json.readFree text with
  | .error reason => .error (.invalid s!"invalid JSON: {reason}")
  | .ok document => ofDocument document

end SiteWatch.Site
