/-
# Fields of a document

The extractors of a site applied to a document, be it a page or a frame. A required field without a
value fails the whole pass; a field that is not required and has no value is left out.
-/

import SiteWatch.Extraction.Value
import SiteWatch.Web.Page

namespace SiteWatch

namespace Extractor

variable {σ F : Type}

/-- What the texts found for a field are worth: all of them, or the first that is worth anything. -/
def value? (e : Extractor) (base : Option String) (found : List String) : Option Json :=
  let values := found.filterMap (Transform.valueOf? e.transform base)
  if e.multiple then
    if values.isEmpty then none else some (.array values)
  else values.head?

/-- The failure of a required field whose query broke. -/
def queryFailure (e : Extractor) (cause : Failure) : Failure :=
  .extractionFailed s!"required field '{e.name}' ({e.selector}): {cause.message}"

/-- The failure of a required field without a value. -/
def absence (e : Extractor) : Failure :=
  .extractionFailed s!"required field '{e.name}' matched nothing for selector '{e.selector}'"

/-- What a query for a field comes to: a value, nothing, or the failure of a required field. -/
def settle (e : Extractor) (base : Option String) : Outcome (List String) → Outcome (Option Json)
  | .error cause => if e.required then .error (e.queryFailure cause) else .ok none
  | .ok found =>
    match e.value? base found with
    | some value => .ok (some value)
    | none => if e.required then .error e.absence else .ok none

/-- Ask a document for a field. -/
def query (e : Extractor) (document : Document σ F) (base : Option String) :
    Attempt σ (Option Json) :=
  ExceptT.mk ((document.select e.selector e.attributeName e.multiple).run.bind fun found =>
    .done (e.settle base found))

end Extractor

namespace Document

variable {σ F : Type}

/-- Ask a document for fields, one after another, and add those with a value to `fields`. -/
def extractInto (document : Document σ F) (base : Option String) (fields : Members) :
    List Extractor → Attempt σ Members
  | [] => pure fields
  | e :: rest => do
    match ← e.query document base with
    | some value => document.extractInto base (Members.insert e.name value fields) rest
    | none => document.extractInto base fields rest

/-- The fields of a document. -/
def extract (document : Document σ F) (extractors : List Extractor) : Attempt σ Members := do
  let address ← Attempt.ofActivity document.address.ok?
  document.extractInto address.join [] extractors

end Document

end SiteWatch
