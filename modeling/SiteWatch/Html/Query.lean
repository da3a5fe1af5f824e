/-
# Queries

What is taken from a document: the texts or attributes of the elements that a selector picks out,
and the addresses of the documents embedded in it.
-/

import SiteWatch.Css.Matching
import SiteWatch.Failure
import SiteWatch.Url.Parse

namespace SiteWatch.Html

/-- The alternatives of a selector, or the failure of a text that is none. -/
def readSelector (selector : String) : Outcome (List Css.Complex) :=
  match Css.read? selector with
  | some selectors => .ok selectors
  | none => .error (.extractionFailed s!"invalid selector '{selector}': unreadable")

/-- What is taken from an element: an attribute, empty if it has none, or its text. -/
def valueOf (tree : Tree) (attributeName : Option String) (n : Nat) : String :=
  match attributeName with
  | some name => (tree.attribute? n name).getD ""
  | none => tree.text n

/-- What a selector finds in a document: of the first element, or of all. -/
def selectValues (document selector : String) (attributeName : Option String) (multiple : Bool) :
    Outcome (List String) := do
  let selectors ← readSelector selector
  let tree := parse document
  let found := Css.select tree selectors
  return (if multiple then found else found.take 1).map (valueOf tree attributeName)

/-- The address of an embedded document, if it can be fetched. -/
def frameAddress? (base : Url) (source : String) : Option Url :=
  match base.join (Text.trim source) with
  | .ok url => if url.isWeb then some url else none
  | .error _ => none

/-- The selector of frames that name a document. -/
def framesWithSource : List Css.Complex :=
  [.last [.named "iframe", .hasAttribute .none "src" .present "" .exact]]

/-- The addresses of the documents embedded in a document. -/
def frameAddresses (document : String) (base : Url) : List Url :=
  let tree := parse document
  ((Css.select tree framesWithSource).filterMap (tree.attribute? · "src")).filterMap
    (frameAddress? base)

/-- The address of the document embedded by the first element that a selector finds, if that is a
frame that names one. -/
def frameAddressOf (document : String) (base : Url) (selector : String) : Outcome (Option Url) := do
  let selectors ← readSelector selector
  let tree := parse document
  return do
    let n ← (Css.select tree selectors).head?
    let element ← tree.element? n
    if element.name == "iframe" then
      let source ← element.attributes.lookup "src"
      frameAddress? base source
    else none

end SiteWatch.Html
