/-
# Selectors

What a selector asks of an element and of the elements around it.
-/

namespace SiteWatch.Css

/-- How two elements of a selector are related. -/
inductive Combinator where
  | descendant
  | child
  | nextSibling
  | laterSibling
deriving DecidableEq, Repr

/-- What a selector says about the language of an element or attribute. -/
inductive SpaceTest where
  | any
  | none
deriving DecidableEq, Repr

/-- How the value of an attribute is compared. -/
inductive AttributeTest where
  | present
  | equals
  | word
  | dashed
  | startsWith
  | endsWith
  | contains
deriving DecidableEq, Repr

/-- Whether letter case matters when a value is compared. -/
inductive CaseRule where
  | exact
  | ignored
  /-- Ignored for elements of documents, exact for others. -/
  | ignoredInDocuments
deriving DecidableEq, Repr

/-- What is counted for the position of an element. -/
structure Position where
  /-- Positions `step * n + offset` for the natural numbers `n`. -/
  step : Int
  offset : Int
  ofType : Bool
  fromEnd : Bool
deriving DecidableEq, Repr

mutual

/-- What is asked of one element. -/
inductive Simple where
  | space (test : SpaceTest)
  | named (name : String)
  | id (name : String)
  | hasClass (name : String)
  | hasAttribute (space : SpaceTest) (name : String) (test : AttributeTest) (value : String)
      (case : CaseRule)
  | position (position : Position)
  | only (ofType : Bool)
  | root
  | empty
  /-- One of some selectors matches. -/
  | matchesAny (selectors : List Complex)
  /-- None of some selectors matches. -/
  | matchesNone (selectors : List Complex)
  /-- Some element matches one of some selectors, which speak of the element asked about as their
  anchor. -/
  | has (selectors : List Complex)
  | anchor

/-- Elements one after another, the last first: what is asked of an element, and how and what is
asked of an element before it. -/
inductive Complex where
  | last (compound : List Simple)
  | after (compound : List Simple) (combinator : Combinator) (before : Complex)

end

instance : Inhabited Complex := ⟨.last []⟩

end SiteWatch.Css
