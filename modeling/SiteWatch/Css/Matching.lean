/-
# Matching selectors

Which elements of a document a selector picks out.
-/

import SiteWatch.Css.Reader
import SiteWatch.Html.Construction

namespace SiteWatch.Css

open SiteWatch.Html

/-- The elements among the children of an element's parent, the element among them. -/
def siblings (tree : Tree) (n : Nat) : List Nat :=
  match tree.parent? n with
  | some parent => (tree.children parent).filter fun m => (tree.element? m).isSome
  | none => [n]

/-- The elements that hold an element, the innermost first. -/
def ancestors (tree : Tree) (n : Nat) : List Nat :=
  let rec go : Nat → Nat → List Nat
    | 0, _ => []
    | more + 1, n =>
      match tree.parent? n with
      | some parent => if (tree.element? parent).isSome then parent :: go more parent else []
      | none => []
  go (tree.nodes.size + 1) n

/-- The elements before an element with the same parent, the nearest first. -/
def earlierSiblings (tree : Tree) (n : Nat) : List Nat :=
  ((siblings tree n).takeWhile (· != n)).reverse

/-- Whether a number is a position of a sequence. -/
def isPosition (step offset : Int) (index : Nat) : Bool :=
  let distance := (index : Int) - offset
  if step = 0 then distance = 0
  else distance.emod step = 0 && distance.tdiv step ≥ 0

/-- The place of an element among its siblings, from one on. -/
def indexAmong (tree : Tree) (ofType fromEnd : Bool) (n : Nat) : Nat :=
  let alike := fun m =>
    ! ofType || match tree.element? n, tree.element? m with
      | some e, some f => e.name == f.name && e.space == f.space
      | _, _ => false
  let all := (siblings tree n).filter alike
  let all := if fromEnd then all.reverse else all
  (all.takeWhile (· != n)).length + 1

/-- Whether an element has a name. Names in documents have no letter case. -/
def isNamed (e : Element) (name : String) : Bool :=
  if e.space = .html then e.name == Text.asciiLower name else e.name == name

/-- The words of a value. -/
def words (value : String) : List String :=
  (Text.pieces isSpace value.toList).map String.ofList

/-- Whether a value passes a test. -/
def valuePasses (test : AttributeTest) (value wanted : String) : Bool :=
  match test with
  | .present => true
  | .equals => value == wanted
  | .word => ! wanted.isEmpty && ! wanted.toList.any isSpace && (words value).contains wanted
  | .dashed => value == wanted || Text.startsWith value (wanted ++ "-")
  | .startsWith => ! wanted.isEmpty && Text.startsWith value wanted
  | .endsWith => ! wanted.isEmpty && Text.endsWith value wanted
  | .contains => ! wanted.isEmpty && Text.holds value wanted

/-- Whether an element has an attribute whose value passes a test. -/
def hasAttribute (e : Element) (space : SpaceTest) (name : String) (test : AttributeTest)
    (wanted : String) (case : CaseRule) : Bool :=
  let name := if e.space = .html then Text.asciiLower name else name
  let isAskedFor := fun kept : String =>
    kept == name || (space = .any && Text.endsWith kept (" " ++ name))
  let fold := fun text : String =>
    match case with
    | .exact => text
    | .ignored => Text.asciiLower text
    | .ignoredInDocuments => if e.space = .html then Text.asciiLower text else text
  e.attributes.any fun (kept, value) =>
    isAskedFor kept && valuePasses test (fold value) (fold wanted)

/-- Whether an element has neither elements nor text in it. -/
def isEmpty (tree : Tree) (n : Nat) : Bool :=
  (tree.children n).isEmpty

/-- Elements that stand to an element as a combinator says. -/
def related (tree : Tree) (combinator : Combinator) (n : Nat) : List Nat :=
  match combinator with
  | .descendant => ancestors tree n
  | .child => (ancestors tree n).take 1
  | .nextSibling => (earlierSiblings tree n).take 1
  | .laterSibling => earlierSiblings tree n

/-- The elements of a document that have a place in it, in the order of their making. -/
def elements (tree : Tree) : List Nat :=
  (List.range tree.nodes.size).filter fun n =>
    (tree.element? n).isSome && (tree.parent? n).isSome

mutual

/-- Whether an element is what a simple part asks for. -/
def matchesSimple (tree : Tree) (anchor : Option Nat) : Simple → Nat → Bool
  | .space .any, _ => true
  | .space .none, _ => false
  | .named name, n => (tree.element? n).any (isNamed · name)
  | .id name, n => tree.attribute? n "id" == some name
  | .hasClass name, n => ((tree.attribute? n "class").map words).any (·.contains name)
  | .hasAttribute space name test value case, n =>
    (tree.element? n).any (Css.hasAttribute · space name test value case)
  | .position p, n => isPosition p.step p.offset (indexAmong tree p.ofType p.fromEnd n)
  | .only ofType, n =>
    indexAmong tree ofType false n == 1 && indexAmong tree ofType true n == 1
  | .root, n => tree.parent? n == some 0
  | .empty, n => isEmpty tree n
  | .matchesAny selectors, n => matchesList tree anchor selectors n
  | .matchesNone selectors, n => ! matchesList tree anchor selectors n
  | .has selectors, n => (elements tree).any fun m => matchesList tree (some n) selectors m
  | .anchor, n => anchor == some n

/-- Whether an element is what all simple parts ask for. -/
def matchesAll (tree : Tree) (anchor : Option Nat) : List Simple → Nat → Bool
  | [], _ => true
  | part :: rest, n => matchesSimple tree anchor part n && matchesAll tree anchor rest n

/-- Whether an element is the last of a row of elements that a selector asks for. -/
def matchesComplex (tree : Tree) (anchor : Option Nat) : Complex → Nat → Bool
  | .last compound, n => matchesAll tree anchor compound n
  | .after compound combinator before, n =>
    matchesAll tree anchor compound n
      && (related tree combinator n).any fun m => matchesComplex tree anchor before m

/-- Whether one of some selectors picks out an element. -/
def matchesList (tree : Tree) (anchor : Option Nat) : List Complex → Nat → Bool
  | [], _ => false
  | selector :: rest, n =>
    matchesComplex tree anchor selector n || matchesList tree anchor rest n

end

/-- The elements that a selector picks out, in the order of their making. -/
def select (tree : Tree) (selectors : List Complex) : List Nat :=
  (elements tree).filter (matchesList tree none selectors)

end SiteWatch.Css
