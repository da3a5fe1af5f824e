/-
# Document trees

The nodes of a document, each known by its number in the order of their making. The document itself
has the number zero. A node knows its parent and its children; one that was taken out has no
parent.
-/

import SiteWatch.Html.Token

namespace SiteWatch.Html

/-- The language that an element belongs to. -/
inductive Namespace where
  | html
  | svg
  | math
deriving DecidableEq, Repr, Inhabited

/-- An element. -/
structure Element where
  name : String
  space : Namespace := .html
  attributes : Attributes := []
deriving DecidableEq, Repr, Inhabited

/-- What a node is. -/
inductive NodeKind where
  | document
  | element (element : Element)
  | text (text : List Char)
deriving DecidableEq, Repr, Inhabited

/-- A node. -/
structure Node where
  kind : NodeKind
  parent : Option Nat := none
  children : List Nat := []
deriving DecidableEq, Repr, Inhabited

/-- The nodes of a document by number. -/
structure Tree where
  nodes : Array Node := #[{ kind := .document }]
deriving Repr, Inhabited

namespace Tree

def get? (tree : Tree) (n : Nat) : Option Node := tree.nodes[n]?

/-- The element with a number. -/
def element? (tree : Tree) (n : Nat) : Option Element :=
  match tree.get? n with
  | some { kind := .element e, .. } => some e
  | _ => none

/-- The parent of a node. -/
def parent? (tree : Tree) (n : Nat) : Option Nat := (tree.get? n).bind (·.parent)

/-- The children of a node. -/
def children (tree : Tree) (n : Nat) : List Nat := ((tree.get? n).map (·.children)).getD []

/-- Change a node. -/
def modify (tree : Tree) (n : Nat) (change : Node → Node) : Tree :=
  { tree with nodes := tree.nodes.modify n change }

/-- A new node without a parent, and its number. -/
def add (tree : Tree) (kind : NodeKind) : Tree × Nat :=
  ({ tree with nodes := tree.nodes.push { kind } }, tree.nodes.size)

/-- Take a node out of its place. -/
def detach (tree : Tree) (n : Nat) : Tree :=
  match tree.parent? n with
  | none => tree
  | some parent =>
    (tree.modify parent fun node => { node with children := node.children.filter (· != n) }).modify
      n fun node => { node with parent := none }

/-- A list with a number put in front of another; at the end when the other is not there. -/
def placed (n : Nat) (before : Option Nat) : List Nat → List Nat
  | [] => [n]
  | other :: rest =>
    if some other = before then n :: other :: rest else other :: placed n before rest

/-- Put a node among the children of another, in front of one of them or at the end. -/
def insert (tree : Tree) (parent : Nat) (before : Option Nat) (n : Nat) : Tree :=
  let tree := tree.detach n
  (tree.modify parent fun node => { node with children := placed n before node.children }).modify
    n fun node => { node with parent := some parent }

/-- The child in front of another, or the last child. -/
def childBefore? (tree : Tree) (parent : Nat) (before : Option Nat) : Option Nat :=
  match before with
  | none => (tree.children parent).getLast?
  | some sibling => ((tree.children parent).takeWhile (· != sibling)).getLast?

/-- Put text among the children of a node. Text next to text before it is joined to it. -/
def insertText (tree : Tree) (parent : Nat) (before : Option Nat) (text : List Char) : Tree :=
  let joined := (tree.childBefore? parent before).bind fun n =>
    match tree.get? n with
    | some { kind := .text old, .. } => some (n, old)
    | _ => none
  match joined with
  | some (n, old) => tree.modify n fun node => { node with kind := .text (old ++ text) }
  | none =>
    let (tree, n) := tree.add (.text text)
    tree.insert parent before n

/-- Give all children of a node to another, at the end. -/
def moveChildren (tree : Tree) (source target : Nat) : Tree :=
  (tree.children source).foldl (fun tree n => tree.insert target none n) tree

/-- The text within a node, in document order. -/
def textWithin (tree : Tree) : Nat → Nat → List Char
  | 0, _ => []
  | depth + 1, n =>
    match tree.get? n with
    | some { kind := .text text, .. } => text
    | some node => node.children.flatMap (textWithin tree depth)
    | none => []

/-- The text within an element. -/
def text (tree : Tree) (n : Nat) : String :=
  String.ofList (tree.textWithin (tree.nodes.size + 1) n)

/-- The value of an attribute. -/
def attribute? (tree : Tree) (n : Nat) (name : String) : Option String :=
  (tree.element? n).bind fun e => e.attributes.lookup name

end Tree

end SiteWatch.Html
