/-
# Open elements

The state in which a tree is built from tokens, and what is done to it again and again: opening and
closing elements, looking for one in scope, and taking up again the formatting that an earlier
closing cut off.
-/

import SiteWatch.Html.Tree

namespace SiteWatch.Html

/-- Where in a document the building is. -/
inductive Mode where
  | initial | beforeHtml | beforeHead | inHead | afterHead | inBody | text
  | inTable | inTableText | inCaption | inColumnGroup | inTableBody | inRow | inCell
  | inTemplate
  | afterBody | inFrameset | afterFrameset | afterAfterBody | afterAfterFrameset
deriving DecidableEq, Repr, Inhabited

/-- A formatting element, or a mark beyond which none is taken up again. -/
inductive Formatting where
  | marker
  | element (node : Nat)
deriving DecidableEq, Repr

/-- The state in which a tree is built. The lists have the latest member first. -/
structure Builder where
  tree : Tree := {}
  mode : Mode := .initial
  /-- The mode to go back to after text. -/
  returnMode : Mode := .initial
  /-- The open elements. -/
  stack : List Nat := []
  head : Option Nat := none
  form : Option Nat := none
  framesetOk : Bool := true
  /-- What does not belong into a table is put in front of it. -/
  fostering : Bool := false
  formatting : List Formatting := []
  templates : List Mode := []
  /-- Text within a table that is not placed yet, the earliest first. -/
  pending : List Token := []
  /-- The document is treated as an old one. -/
  old : Bool := false
  /-- The next line break is left out. -/
  skipNewline : Bool := false
  textMode : TextMode := .markup
deriving Inhabited

/-- A step of building. -/
abbrev Build := StateM Builder

/-- Whether a token has been dealt with or is to be looked at again in the new state. -/
inductive Turn where
  | done
  | again
deriving DecidableEq, Repr

namespace Builder

/-- The element with a number. -/
def elementAt (b : Builder) (n : Nat) : Element := (b.tree.element? n).getD { name := "" }

/-- Whether an open element is one of some names. -/
def isOne (b : Builder) (names : List String) (n : Nat) : Bool :=
  let e := b.elementAt n
  e.space = .html && names.contains e.name

/-- Whether the current element is one of some names. -/
def currentIs (b : Builder) (names : List String) : Bool :=
  match b.stack with
  | n :: _ => b.isOne names n
  | [] => false

/-- Whether an element of a name is open. -/
def hasOpen (b : Builder) (name : String) : Bool := b.stack.any (b.isOne [name])

/-- Elements beyond which nothing is in scope. -/
def scopeEnds : List String :=
  ["applet", "caption", "html", "table", "td", "th", "marquee", "object", "select",
   "template"]

/-- Whether an element ends every scope. -/
def endsScope (b : Builder) (n : Nat) : Bool :=
  let e := b.elementAt n
  match e.space with
  | .html => scopeEnds.contains e.name
  | .math => ["mi", "mo", "mn", "ms", "mtext"].contains e.name
  | .svg => ["foreignObject", "desc", "title"].contains e.name

/-- Whether one of the elements comes before any that ends the scope. -/
def scan (isTarget ends : Nat → Bool) : List Nat → Bool
  | [] => false
  | n :: rest => isTarget n || (! ends n && scan isTarget ends rest)

/-- Whether an element of one of some names is in scope. -/
def inScope (b : Builder) (names : List String) : Bool :=
  scan (b.isOne names) b.endsScope b.stack

/-- Whether an element is in scope among list items. -/
def inListScope (b : Builder) (name : String) : Bool :=
  scan (b.isOne [name]) (fun n => b.endsScope n || b.isOne ["ol", "ul"] n) b.stack

/-- Whether an element is in scope within a button. -/
def inButtonScope (b : Builder) (name : String) : Bool :=
  scan (b.isOne [name]) (fun n => b.endsScope n || b.isOne ["button"] n) b.stack

/-- Whether an element of one of some names is in scope within a table. -/
def inTableScope (b : Builder) (names : List String) : Bool :=
  scan (b.isOne names) (b.isOne ["html", "table", "template"]) b.stack

/-- Elements that hold the structure of a document. -/
def specialNames : List String :=
  ["address", "applet", "area", "article", "aside", "base", "basefont", "bgsound", "blockquote",
   "body", "br", "button", "caption", "center", "col", "colgroup", "dd", "details", "dir", "div",
   "dl", "dt", "embed", "fieldset", "figcaption", "figure", "footer", "form", "frame", "frameset",
   "h1", "h2", "h3", "h4", "h5", "h6", "head", "header", "hgroup", "hr", "html", "iframe", "img",
   "input", "isindex", "li", "link", "listing", "main", "marquee", "menu", "meta", "nav", "noembed",
   "noframes", "noscript", "object", "ol", "p", "param", "plaintext", "pre", "script", "search",
   "section", "select", "source", "style", "summary", "table", "tbody", "td", "template",
   "textarea", "tfoot", "th", "thead", "title", "tr", "track", "ul", "wbr", "xmp", "keygen"]

/-- Whether an element holds the structure of a document. -/
def isSpecial (b : Builder) (n : Nat) : Bool :=
  let e := b.elementAt n
  match e.space with
  | .html => specialNames.contains e.name
  | .math => ["mi", "mo", "mn", "ms", "mtext"].contains e.name
  | .svg => ["foreignObject", "desc", "title"].contains e.name

/-- The place where a node is put that belongs under `target`: its new parent, and the child that it
comes in front of. -/
def placeUnder (b : Builder) (target : Nat) : Nat × Option Nat :=
  if b.fostering && b.isOne ["table", "tbody", "tfoot", "thead", "tr"] target then
    match b.stack.find? (b.isOne ["table", "template"]) with
    | none => (b.stack.getLastD 0, none)
    | some n =>
      if b.isOne ["template"] n then (n, none)
      else
        match b.tree.parent? n with
        | some parent => (parent, some n)
        | none => (((b.stack.dropWhile (· != n)).drop 1).headD 0, none)
  else (target, none)

/-- The place where the next node is put. -/
def place (b : Builder) : Nat × Option Nat := b.placeUnder (b.stack.headD 0)

end Builder

open Builder

/-- Close the current element. -/
def pop : Build Unit := modify fun b => { b with stack := b.stack.drop 1 }

/-- Close elements up to and including the first for which something holds. -/
def popThrough (found : Builder → Nat → Bool) : Build Unit :=
  modify fun b => { b with stack := (b.stack.dropWhile (! found b ·)).drop 1 }

/-- Close elements up to and including the first of a name. -/
def popThroughName (names : List String) : Build Unit := popThrough (·.isOne names)

/-- Close elements that are not one of some names. -/
def popTo (names : List String) : Build Unit :=
  modify fun b => { b with stack := b.stack.dropWhile (! b.isOne names ·) }

/-- Put a new element at the current place and open it. -/
def openElement (element : Element) : Build Nat := do
  let b ← get
  let (parent, before) := b.place
  let (tree, n) := b.tree.add (.element element)
  set { b with tree := tree.insert parent before n, stack := n :: b.stack }
  return n

/-- Put a new element at the current place and open it. -/
def openTag (name : String) (attributes : Attributes) : Build Unit := do
  let _ ← openElement { name, attributes }

/-- Put a new element at the current place without opening it. -/
def emptyTag (name : String) (attributes : Attributes) : Build Unit := do
  openTag name attributes
  pop

/-- Put text at the current place. -/
def putText (text : List Char) : Build Unit :=
  modify fun b =>
    let (parent, before) := b.place
    { b with tree := b.tree.insertText parent before text }

/-- Go to a mode. -/
def goTo (mode : Mode) : Build Unit := modify fun b => { b with mode }

/-- Frames are no longer allowed. -/
def forbidFrames : Build Unit := modify fun b => { b with framesetOk := false }

/-- Open an element that holds nothing but text. -/
def openTextElement (name : String) (attributes : Attributes) (textMode : TextMode) :
    Build Unit := do
  openTag name attributes
  modify fun b => { b with textMode, returnMode := b.mode, mode := .text }

/-- Elements that are closed without an end tag. -/
def impliedNames : List String := ["dd", "dt", "li", "optgroup", "option", "p", "rb", "rp", "rt", "rtc"]

/-- Close the elements that need no end tag, except those of a name. -/
def closeImplied (except : String) : Build Unit :=
  modify fun b => { b with
    stack := b.stack.dropWhile fun n => b.isOne (impliedNames.filter (· != except)) n }

/-- Close the elements that need no end tag, those of tables too. -/
def closeAllImplied : Build Unit :=
  modify fun b => { b with
    stack := b.stack.dropWhile fun n =>
      b.isOne (impliedNames ++ ["caption", "colgroup", "tbody", "td", "tfoot", "th", "thead", "tr"]) n }

/-- Close the paragraph, if one is open. -/
def closeParagraph : Build Unit := do
  if (← get).inButtonScope "p" then
    closeImplied "p"
    popThroughName ["p"]

/-- Forget formatting elements up to the last mark. -/
def forgetFormatting : Build Unit :=
  modify fun b => { b with formatting := (b.formatting.dropWhile (· != .marker)).drop 1 }

/-- Put a mark among the formatting elements. -/
def markFormatting : Build Unit :=
  modify fun b => { b with formatting := .marker :: b.formatting }

/-- Whether two formatting elements are alike. -/
def Builder.alike (b : Builder) (n m : Nat) : Bool :=
  let e := b.elementAt n
  let f := b.elementAt m
  e.name == f.name && e.space == f.space && e.attributes.length == f.attributes.length
    && e.attributes.all (f.attributes.contains ·)

/-- Remember the current element as a formatting element. Of four alike since the last mark the
earliest is forgotten. -/
def rememberFormatting : Build Unit :=
  modify fun b =>
    match b.stack with
    | [] => b
    | n :: _ =>
      let recent := b.formatting.takeWhile (· != .marker)
      let twins := recent.filter fun
        | .element m => b.alike n m
        | .marker => false
      let formatting :=
        if twins.length ≥ 3 then
          match twins.getLast? with
          | some earliest => b.formatting.erase earliest
          | none => b.formatting
        else b.formatting
      { b with formatting := .element n :: formatting }

/-- The list with one formatting element in place of another. -/
def replaceFormatting (old new : Nat) (list : List Formatting) : List Formatting :=
  list.map fun e => if e = .element old then .element new else e

/-- Open again the formatting elements, since the last mark, that are no longer open. -/
def resumeFormatting : Build Unit := do
  let b ← get
  let cut := b.formatting.takeWhile fun
    | .element n => ! b.stack.contains n
    | .marker => false
  for entry in cut.reverse do
    match entry with
    | .element n =>
      let m ← openElement (b.elementAt n)
      modify fun b => { b with formatting := replaceFormatting n m b.formatting }
    | .marker => pure ()

/-- The end tag of an element without rules of its own: the innermost open element of the name is
closed, unless one that holds structure comes first. -/
def closeOrdinary (name : String) : Build Unit := do
  let b ← get
  match b.stack.find? fun n => b.isOne [name] n || b.isSpecial n with
  | some n =>
    if b.isOne [name] n then
      closeImplied name
      modify fun b => { b with stack := (b.stack.dropWhile (· != n)).drop 1 }
  | none => pure ()

/-- Move what formatting elements hold, from the innermost block that the end tag of a formatting
element cuts, out of the element: every element between gets a twin around the block. Gives the
outermost node so built, and the element that the formatting element's twin is to follow in the
list of formatting elements. -/
def cloneBetween (block : Nat) (between : List Nat) : Build (Nat × Option Nat) := do
  let mut last := block
  let mut bookmark : Option Nat := none
  let mut count := 0
  for n in between do
    count := count + 1
    let b ← get
    let listed := b.formatting.contains (.element n)
    if count > 3 ∨ ¬ listed then
      set { b with stack := b.stack.erase n, formatting := b.formatting.erase (.element n) }
    else
      let (tree, twin) := b.tree.add (.element (b.elementAt n))
      let tree := tree.insert twin none last
      set { b with
        tree
        stack := b.stack.map fun m => if m = n then twin else m
        formatting := replaceFormatting n twin b.formatting }
      if last = block then bookmark := some twin
      last := twin
  return (last, bookmark)

/-- Put a formatting element right after another in the list, the latest first. -/
def followFormatting (twin : Nat) (earlier : Nat) : List Formatting → List Formatting
  | [] => [.element twin]
  | e :: rest =>
    if e = .element earlier then .element twin :: e :: rest
    else e :: followFormatting twin earlier rest

/-- One round of closing a formatting element that blocks may cut across. Gives whether another
round is needed. -/
def closeFormattingOnce (name : String) : Build Bool := do
  let b ← get
  let target := (b.formatting.takeWhile (· != .marker)).findSome? fun
    | .element n => if b.isOne [name] n then some n else none
    | .marker => none
  match target with
  | none =>
    closeOrdinary name
    return false
  | some formatted =>
    if ¬ b.stack.contains formatted then
      set { b with formatting := b.formatting.erase (.element formatted) }
      return false
    else if ¬ scan (· == formatted) b.endsScope b.stack then
      return false
    else
      let inner := b.stack.takeWhile (· != formatted)
      let above := (b.stack.dropWhile (· != formatted)).drop 1
      match (inner.filter b.isSpecial).getLast? with
      | none =>
        set { b with stack := above, formatting := b.formatting.erase (.element formatted) }
        return false
      | some block =>
        let between := (inner.dropWhile (· != block)).drop 1
        let (last, bookmark) ← cloneBetween block between
        modify fun b =>
          let (parent, before) := b.placeUnder (above.headD 0)
          let tree := b.tree.insert parent before last
          let (tree, twin) := tree.add (.element (b.elementAt formatted))
          let tree := (tree.moveChildren block twin).insert block none twin
          let formatting :=
            match bookmark with
            | none => replaceFormatting formatted twin b.formatting
            | some earlier =>
              followFormatting twin earlier (b.formatting.erase (.element formatted))
          let stack := (b.stack.erase formatted).flatMap fun n =>
            if n = block then [twin, block] else [n]
          { b with tree, formatting, stack }
        return true

/-- The end tag of a formatting element. -/
def closeFormatting (name : String) : Build Unit := do
  let b ← get
  match b.stack with
  | n :: _ =>
    if b.isOne [name] n ∧ ¬ b.formatting.contains (.element n) then pop
    else rounds 8
  | [] => pure ()
where
  /-- Some rounds, as long as they are needed. -/
  rounds : Nat → Build Unit
    | 0 => pure ()
    | more + 1 => do
      if ← closeFormattingOnce name then rounds more

/-- The mode that the open elements call for. -/
def modeFor (b : Builder) : List Nat → Mode
  | [] => .inBody
  | n :: rest =>
    if b.isOne ["td", "th"] n && ! rest.isEmpty then .inCell
    else if b.isOne ["tr"] n then .inRow
    else if b.isOne ["tbody", "thead", "tfoot"] n then .inTableBody
    else if b.isOne ["caption"] n then .inCaption
    else if b.isOne ["colgroup"] n then .inColumnGroup
    else if b.isOne ["table"] n then .inTable
    else if b.isOne ["template"] n then b.templates.headD .inBody
    else if b.isOne ["head"] n && ! rest.isEmpty then .inHead
    else if b.isOne ["body"] n then .inBody
    else if b.isOne ["frameset"] n then .inFrameset
    else if b.isOne ["html"] n then (if b.head.isNone then .beforeHead else .afterHead)
    else modeFor b rest

/-- Go to the mode that the open elements call for. -/
def resetMode : Build Unit := modify fun b => { b with mode := modeFor b b.stack }

/-- Add attributes to an element that has none of their names. -/
def mergeAttributes (n : Nat) (attributes : Attributes) : Build Unit :=
  modify fun b => { b with
    tree := b.tree.modify n fun node =>
      match node.kind with
      | .element e =>
        { node with kind := .element { e with
            attributes := e.attributes ++ attributes.filter fun a =>
              ! e.attributes.any (·.1 == a.1) } }
      | _ => node }

/-- A second tag for the whole document only adds its attributes. -/
def mergeRoot (attributes : Attributes) : Build Unit := do
  let b ← get
  if ¬ b.hasOpen "template" then
    match b.stack.getLast? with
    | some root => mergeAttributes root attributes
    | none => pure ()

end SiteWatch.Html
