/-
# Building documents

The rules for tokens outside of heads and bodies, the choice of the rules for a token, and the
building of the tree of a whole document. Every text has a tree.
-/

import SiteWatch.Html.Body

namespace SiteWatch.Html

open Builder

/-- The rules before anything has been seen. -/
def initial (token : Token) : Build Turn := do
  match token with
  | .blanks _ => return .done
  | .doctype old =>
    modify fun b => { b with old, mode := .beforeHtml }
    return .done
  | _ =>
    modify fun b => { b with old := true, mode := .beforeHtml }
    return .again

/-- Open the element of the whole document. -/
def openRoot (attributes : Attributes) : Build Unit := do
  openTag "html" attributes
  goTo .beforeHead

/-- The rules before the element of the whole document. -/
def beforeHtml (token : Token) : Build Turn := do
  let start : Build Turn := do
    openRoot []
    return .again
  match token with
  | .doctype _ | .blanks _ => return .done
  | .startTag "html" attributes _ => openRoot attributes; return .done
  | .endTag name => if ["head", "body", "html", "br"].contains name then start else return .done
  | _ => start

/-- Open the head. -/
def openHead (attributes : Attributes) : Build Unit := do
  let n ← openElement { name := "head", attributes }
  modify fun b => { b with head := some n, mode := .inHead }

/-- The rules before the head. -/
def beforeHead (token : Token) : Build Turn := do
  let start : Build Turn := do
    openHead []
    return .again
  match token with
  | .doctype _ | .blanks _ => return .done
  | .startTag "html" attributes _ => mergeRoot attributes; return .done
  | .startTag "head" attributes _ => openHead attributes; return .done
  | .endTag name => if ["head", "body", "html", "br"].contains name then start else return .done
  | _ => start

/-- The rules after the head. -/
def afterHead (token : Token) : Build Turn := do
  let start : Build Turn := do
    openTag "body" []
    goTo .inBody
    return .again
  match token with
  | .doctype _ => return .done
  | .blanks text => putText text; return .done
  | .startTag "html" attributes _ => mergeRoot attributes; return .done
  | .startTag "body" attributes _ =>
    openTag "body" attributes
    forbidFrames
    goTo .inBody
    return .done
  | .startTag "frameset" attributes _ =>
    openTag "frameset" attributes
    goTo .inFrameset
    return .done
  | .startTag "head" .. => return .done
  | .startTag name attributes _ =>
    if headNames.contains name then
      match (← get).head with
      | some head =>
        modify fun b => { b with stack := head :: b.stack }
        headTag name attributes
        modify fun b => { b with stack := b.stack.erase head }
        return .done
      | none => return .done
    else start
  | .endTag "template" => closeTemplate; return .done
  | .endTag name => if ["body", "html", "br"].contains name then start else return .done
  | _ => start

/-- The rules within text. -/
def inText (token : Token) : Build Turn := do
  let leave : Build Unit := do
    pop
    modify fun b => { b with mode := b.returnMode, textMode := .markup }
  match token with
  | .blanks text | .text text => putText text; return .done
  | .finish => leave; return .again
  | .endTag _ => leave; return .done
  | _ => return .done

/-- Names of the parts of tables. -/
def tableParts : List String := ["caption", "col", "colgroup", "tbody", "td", "tfoot", "th", "thead", "tr"]

/-- What does not belong into a table is put in front of it. -/
def foster (token : Token) : Build Turn := do
  modify fun b => { b with fostering := true }
  let turn ← inBody token
  modify fun b => { b with fostering := false }
  return turn

/-- The rules within a table. -/
def inTable (token : Token) : Build Turn := do
  let b ← get
  let collect : Build Turn := do
    if b.currentIs ["table", "tbody", "template", "tfoot", "thead", "tr"] then
      modify fun b => { b with pending := [], returnMode := b.mode, mode := .inTableText }
      return .again
    else foster token
  let clear := popTo ["table", "template", "html"]
  match token with
  | .null | .blanks _ | .text _ => collect
  | .doctype _ => return .done
  | .finish => inBody token
  | .startTag name attributes _ =>
    if name = "caption" then
      clear
      markFormatting
      openTag name attributes
      goTo .inCaption
      return .done
    else if name = "colgroup" then
      clear
      openTag name attributes
      goTo .inColumnGroup
      return .done
    else if name = "col" then
      clear
      openTag "colgroup" []
      goTo .inColumnGroup
      return .again
    else if ["tbody", "tfoot", "thead"].contains name then
      clear
      openTag name attributes
      goTo .inTableBody
      return .done
    else if ["td", "th", "tr"].contains name then
      clear
      openTag "tbody" []
      goTo .inTableBody
      return .again
    else if name = "table" then
      if b.inTableScope ["table"] then
        popThroughName ["table"]
        resetMode
        return .again
      else return .done
    else if ["style", "script", "template"].contains name then inHead token
    else if name = "input" ∧ (attributes.lookup "type").map Text.asciiLower = some "hidden" then
      emptyTag name attributes
      return .done
    else if name = "form" then
      if ¬ b.hasOpen "template" ∧ b.form.isNone then
        let n ← openElement { name, attributes }
        modify fun b => { b with form := some n }
        pop
      return .done
    else foster token
  | .endTag name =>
    if name = "table" then
      if b.inTableScope ["table"] then
        popThroughName ["table"]
        resetMode
      return .done
    else if (["body", "html"] ++ tableParts).contains name then return .done
    else if name = "template" then inHead token
    else foster token

/-- The rules for text within a table. -/
def inTableText (token : Token) : Build Turn := do
  match token with
  | .null => return .done
  | .blanks _ | .text _ =>
    modify fun b => { b with pending := b.pending ++ [token] }
    return .done
  | _ =>
    let b ← get
    let allBlank := b.pending.all fun
      | .blanks _ => true
      | _ => false
    for piece in b.pending do
      if allBlank then
        match piece with
        | .blanks text => putText text
        | _ => pure ()
      else
        let _ ← foster piece
    goTo b.returnMode
    return .again

/-- The rules within the caption of a table. -/
def inCaption (token : Token) : Build Turn := do
  let b ← get
  let close (turn : Turn) : Build Turn := do
    if b.inTableScope ["caption"] then
      closeImplied ""
      popThroughName ["caption"]
      forgetFormatting
      goTo .inTable
      return turn
    else return .done
  match token with
  | .endTag "caption" => close .done
  | .endTag "table" => close .again
  | .startTag name .. => if tableParts.contains name then close .again else inBody token
  | .endTag name => if (["body", "html"] ++ tableParts).contains name then return .done else inBody token
  | _ => inBody token

/-- The rules within a group of columns. -/
def inColumnGroup (token : Token) : Build Turn := do
  let b ← get
  let close (turn : Turn) : Build Turn := do
    if b.currentIs ["colgroup"] then
      pop
      goTo .inTable
      return turn
    else return .done
  match token with
  | .blanks text => putText text; return .done
  | .doctype _ => return .done
  | .startTag "html" attributes _ => mergeRoot attributes; return .done
  | .startTag "col" attributes _ => emptyTag "col" attributes; return .done
  | .startTag "template" .. | .endTag "template" => inHead token
  | .endTag "colgroup" => close .done
  | .endTag "col" => return .done
  | .finish => inBody token
  | _ => close .again

/-- The rules within a group of rows. -/
def inTableBody (token : Token) : Build Turn := do
  let b ← get
  let clear := popTo ["tbody", "tfoot", "thead", "template", "html"]
  let close : Build Turn := do
    if b.inTableScope ["tbody", "thead", "tfoot"] then
      clear
      pop
      goTo .inTable
      return .again
    else return .done
  match token with
  | .startTag name attributes _ =>
    if name = "tr" then
      clear
      openTag name attributes
      goTo .inRow
      return .done
    else if name = "th" ∨ name = "td" then
      clear
      openTag "tr" []
      goTo .inRow
      return .again
    else if ["caption", "col", "colgroup", "tbody", "tfoot", "thead"].contains name then close
    else inTable token
  | .endTag name =>
    if ["tbody", "tfoot", "thead"].contains name then
      if b.inTableScope [name] then
        clear
        pop
        goTo .inTable
      return .done
    else if name = "table" then close
    else if ["body", "caption", "col", "colgroup", "html", "td", "th", "tr"].contains name then
      return .done
    else inTable token
  | _ => inTable token

/-- The rules within a row. -/
def inRow (token : Token) : Build Turn := do
  let b ← get
  let clear := popTo ["tr", "template", "html"]
  let close (turn : Turn) : Build Turn := do
    if b.inTableScope ["tr"] then
      clear
      pop
      goTo .inTableBody
      return turn
    else return .done
  match token with
  | .startTag name attributes _ =>
    if name = "th" ∨ name = "td" then
      clear
      openTag name attributes
      goTo .inCell
      markFormatting
      return .done
    else if tableParts.contains name then close .again
    else inTable token
  | .endTag name =>
    if name = "tr" then close .done
    else if name = "table" then close .again
    else if ["tbody", "tfoot", "thead"].contains name then
      if b.inTableScope [name] then close .again else return .done
    else if ["body", "caption", "col", "colgroup", "html", "td", "th"].contains name then
      return .done
    else inTable token
  | _ => inTable token

/-- Close the cell of a table. -/
def closeCell (names : List String) : Build Unit := do
  closeImplied ""
  popThroughName names
  forgetFormatting
  goTo .inRow

/-- The rules within a cell. -/
def inCell (token : Token) : Build Turn := do
  let b ← get
  match token with
  | .startTag name .. =>
    if tableParts.contains name then
      if b.inTableScope ["td", "th"] then
        closeCell ["td", "th"]
        return .again
      else return .done
    else inBody token
  | .endTag name =>
    if name = "td" ∨ name = "th" then
      if b.inTableScope [name] then closeCell [name]
      return .done
    else if ["body", "caption", "col", "colgroup", "html"].contains name then return .done
    else if ["table", "tbody", "tfoot", "thead", "tr"].contains name then
      if b.inTableScope [name] then
        closeCell ["td", "th"]
        return .again
      else return .done
    else inBody token
  | _ => inBody token

/-- The rules within a template. -/
def inTemplate (token : Token) : Build Turn := do
  let become (mode : Mode) : Build Turn := do
    modify fun b => { b with mode, templates := mode :: b.templates.drop 1 }
    return .again
  match token with
  | .startTag name .. =>
    if headNames.contains name then inHead token
    else if ["caption", "colgroup", "tbody", "tfoot", "thead"].contains name then become .inTable
    else if name = "col" then become .inColumnGroup
    else if name = "tr" then become .inTableBody
    else if name = "td" ∨ name = "th" then become .inRow
    else become .inBody
  | .endTag "template" => closeTemplate; return .done
  | .endTag _ => return .done
  | .finish => finishTemplate
  | _ => inBody token

/-- The rules after the body. -/
def afterBody (token : Token) : Build Turn := do
  match token with
  | .blanks _ => inBody token
  | .doctype _ | .finish => return .done
  | .startTag "html" attributes _ => mergeRoot attributes; return .done
  | .endTag "html" => goTo .afterAfterBody; return .done
  | _ => goTo .inBody; return .again

/-- The rules within a set of frames. -/
def inFrameset (token : Token) : Build Turn := do
  match token with
  | .blanks text => putText text
  | .startTag "html" attributes _ => mergeRoot attributes
  | .startTag "frameset" attributes _ => openTag "frameset" attributes
  | .startTag "frame" attributes _ => emptyTag "frame" attributes
  | .startTag "noframes" attributes _ => headTag "noframes" attributes
  | .endTag "frameset" =>
    if (← get).stack.length > 1 then
      pop
      if ¬ (← get).currentIs ["frameset"] then goTo .afterFrameset
  | _ => pure ()
  return .done

/-- The rules after a set of frames. -/
def afterFrameset (token : Token) : Build Turn := do
  match token with
  | .blanks text => putText text
  | .startTag "html" attributes _ => mergeRoot attributes
  | .startTag "noframes" attributes _ => headTag "noframes" attributes
  | .endTag "html" => goTo .afterAfterFrameset
  | _ => pure ()
  return .done

/-- The rules after the element of the whole document. -/
def afterAfterBody (token : Token) : Build Turn := do
  match token with
  | .blanks _ => inBody token
  | .doctype _ | .finish => return .done
  | .startTag "html" attributes _ => mergeRoot attributes; return .done
  | _ => goTo .inBody; return .again

/-- The rules after the element of a whole document of frames. -/
def afterAfterFrameset (token : Token) : Build Turn := do
  match token with
  | .blanks _ => inBody token
  | .startTag "html" attributes _ => mergeRoot attributes; return .done
  | .startTag "noframes" attributes _ => headTag "noframes" attributes; return .done
  | _ => return .done

/-- The rules of the current mode. -/
def byMode (token : Token) : Build Turn := do
  match (← get).mode with
  | .initial => initial token
  | .beforeHtml => beforeHtml token
  | .beforeHead => beforeHead token
  | .inHead => inHead token
  | .afterHead => afterHead token
  | .inBody => inBody token
  | .text => inText token
  | .inTable => inTable token
  | .inTableText => inTableText token
  | .inCaption => inCaption token
  | .inColumnGroup => inColumnGroup token
  | .inTableBody => inTableBody token
  | .inRow => inRow token
  | .inCell => inCell token
  | .inTemplate => inTemplate token
  | .afterBody => afterBody token
  | .inFrameset => inFrameset token
  | .afterFrameset => afterFrameset token
  | .afterAfterBody => afterAfterBody token
  | .afterAfterFrameset => afterAfterFrameset token

/-- Whether text of documents may stand in an element of formulas. -/
def isMathText (e : Element) : Bool :=
  e.space = .math && ["mi", "mo", "mn", "ms", "mtext"].contains e.name

/-- Whether elements of documents may stand in an element of another language. -/
def isHtmlPoint (e : Element) : Bool :=
  e.space = .svg && ["foreignObject", "desc", "title"].contains e.name

/-- Tags of documents that end an element of another language. -/
def breakoutNames : List String :=
  ["b", "big", "blockquote", "body", "br", "center", "code", "dd", "div", "dl", "dt", "em", "embed",
   "h1", "h2", "h3", "h4", "h5", "h6", "head", "hr", "i", "img", "li", "listing", "menu", "meta",
   "nobr", "ol", "p", "pre", "ruby", "s", "small", "span", "strong", "strike", "sub", "sup",
   "table", "tt", "u", "ul", "var"]

/-- Leave the elements of other languages. -/
def breakOut : Build Turn := do
  modify fun b => { b with
    stack := b.stack.dropWhile fun n =>
      let e := b.elementAt n
      ! (e.space = .html || isMathText e || isHtmlPoint e) }
  return .again

/-- The rules within elements of other languages. -/
def inForeign (current : Element) (token : Token) : Build Turn := do
  match token with
  | .null => putText [Char.ofNat 0xFFFD]; return .done
  | .blanks text => putText text; return .done
  | .text text => putText text; forbidFrames; return .done
  | .doctype _ => return .done
  | .finish => byMode token
  | .startTag name attributes selfClosing =>
    if breakoutNames.contains name ∨ (name = "font" ∧
        attributes.any fun a => ["color", "face", "size"].contains a.1) then breakOut
    else
      let name := if current.space = .svg then recased svgNames name else name
      openForeign current.space name attributes selfClosing
      return .done
  | .endTag name =>
    if name = "br" ∨ name = "p" then breakOut
    else
      let b ← get
      let found := b.stack.find? fun n =>
        let e := b.elementAt n
        e.space = .html || Text.asciiLower e.name == name
      match found with
      | some n =>
        if (b.elementAt n).space = .html then byMode token
        else
          set { b with stack := (b.stack.dropWhile (· != n)).drop 1 }
          return .done
      | none => return .done

/-- Whether the rules of the current mode hold for a token when an element is the current one. -/
def followsMode (e : Element) (token : Token) : Bool :=
  if e.space = .html then true
  else
    match token with
    | .startTag name .. =>
      (isMathText e && name ≠ "mglyph" && name ≠ "malignmark") || isHtmlPoint e
        || (e.space = .math && e.name = "annotation-xml" && name = "svg")
    | .blanks _ | .text _ | .null => isMathText e || isHtmlPoint e
    | .finish => true
    | _ => false

/-- Look at a token once. -/
def lookAt (token : Token) : Build Turn := do
  let b ← get
  match b.stack with
  | [] => byMode token
  | n :: _ =>
    let e := b.elementAt n
    if followsMode e token then byMode token else inForeign e token

/-- Look at a token until it has been dealt with. -/
def deal (token : Token) : Nat → Build Unit
  | 0 => pure ()
  | more + 1 => do
    if (← lookAt token) = .again then deal token more

/-- Deal with a token. A line break right after some tags is left out. -/
def take (token : Token) : Build Unit := do
  let b ← get
  let rest : Option Token :=
    if b.skipNewline then
      match token with
      | .blanks ('\n' :: []) => none
      | .blanks ('\n' :: more) => some (.blanks more)
      | other => some other
    else some token
  modify fun b => { b with skipNewline := false }
  match rest with
  | some token => deal token (b.stack.length + b.templates.length + 30)
  | none => pure ()

/-- Whether sections of character data may stand at the current place. -/
def allowsData (b : Builder) : Bool :=
  match b.stack with
  | n :: _ => (b.elementAt n).space ≠ .html
  | [] => false

/-- Build from the rest of a document. -/
def buildFrom : Nat → List Char → Builder → Builder
  | 0, _, b => b
  | _, [], b => b
  | fuel + 1, text, b =>
    let (tokens, rest) := nextTokens b.textMode (allowsData b) text
    let b := tokens.foldl (fun b token => ((take token).run b).2) b
    buildFrom fuel rest b

/-- The tree of a document. -/
def parse (document : String) : Tree :=
  let text := normalized document.toList
  let b := buildFrom (text.length + 1) text {}
  ((take .finish).run b).2.tree

end SiteWatch.Html
