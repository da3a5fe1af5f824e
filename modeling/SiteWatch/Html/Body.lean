/-
# Heads and bodies

The rules for tokens within the head and the body of a document. The rules of most other places
fall back on these.
-/

import SiteWatch.Html.Builder
import SiteWatch.Html.Foreign

namespace SiteWatch.Html

open Builder

/-- The names of headings. -/
def headingNames : List String := ["h1", "h2", "h3", "h4", "h5", "h6"]

/-- Tags that belong into the head wherever they stand. -/
def headNames : List String :=
  ["base", "basefont", "bgsound", "link", "meta", "noframes", "script", "style", "template",
   "title"]

/-- Open a template. -/
def openTemplate (attributes : Attributes) : Build Unit := do
  openTag "template" attributes
  markFormatting
  forbidFrames
  modify fun b => { b with mode := .inTemplate, templates := .inTemplate :: b.templates }

/-- Close a template. -/
def closeTemplate : Build Unit := do
  if (← get).hasOpen "template" then
    closeAllImplied
    popThroughName ["template"]
    forgetFormatting
    modify fun b => { b with templates := b.templates.drop 1 }
    resetMode

/-- A start tag that belongs into the head. -/
def headTag (name : String) (attributes : Attributes) : Build Unit :=
  match name with
  | "title" => openTextElement name attributes (.replaceable name)
  | "noframes" | "style" => openTextElement name attributes (.raw name)
  | "script" => openTextElement name attributes .script
  | "template" => openTemplate attributes
  | _ => emptyTag name attributes

/-- The rules within the head. -/
def inHead (token : Token) : Build Turn := do
  let leave : Build Turn := do
    pop
    goTo .afterHead
    return .again
  match token with
  | .blanks text => putText text; return .done
  | .doctype _ => return .done
  | .startTag "html" attributes _ => mergeRoot attributes; return .done
  | .startTag "head" .. => return .done
  | .startTag "noscript" attributes _ =>
    openTextElement "noscript" attributes (.raw "noscript")
    return .done
  | .startTag name attributes _ =>
    if headNames.contains name then
      headTag name attributes
      return .done
    else leave
  | .endTag "head" =>
    pop
    goTo .afterHead
    return .done
  | .endTag "template" => closeTemplate; return .done
  | .endTag name => if ["body", "html", "br"].contains name then leave else return .done
  | _ => leave

/-- The end of the document within a template. -/
def finishTemplate : Build Turn := do
  if (← get).hasOpen "template" then
    popThroughName ["template"]
    forgetFormatting
    modify fun b => { b with templates := b.templates.drop 1 }
    resetMode
    return .again
  else return .done

/-- Blocks that end a paragraph. -/
def blockNames : List String :=
  ["address", "article", "aside", "blockquote", "center", "details", "dialog", "dir", "div", "dl",
   "fieldset", "figcaption", "figure", "footer", "header", "hgroup", "main", "menu", "nav", "ol",
   "p", "search", "section", "summary", "ul"]

/-- Elements of formatting. -/
def formattingNames : List String :=
  ["b", "big", "code", "em", "font", "i", "s", "small", "strike", "strong", "tt", "u"]

/-- Close the innermost list item of some names, unless something that holds structure comes
first. -/
def closeItem (names : List String) : Build Unit := do
  let b ← get
  let found := b.stack.find? fun n =>
    b.isOne names n || (b.isSpecial n && ! b.isOne ["address", "div", "p"] n)
  match found with
  | some n =>
    if b.isOne names n then
      let name := (b.elementAt n).name
      closeImplied name
      popThroughName [name]
  | none => pure ()

/-- An element without content. -/
def voidTag (name : String) (attributes : Attributes) : Build Unit := do
  resumeFormatting
  emptyTag name attributes

/-- Open an element of another language. -/
def openForeign (space : Namespace) (name : String) (attributes : Attributes)
    (selfClosing : Bool) : Build Unit := do
  let _ ← openElement { name, space, attributes := foreignAttributes space attributes }
  if selfClosing then pop

/-- A start tag within the body. -/
def bodyStart (name : String) (attributes : Attributes) (selfClosing : Bool) : Build Turn := do
  let b ← get
  let done : Build Turn := return .done
  if name = "html" then
    mergeRoot attributes
    done
  else if headNames.contains name then
    headTag name attributes
    done
  else if name = "body" then
    match (b.stack.reverse.drop 1).head? with
    | some body =>
      if b.isOne ["body"] body ∧ ¬ b.hasOpen "template" then
        forbidFrames
        mergeAttributes body attributes
    | none => pure ()
    done
  else if name = "frameset" then
    match (b.stack.reverse.drop 1).head? with
    | some body =>
      if b.isOne ["body"] body ∧ b.framesetOk then
        set { b with tree := b.tree.detach body, stack := b.stack.drop (b.stack.length - 1) }
        openTag name attributes
        goTo .inFrameset
    | none => pure ()
    done
  else if blockNames.contains name then
    closeParagraph
    openTag name attributes
    done
  else if headingNames.contains name then
    closeParagraph
    if (← get).currentIs headingNames then pop
    openTag name attributes
    done
  else if name = "pre" ∨ name = "listing" then
    closeParagraph
    openTag name attributes
    modify fun b => { b with skipNewline := true, framesetOk := false }
    done
  else if name = "form" then
    let inTemplate := b.hasOpen "template"
    if b.form.isNone ∨ inTemplate then
      closeParagraph
      let n ← openElement { name, attributes }
      if ¬ inTemplate then modify fun b => { b with form := some n }
    done
  else if name = "li" then
    forbidFrames
    closeItem ["li"]
    closeParagraph
    openTag name attributes
    done
  else if name = "dd" ∨ name = "dt" then
    forbidFrames
    closeItem ["dd", "dt"]
    closeParagraph
    openTag name attributes
    done
  else if name = "plaintext" then
    closeParagraph
    openTag name attributes
    modify fun b => { b with textMode := .plain }
    done
  else if name = "button" then
    if b.inScope ["button"] then
      closeImplied ""
      popThroughName ["button"]
    resumeFormatting
    openTag name attributes
    forbidFrames
    done
  else if name = "a" then
    let earlier := (b.formatting.takeWhile (· != .marker)).findSome? fun
      | .element n => if b.isOne ["a"] n then some n else none
      | .marker => none
    match earlier with
    | some n =>
      closeFormatting "a"
      modify fun b => { b with
        formatting := b.formatting.erase (.element n), stack := b.stack.erase n }
    | none => pure ()
    resumeFormatting
    openTag name attributes
    rememberFormatting
    done
  else if formattingNames.contains name then
    resumeFormatting
    openTag name attributes
    rememberFormatting
    done
  else if name = "nobr" then
    resumeFormatting
    if (← get).inScope ["nobr"] then
      closeFormatting "nobr"
      resumeFormatting
    openTag name attributes
    rememberFormatting
    done
  else if ["applet", "marquee", "object"].contains name then
    resumeFormatting
    openTag name attributes
    markFormatting
    forbidFrames
    done
  else if name = "table" then
    if ¬ b.old then closeParagraph
    openTag name attributes
    forbidFrames
    goTo .inTable
    done
  else if ["area", "br", "embed", "img", "keygen", "wbr"].contains name then
    voidTag name attributes
    forbidFrames
    done
  else if name = "input" then
    if b.inScope ["select"] then popThroughName ["select"]
    voidTag name attributes
    if (attributes.lookup "type").map Text.asciiLower ≠ some "hidden" then forbidFrames
    done
  else if ["param", "source", "track"].contains name then
    emptyTag name attributes
    done
  else if name = "hr" then
    closeParagraph
    if (← get).inScope ["select"] then closeImplied ""
    emptyTag name attributes
    forbidFrames
    done
  else if name = "image" then
    voidTag "img" attributes
    forbidFrames
    done
  else if name = "textarea" then
    openTextElement name attributes (.replaceable name)
    modify fun b => { b with skipNewline := true, framesetOk := false }
    done
  else if name = "xmp" then
    closeParagraph
    resumeFormatting
    forbidFrames
    openTextElement name attributes (.raw name)
    done
  else if name = "iframe" then
    forbidFrames
    openTextElement name attributes (.raw name)
    done
  else if name = "noembed" ∨ name = "noscript" then
    openTextElement name attributes (.raw name)
    done
  else if name = "select" then
    if b.inScope ["select"] then popThroughName ["select"]
    else
      resumeFormatting
      openTag name attributes
      forbidFrames
    done
  else if name = "optgroup" ∨ name = "option" then
    if b.inScope ["select"] then closeImplied (if name = "option" then "optgroup" else "")
    else if b.currentIs ["option"] then pop
    resumeFormatting
    openTag name attributes
    done
  else if name = "rb" ∨ name = "rtc" then
    if b.inScope ["ruby"] then closeImplied ""
    openTag name attributes
    done
  else if name = "rp" ∨ name = "rt" then
    if b.inScope ["ruby"] then closeImplied "rtc"
    openTag name attributes
    done
  else if name = "math" then
    resumeFormatting
    openForeign .math name attributes selfClosing
    done
  else if name = "svg" then
    resumeFormatting
    openForeign .svg name attributes selfClosing
    done
  else if ["caption", "col", "colgroup", "frame", "head", "tbody", "td", "tfoot", "th", "thead",
      "tr"].contains name then done
  else
    resumeFormatting
    openTag name attributes
    done

/-- The end tag of a form. -/
def closeForm : Build Unit := do
  let b ← get
  if b.hasOpen "template" then
    if b.inScope ["form"] then
      closeImplied ""
      popThroughName ["form"]
  else
    set { b with form := none }
    match b.form with
    | some n =>
      if scan (· == n) b.endsScope b.stack then
        closeImplied ""
        modify fun b => { b with stack := b.stack.erase n }
    | none => pure ()

/-- An end tag within the body. -/
def bodyEnd (name : String) : Build Turn := do
  let b ← get
  let done : Build Turn := return .done
  if name = "template" then
    closeTemplate
    done
  else if name = "body" then
    if b.inScope ["body"] then goTo .afterBody
    done
  else if name = "html" then
    if b.inScope ["body"] then
      goTo .afterBody
      return .again
    else done
  else if name = "form" then
    closeForm
    done
  else if name = "p" then
    if ¬ b.inButtonScope "p" then openTag "p" []
    closeParagraph
    done
  else if blockNames.contains name ∨ ["button", "listing", "pre", "select"].contains name then
    if b.inScope [name] then
      closeImplied ""
      popThroughName [name]
    done
  else if name = "li" then
    if b.inListScope "li" then
      closeImplied "li"
      popThroughName ["li"]
    done
  else if name = "dd" ∨ name = "dt" then
    if b.inScope [name] then
      closeImplied name
      popThroughName [name]
    done
  else if headingNames.contains name then
    if b.inScope headingNames then
      closeImplied ""
      popThroughName headingNames
    done
  else if formattingNames.contains name ∨ name = "a" ∨ name = "nobr" then
    closeFormatting name
    done
  else if ["applet", "marquee", "object"].contains name then
    if b.inScope [name] then
      closeImplied ""
      popThroughName [name]
      forgetFormatting
    done
  else if name = "br" then
    voidTag "br" []
    forbidFrames
    done
  else
    closeOrdinary name
    done

/-- The rules within the body. -/
def inBody (token : Token) : Build Turn := do
  match token with
  | .null | .doctype _ => return .done
  | .blanks text =>
    resumeFormatting
    putText text
    return .done
  | .text text =>
    resumeFormatting
    putText text
    forbidFrames
    return .done
  | .startTag name attributes selfClosing => bodyStart name attributes selfClosing
  | .endTag name => bodyEnd name
  | .finish => if (← get).templates.isEmpty then return .done else finishTemplate

end SiteWatch.Html
