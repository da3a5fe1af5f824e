/-
# Robots rules

A robots document is a list of directives, one a line, that name agents and allow or forbid paths.
The directives after the agents' names, up to the next agent, are for these agents. The longest
pattern that matches decides; when an allowing and a forbidding one are equally long the page is
allowed. Directives for the agent by name count alone as soon as the document names it, directives
for all agents only otherwise.
-/

import SiteWatch.Robots.Pattern
import SiteWatch.Text.Blank

namespace SiteWatch.Robots

/-- A line of a robots document that matters here. -/
inductive Directive where
  | agent (name : List Char)
  | allow (pattern : List Char)
  | disallow (pattern : List Char)
deriving DecidableEq, Repr

/-- The characters of a line that are looked at. -/
def maxLineBytes : Nat := 16663

/-- The lines of a document. -/
def lines (text : List Char) : List (List Char) :=
  Text.pieces (fun c => c = '\n' || c = '\r') text

/-- The beginning of a line that has at most so many bytes. -/
def takeBytes : Nat → List Char → List Char
  | _, [] => []
  | limit, c :: rest =>
    if limit = 0 then [] else c :: takeBytes (limit - c.utf8Size) rest

/-- Key and value of a line: separated by a colon, or by blanks when there are just two words. What
follows a number sign is left out. -/
def keyValue? (line : List Char) : Option (List Char × List Char) :=
  let line := Text.trimmed (line.takeWhile (· != '#'))
  let isGap := fun c : Char => c = ' ' || c = '\t'
  let found :=
    if line.contains ':' then
      some (line.takeWhile (· != ':'), (line.dropWhile (· != ':')).drop 1)
    else
      let value := ((line.dropWhile (! isGap ·)).dropWhile isGap)
      if value.isEmpty || value.any isGap then none else some (line.takeWhile (! isGap ·), value)
  match found with
  | none => none
  | some (key, value) =>
    if (Text.trimmed key).isEmpty then none else some (Text.trimmed key, Text.trimmed value)

/-- Whether a key begins with one of some words, in any letter case. -/
def keyIs (words : List String) (key : List Char) : Bool :=
  words.any fun word => word.toList.isPrefixOf (key.map Char.toLower)

/-- The directive of a line. Frequent misspellings are understood. -/
def directive? (line : List Char) : Option Directive :=
  match keyValue? (takeBytes maxLineBytes line) with
  | none => none
  | some (key, value) =>
    if keyIs ["user-agent", "useragent", "user agent"] key then some (.agent value)
    else if keyIs ["allow"] key then some (.allow (normalPattern value))
    else if keyIs ["disallow", "dissallow", "dissalow", "disalow", "diasllow", "disallaw"] key then
      some (.disallow (normalPattern value))
    else none

/-- The directives of a document. -/
def directives (text : List Char) : List Directive := (lines text).filterMap directive?

/-- The name that an agent line asks for: letters, hyphens and underscores. -/
def productName (value : List Char) : List Char :=
  value.takeWhile fun c => c.isAlpha || c = '-' || c = '_'

/-- Whether an agent line speaks of all agents: a star, alone or before a blank. -/
def isEveryone : List Char → Bool
  | ['*'] => true
  | '*' :: c :: _ => Text.isBlank c
  | _ => false

/-- The lengths of the longest patterns found so far. -/
structure Longest where
  allow : Option Nat := none
  disallow : Option Nat := none
deriving Repr

/-- What has been found out after some directives. -/
structure Survey where
  /-- The current directives are for the agent by name. -/
  named : Bool := false
  /-- The current directives are for all agents. -/
  everyone : Bool := false
  /-- A rule has been seen since the last agent line. -/
  closed : Bool := false
  /-- The agent has been named somewhere. -/
  everNamed : Bool := false
  forNamed : Longest := {}
  forEveryone : Longest := {}
deriving Repr

/-- The longer of a length found before and a new one. -/
def longer (found : Option Nat) (length : Nat) : Option Nat :=
  match found with
  | none => some length
  | some n => some (max n length)

/-- Note a change to the lengths that the current directives are about. -/
def Survey.noting (survey : Survey) (change : Longest → Longest) : Survey :=
  if survey.named then { survey with forNamed := change survey.forNamed, closed := true }
  else { survey with forEveryone := change survey.forEveryone, closed := true }

/-- The pattern of a directory whose index page a pattern allows. -/
def indexDirectory? (pattern : List Char) : Option (List Char) :=
  let name := (pattern.reverse.takeWhile (· != '/')).reverse
  if pattern.contains '/' && "index.htm".toList.isPrefixOf name then
    some (pattern.take (pattern.length - name.length) ++ ['$'])
  else none

/-- What is found out from one more directive, for an agent and a path. -/
def Survey.after (agent path : List Char) (survey : Survey) : Directive → Survey
  | .agent name =>
    let fresh :=
      if survey.closed then { survey with named := false, everyone := false, closed := false }
      else survey
    if isEveryone name then { fresh with everyone := true }
    else if (productName name).map Char.toLower == agent.map Char.toLower then
      { fresh with named := true, everNamed := true }
    else fresh
  | .allow pattern =>
    if ! (survey.named || survey.everyone) then survey
    else
      let noted := fun found : List Char =>
        survey.noting fun longest => { longest with allow := longer longest.allow found.length }
      if pathMatches path pattern then noted pattern
      else
        match indexDirectory? pattern with
        | some directory =>
          if pathMatches path directory then noted directory else { survey with closed := true }
        | none => { survey with closed := true }
  | .disallow pattern =>
    if ! (survey.named || survey.everyone) then survey
    else if pathMatches path pattern then
      survey.noting fun longest =>
        { longest with disallow := longer longest.disallow pattern.length }
    else { survey with closed := true }

/-- Whether the longest patterns found forbid; `none` when only empty patterns were found. -/
def Longest.forbids? (longest : Longest) : Option Bool :=
  let allow := longest.allow.getD 0
  let disallow := longest.disallow.getD 0
  if allow > 0 || disallow > 0 then some (decide (disallow > allow)) else none

/-- Whether everything found out forbids the path. -/
def Survey.forbids (survey : Survey) : Bool :=
  match survey.forNamed.forbids? with
  | some forbidden => forbidden
  | none => if survey.everNamed then false else survey.forEveryone.forbids?.getD false

/-- Whether a robots document permits an agent to visit an address. -/
def permits (document agent address : String) : Bool :=
  let path := pathOf address.toList
  let survey := (directives document.toList).foldl (Survey.after agent.toList path) {}
  ! survey.forbids

end SiteWatch.Robots
