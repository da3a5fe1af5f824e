/-
# Reading addresses

An address is read from a text by itself or relative to another address. Blanks and control
characters at either end are cut, tabs and line breaks vanish wherever they stand. A special scheme
takes a backslash for a slash, any number of slashes before its authority, and always a host; any
other scheme has an authority only after exactly two slashes, and without a slash its path is
opaque.
-/

import SiteWatch.Url.Basic

namespace SiteWatch.Url

/-- Characters that vanish at the ends of an address. -/
def isOuter (c : Char) : Bool := c.toNat ≤ 32

/-- The characters of an address that count. -/
def significant (text : List Char) : List Char :=
  ((text.dropWhile isOuter).reverse.dropWhile isOuter).reverse.filter fun c =>
    ! (c = '\t' || c = '\n' || c = '\r')

/-- A slash, or a backslash where one may stand for the other. -/
def isSlash (special : Bool) (c : Char) : Bool := c = '/' || (special && c = '\\')

/-- Scheme and the rest after its colon. -/
def scheme? (text : List Char) : Option (String × List Char) :=
  match text with
  | c :: _ =>
    if c.isAlpha then
      let isPart := fun c : Char => c.isAlphanum || c = '+' || c = '-' || c = '.'
      match text.dropWhile isPart with
      | ':' :: rest => some (String.ofList ((text.takeWhile isPart).map Char.toLower), rest)
      | _ => none
    else none
  | [] => none

/-- Percent-encode a piece of an address. -/
def encoded (set : List Char) (text : List Char) : String :=
  String.ofList (percentEncode set text)

/-- The fragment, if a number sign comes next. -/
def readFragment : List Char → Option String
  | '#' :: rest => some (encoded fragmentSet rest)
  | _ => none

/-- The query and the fragment at the end of an address. -/
def readTail (special : Bool) : List Char → Option String × Option String
  | '?' :: rest =>
    (some (encoded (if special then specialQuerySet else querySet) (rest.takeWhile (· ≠ '#'))),
      readFragment (rest.dropWhile (· ≠ '#')))
  | rest => (none, readFragment rest)

/-- Whether a character ends a path. -/
def endsPath (c : Char) : Bool := c = '?' || c = '#'

/-- The pieces of a path between its slashes. -/
def pathPieces (special : Bool) (path : List Char) : List (List Char) :=
  let rec go : List Char → List Char → List (List Char)
    | piece, [] => [piece.reverse]
    | piece, c :: rest =>
      if isSlash special c then piece.reverse :: go [] rest else go (c :: piece) rest
  go [] path

/-- A segment that stands for the directory itself. -/
def isSingleDot (segment : String) : Bool := [".", "%2e"].contains (Text.asciiLower segment)

/-- A segment that stands for the directory above. -/
def isDoubleDot (segment : String) : Bool :=
  ["..", "%2e%2e", "%2e.", ".%2e"].contains (Text.asciiLower segment)

/-- Put the pieces of a path after segments that are there already. Two dots take one segment away;
at the end of the path one or two dots leave the empty segment after the slash. -/
def appendPieces (segments : List String) : List (List Char) → List String
  | [] => segments
  | [last] =>
    let segment := encoded pathSet last
    if isDoubleDot segment then segments.dropLast ++ [""]
    else if isSingleDot segment then segments ++ [""]
    else segments ++ [segment]
  | piece :: rest =>
    let segment := encoded pathSet piece
    if isDoubleDot segment then appendPieces segments.dropLast rest
    else if isSingleDot segment then appendPieces segments rest
    else appendPieces (segments ++ [segment]) rest

/-- The path, query and fragment after an authority or after segments that are there already. A
slash in front of the path is not part of its first piece. -/
def readPath (special : Bool) (segments : List String) (text : List Char) :
    List String × Option String × Option String :=
  let path := text.takeWhile (! endsPath ·)
  (appendPieces segments (pathPieces special path), readTail special (text.dropWhile (! endsPath ·)))

/-- A text without the slash at its front. -/
def dropSlash (special : Bool) : List Char → List Char
  | c :: rest => if isSlash special c then rest else c :: rest
  | [] => []

/-- User, password and the text after the last at sign of an authority. Nothing but an at sign
before the end of the authority is an empty host. -/
def readCredentials (special : Bool) (text : List Char) :
    Except Fault (String × String × List Char) :=
  let isInside := fun c : Char => ! (isSlash special c || endsPath c)
  let authority := text.takeWhile isInside
  match Text.splitAt '@' authority with
  | [_] | [] => .ok ("", "", text)
  | pieces =>
    let rest := pieces.getLastD [] ++ text.dropWhile isInside
    let front := ['@'].intercalate pieces.dropLast
    if front.isEmpty then
      if ((pieces.getLastD []).isEmpty ∧ ¬ (text.dropWhile isInside).isEmpty) then
        .error .emptyHost
      else .ok ("", "", rest)
    else
      .ok (encoded userInfoSet (front.takeWhile (· ≠ ':')),
        encoded userInfoSet ((front.dropWhile (· ≠ ':')).drop 1), rest)

/-- The text of a host and what follows it. Brackets hold colons together. -/
def splitHost (special : Bool) : Bool → List Char → List Char × List Char
  | _, [] => ([], [])
  | inside, c :: rest =>
    if (c = ':' && ! inside) || isSlash special c || endsPath c then ([], c :: rest)
    else
      let (host, after) := splitHost special (c = '[' || (inside && c ≠ ']')) rest
      (c :: host, after)

/-- A port and what follows it. The port that the scheme implies is left out, and so is one without
digits. -/
def readPort (scheme : String) (text : List Char) : Except Fault (Option Nat × List Char) :=
  let digits := text.takeWhile Char.isDigit
  let rest := text.dropWhile Char.isDigit
  let number := digits.foldl (fun n c => n * 10 + (c.toNat - 48)) 0
  if number > 65535 then .error .invalidPort
  else
    match rest with
    | c :: _ =>
      if c = '/' ∨ c = '\\' ∨ endsPath c then .ok (kept digits number, rest)
      else .error .invalidPort
    | [] => .ok (kept digits number, rest)
where
  /-- The port as it is kept. -/
  kept (digits : List Char) (number : Nat) : Option Nat :=
    if digits.isEmpty ∨ impliedPort? scheme = some number then none else some number

/-- The host and port of an authority. -/
def readHost (scheme : String) (text : List Char) :
    Except Fault (Host × Option Nat × List Char) := do
  let special := isSpecialScheme scheme
  let (hostPart, rest) := splitHost special false text
  let host ←
    if special then (if hostPart.isEmpty then .error .emptyHost else Host.parse hostPart)
    else Host.parseOpaque hostPart
  match rest with
  | ':' :: rest =>
    if host.isEmpty then throw .emptyHost
    let (port, rest) ← readPort scheme rest
    return (host, port, rest)
  | rest => return (host, none, rest)

/-- An address from the text after the slashes before its authority. -/
def readAuthority (scheme : String) (text : List Char) : Except Fault Url := do
  let special := isSpecialScheme scheme
  let (username, password, rest) ← readCredentials special text
  let (host, port, rest) ← readHost scheme rest
  if host.isEmpty ∧ ¬ (username.isEmpty ∧ password.isEmpty) then throw .emptyHost
  let (segments, query, fragment) :=
    match rest with
    | c :: _ =>
      if endsPath c ∧ ¬ special then ([], readTail special rest)
      else readPath special [] (dropSlash special rest)
    | [] => if special then ([""], none, none) else ([], none, none)
  return { scheme, username, password, host := some host, port,
           path := .absolute segments, query, fragment }

/-- The empty segments in front of the path of a file count for nothing. -/
def withoutEmptyFronts : List String → List String
  | "" :: next :: rest => withoutEmptyFronts (next :: rest)
  | segments => segments

/-- A file on a host, or on no host, with the path in a text. -/
def fileWith (host : Host) (above : List String) (text : List Char) : Url :=
  let (segments, query, fragment) := readPath true above (dropSlash true text)
  { scheme := "file", host := some host, path := .absolute (withoutEmptyFronts segments),
    query, fragment }

/-- The address of a file. -/
def readFile (base : Option Url) (text : List Char) : Except Fault Url := do
  let noHost := Host.domain ""
  let base := base.filter (·.scheme == "file")
  match text with
  | a :: b :: rest =>
    if isSlash true a ∧ isSlash true b then
      let isInside := fun c : Char => ! (isSlash true c || endsPath c)
      let hostPart := rest.takeWhile isInside
      let host ← if hostPart.isEmpty then pure noHost else Host.parse hostPart
      let host := if host = .domain "localhost" then noHost else host
      return fileWith host [] (rest.dropWhile isInside)
    else within base noHost
  | _ => within base noHost
where
  /-- The address of a file whose host is that of another file, or none. -/
  within (base : Option Url) (noHost : Host) : Except Fault Url :=
    match base, text with
    | some base, c :: rest =>
      let host := base.host.getD noHost
      if isSlash true c then .ok (fileWith host [] (c :: rest))
      else if c = '?' then
        let (query, fragment) := readTail true (c :: rest)
        .ok { base with query, fragment }
      else if c = '#' then .ok { base with fragment := readFragment (c :: rest) }
      else .ok (fileWith host base.segments.dropLast (c :: rest))
    | some base, [] => .ok { base with fragment := none }
    | none, text => .ok (fileWith noHost [] text)

/-- An address relative to one of the same scheme. -/
def readRelative (base : Url) (text : List Char) : Except Fault Url :=
  let special := isSpecialScheme base.scheme
  match text with
  | [] => .ok { base with fragment := none }
  | '?' :: _ =>
    let (query, fragment) := readTail special text
    .ok { base with query, fragment }
  | '#' :: _ => .ok { base with fragment := readFragment text }
  | c :: rest =>
    if isSlash true c then
      if rest.head?.any (isSlash true) then
        let after :=
          match text with
          | '/' :: '/' :: after => after
          | _ => text.dropWhile (isSlash true)
        readAuthority base.scheme after
      else relative special [] rest
    else relative special base.segments.dropLast (c :: rest)
where
  /-- The address with a path put after given segments. -/
  relative (special : Bool) (above : List String) (path : List Char) : Except Fault Url :=
    let (segments, query, fragment) := readPath special above path
    .ok { base with path := .absolute segments, query, fragment }

/-- An address with a scheme of its own. -/
def readSchemed (base : Option Url) (scheme : String) (rest : List Char) : Except Fault Url :=
  if scheme = "file" then readFile base rest
  else if isSpecialScheme scheme then
    match base with
    | some base =>
      if (rest.takeWhile (isSlash true)).length < 2 ∧ base.scheme = scheme then
        readRelative base rest
      else readAuthority scheme (rest.dropWhile (isSlash true))
    | none => readAuthority scheme (rest.dropWhile (isSlash true))
  else
    match rest with
    | '/' :: '/' :: rest => readAuthority scheme rest
    | '/' :: rest =>
      let (segments, query, fragment) := readPath false [] rest
      .ok { scheme, path := .absolute segments, query, fragment }
    | _ =>
      let (query, fragment) := readTail false (rest.dropWhile (! endsPath ·))
      .ok { scheme, path := .rootless (encoded [] (rest.takeWhile (! endsPath ·))),
            query, fragment }

/-- The address that a text spells, relative to another if it has no scheme. -/
def read (base : Option Url) (text : String) : Except Fault Url :=
  let chars := significant text.toList
  match scheme? chars, base with
  | some (scheme, rest), _ => readSchemed base scheme rest
  | none, none => .error .relativeWithoutBase
  | none, some base =>
    if chars.head? = some '#' then .ok { base with fragment := readFragment chars }
    else if base.isOpaque then .error .relativeToOpaque
    else if base.scheme = "file" then readFile (some base) chars
    else readRelative base chars

/-- The address that a text spells by itself. -/
def parse (text : String) : Except Fault Url := read none text

/-- The address that a text spells relative to another. -/
def join (base : Url) (text : String) : Except Fault Url := read (some base) text

end SiteWatch.Url
