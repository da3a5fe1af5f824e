/-
# Addresses

The address of a page, taken apart: scheme, user, host, port, path, query and fragment. An address
of a special scheme (`http` and its kin) always has a host and an absolute path, and never names
the port that its scheme implies. The text of an address is put together from its parts, so two
spellings of one address have one text.
-/

import SiteWatch.Url.Host

namespace SiteWatch

/-- The path of an address. -/
inductive UrlPath where
  /-- A text without structure, as after `mailto:`. -/
  | rootless (text : String)
  /-- Segments, each after a slash. -/
  | absolute (segments : List String)
deriving DecidableEq, Repr, Inhabited

/-- The address of a page. -/
structure Url where
  scheme : String
  username : String := ""
  password : String := ""
  /-- The host; absent for addresses without an authority. -/
  host : Option Url.Host := none
  port : Option Nat := none
  path : UrlPath := .absolute [""]
  query : Option String := none
  fragment : Option String := none
deriving DecidableEq, Repr

namespace UrlPath

/-- The text of a path. -/
def text : UrlPath → String
  | .rootless text => text
  | .absolute segments => String.join (segments.map ("/" ++ ·))

end UrlPath

namespace Url

/-- The schemes whose addresses have an authority and an absolute path, with the ports that they
imply. -/
def specialSchemes : List (String × Option Nat) :=
  [("http", some 80), ("https", some 443), ("ws", some 80), ("wss", some 443), ("ftp", some 21),
   ("file", none)]

/-- Whether a scheme is special. -/
def isSpecialScheme (scheme : String) : Bool := (specialSchemes.lookup scheme).isSome

/-- The port that a scheme implies. -/
def impliedPort? (scheme : String) : Option Nat := (specialSchemes.lookup scheme).join

/-- Whether nothing can be relative to an address. -/
def isOpaque (url : Url) : Bool :=
  match url.path with
  | .rootless _ => true
  | .absolute _ => false

/-- The segments of a path. -/
def segments (url : Url) : List String :=
  match url.path with
  | .rootless _ => []
  | .absolute segments => segments

/-- The text of the path. -/
def pathText (url : Url) : String := url.path.text

/-- The text of the host; none for an address without a host or with an empty one. -/
def hostText? (url : Url) : Option String :=
  match url.host with
  | some host => if host.isEmpty then none else some host.text
  | none => none

/-- User and password, with what separates them from the host. -/
def credentialsText (url : Url) : String :=
  if url.username.isEmpty ∧ url.password.isEmpty then ""
  else if url.password.isEmpty then url.username ++ "@"
  else url.username ++ ":" ++ url.password ++ "@"

/-- The authority with its slashes. An address without authority whose path begins with an empty
segment gets a dot there, lest the path be taken for an authority. -/
def authorityText (url : Url) : String :=
  match url.host with
  | some host =>
    "//" ++ url.credentialsText ++ host.text
      ++ (url.port.map fun port => ":" ++ toString port).getD ""
  | none => if Text.startsWith url.pathText "//" then "/." else ""

/-- The text of an address. -/
def text (url : Url) : String :=
  url.scheme ++ ":" ++ url.authorityText ++ url.pathText
    ++ (url.query.map ("?" ++ ·)).getD "" ++ (url.fragment.map ("#" ++ ·)).getD ""

/-- An address without user and password. -/
def withoutCredentials (url : Url) : Url := { url with username := "", password := "" }

/-- Whether pages of an address can be fetched. -/
def isWeb (url : Url) : Bool := url.scheme == "http" || url.scheme == "https"

/-- What tells the origins of addresses apart: scheme, host and port. Addresses of schemes that
are not special, and of files, have no origin that another address could share. -/
def originText (url : Url) : String :=
  match url.host with
  | some host =>
    if isSpecialScheme url.scheme ∧ url.scheme ≠ "file" then
      url.scheme ++ "://" ++ host.text ++ (url.port.map fun port => ":" ++ toString port).getD ""
    else "null"
  | none => "null"

end Url

end SiteWatch
