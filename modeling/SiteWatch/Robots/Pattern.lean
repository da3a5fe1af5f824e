/-
# Path patterns

The patterns of robots rules and the part of an address that they are held against. A pattern is
matched from the beginning of the path. A star stands for any text, of which the shortest that lets
the next character match is taken for good; a dollar sign at the end of the pattern asks for the
end of the path.
-/

import SiteWatch.Url.Percent

namespace SiteWatch.Robots

/-- Whether a path matches a pattern. `anywhere` says that a star has just been passed, so that the
rest of the pattern may begin at any later place. -/
def matchesFrom (anywhere : Bool) : List Char → List Char → Bool
  | _, [] => true
  | path, '$' :: [] => anywhere || path.isEmpty
  | path, '*' :: pattern => matchesFrom true path pattern
  | path, c :: pattern =>
    match if anywhere then path.dropWhile (· != c) else path with
    | [] => false
    | d :: rest => d == c && matchesFrom false rest pattern

/-- Whether a path matches a pattern. -/
def pathMatches (path pattern : List Char) : Bool := matchesFrom false path pattern

/-- Whether a character is a hexadecimal digit. -/
def isHexDigit (c : Char) : Bool := c.isDigit || ('a' ≤ c.toLower && c.toLower ≤ 'f')

/-- A pattern as it is held against paths: encoded bytes in capitals, and everything beyond ASCII
encoded. -/
def normalPattern : List Char → List Char
  | '%' :: a :: b :: rest =>
    if isHexDigit a && isHexDigit b then '%' :: a.toUpper :: b.toUpper :: normalPattern rest
    else '%' :: normalPattern (a :: b :: rest)
  | c :: rest =>
    (if c.toNat < 128 then [c]
      else (String.ofList [c]).toUTF8.toList.flatMap Url.percentByte) ++ normalPattern rest
  | [] => []

/-- Whether a character begins the path, the parameters or the query of an address. -/
def beginsPath (c : Char) : Bool := c = '/' || c = '?' || c = ';'

/-- What follows the scheme of an address, when it has one: what follows `://` if nothing that
begins a path stands before. -/
def afterScheme (address : List Char) : List Char :=
  match address.dropWhile (· != ':') with
  | ':' :: '/' :: '/' :: rest =>
    if (address.takeWhile (· != ':')).any beginsPath then address else rest
  | _ => address

/-- Path, parameters and query of an address, with a slash in front. -/
def pathOf (address : List Char) : List Char :=
  let address :=
    match address with
    | '/' :: '/' :: rest => rest
    | other => other
  let isHash := fun c : Char => c == '#'
  let rest := afterScheme address
  let before := rest.takeWhile (! beginsPath ·)
  match rest.dropWhile (! beginsPath ·) with
  | [] => ['/']
  | path =>
    if (address.take (address.length - rest.length)).any isHash || before.any isHash then ['/']
    else
      let path := path.takeWhile (! isHash ·)
      if path.head? = some '/' then path else '/' :: path

end SiteWatch.Robots
