/-
# Matching pages to sites

A site covers the pages of its domain and of the subdomains of its domain, of those whose path
begins as one of its patterns says. The case of letters does not tell domains apart, nor do leading
`www.` in small letters. Of several sites that cover a page the first enabled one is chosen, and a
disabled one only when no enabled one covers it.
-/

import SiteWatch.Site.Basic
import SiteWatch.Url.Basic

namespace SiteWatch

/-- A domain as it is compared: without the `www.` in small letters in front of it, and then in small
letters itself. -/
def bareDomain (domain : String) : List Char :=
  (Text.dropFronts ['w', 'w', 'w', '.'] domain.toList).map Char.toLower

/-- Whether a host is a domain or one of its subdomains. -/
def coversHost (domain host : List Char) : Bool :=
  host == domain || ('.' :: domain).isSuffixOf host

namespace Site

/-- Whether a site admits the path of a page. -/
def admitsPath (site : Site) (path : String) : Bool :=
  site.urlPatterns.isEmpty || site.urlPatterns.any (Text.startsWith path ·)

/-- Whether a site covers a page. -/
def covers (site : Site) (url : Url) : Bool :=
  match url.hostText? with
  | none => false
  | some host =>
    coversHost (bareDomain site.domain) (bareDomain host) && site.admitsPath url.pathText

/-- The site chosen for a page. -/
def bestFor? (sites : List Site) (url : Url) : Option Site :=
  let covering := sites.filter (·.covers url)
  (covering.find? (·.enabled)).or covering.head?

end Site

end SiteWatch
