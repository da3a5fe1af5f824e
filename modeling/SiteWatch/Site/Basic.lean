/-
# Sites

The declarative description of how one site is scraped: which pages it covers, the instructions that
bring a page into shape, the fields to pull out of it, and how the page engine is to behave.
-/

import SiteWatch.Failure
import SiteWatch.Site.Extractor
import SiteWatch.Site.Instruction
import SiteWatch.Site.Options

namespace SiteWatch

open Json (Reader Record)

/-- How one site is scraped. -/
structure Site where
  id : String
  name : String := ""
  /-- The host that the site covers; its subdomains are covered too. -/
  domain : String
  /-- Beginnings of the paths that the site covers; none means every path. -/
  urlPatterns : List String := []
  instructions : List Instruction := []
  extractors : List Extractor := []
  options : PageOptions := {}
  enabled : Bool := true
  version : String := "1.0.0"
  updatedAt : Option Instant := none
deriving DecidableEq, Repr, Inhabited

namespace Site

/-- A site as JSON. -/
def toJson (s : Site) : Json :=
  .object [("id", .string s.id), ("name", .string s.name), ("domain", .string s.domain),
    ("urlPatterns", .array (s.urlPatterns.map .string)),
    ("instructions", .array (s.instructions.map Instruction.toJson)),
    ("extractors", .array (s.extractors.map Extractor.toJson)),
    ("options", s.options.toJson), ("enabled", .bool s.enabled), ("version", .string s.version),
    ("updatedAt", .ofOption (fun t => .string t.text) s.updatedAt)]

/-- The fields of a site. -/
def record : Record Site :=
  (fun id name domain urlPatterns instructions extractors options enabled version updatedAt =>
      { id, name, domain, urlPatterns, instructions, extractors, options, enabled, version,
        updatedAt : Site })
    <$> Record.required "id" Json.readText
    <*> Record.defaulted "name" "" Json.readText
    <*> Record.required "domain" Json.readText
    <*> Record.defaulted "urlPatterns" [] (Json.readList Json.readText)
    <*> Record.defaulted "instructions" [] (Json.readList Instruction.read)
    <*> Record.defaulted "extractors" [] (Json.readList Extractor.read)
    <*> Record.defaulted "options" {} PageOptions.read
    <*> Record.defaulted "enabled" true Json.readBool
    <*> Record.defaulted "version" "1.0.0" Json.readText
    <*> Record.optional "updatedAt" Json.readInstant

def read : Reader Site := record.read

end Site

end SiteWatch
