/-
# The pages that a site covers

A site covers a page if the labels of its domain are the last labels of the host of the page, and
the path begins as the site wants it. Leading `www.` count for nothing on either side, and no host
is taken for one of the site only because it ends with the same letters.

The `www.` are cut before the letters are made small, and one with a capital letter is not cut. So
two spellings of a domain are not always one domain: how many `www.` stand in front of it in small
letters makes the difference, and nothing else about its case does.
-/

import Mathlib.Data.List.Basic
import SiteWatch.Proofs.Url.HostNames
import SiteWatch.Site.Matching

namespace SiteWatch

/-! ## Labels -/

namespace Text

theorem splitAt_go_append (separator : Char) (piece front back : List Char) :
    splitAt.go separator piece (front ++ separator :: back) =
      splitAt.go separator piece front ++ splitAt separator back := by
  induction front generalizing piece with
  | nil => simp [splitAt.go, splitAt]
  | cons c rest ih =>
      rw [List.cons_append, splitAt.go, splitAt.go]
      split
      · rw [ih, List.cons_append]
      · exact ih _

theorem splitAt_append (separator : Char) (front back : List Char) :
    splitAt separator (front ++ separator :: back) =
      splitAt separator front ++ splitAt separator back :=
  splitAt_go_append separator [] front back

/-- The last parts of a text, put together, are the text or stand behind a separator in it. -/
theorem intercalate_append_cases (separator : Char) (front : List (List Char))
    {back : List (List Char)} (hback : back ≠ []) :
    [separator].intercalate (front ++ back) = [separator].intercalate back ∨
      separator :: [separator].intercalate back <:+ [separator].intercalate (front ++ back) := by
  induction front with
  | nil => exact .inl rfl
  | cons piece more ih =>
      have hmore : more ++ back ≠ [] := by simp [hback]
      rw [List.cons_append, List.intercalate_cons_of_ne_nil hmore]
      refine .inr ?_
      rcases ih with hsame | hsuffix
      · exact ⟨piece, by rw [hsame]; simp⟩
      · exact List.suffix_append_of_suffix hsuffix

end Text

/-- The labels of a domain name. -/
def labels (name : List Char) : List (List Char) := Text.splitAt '.' name

/-- A host is a domain or one of its subdomains if its last labels are those of the domain. -/
theorem coversHost_iff {domain host : List Char} :
    coversHost domain host = true ↔ labels domain <:+ labels host := by
  have hcovers : coversHost domain host = true ↔ host = domain ∨ '.' :: domain <:+ host := by
    simp [coversHost]
  rw [hcovers]
  constructor
  · rintro (rfl | ⟨front, rfl⟩)
    · exact List.suffix_rfl
    · exact ⟨labels front, (Text.splitAt_append '.' front domain).symm⟩
  · rintro ⟨front, hlabels⟩
    have hne : labels domain ≠ [] := Text.splitAt_go_ne_nil '.' [] domain
    have hcases := Text.intercalate_append_cases '.' front hne
    rw [hlabels] at hcases
    simpa only [labels, Text.intercalate_splitAt] using hcases

example : coversHost "example.com".toList "notexample.com".toList = false := by decide

/-! ## Leading `www.` -/

/-- A text with its capitals made small. -/
def lowered (text : List Char) : List Char := text.map Char.toLower

/-- How many `www.`, in small letters, stand in front of a name. -/
def fronts : List Char → Nat
  | 'w' :: 'w' :: 'w' :: '.' :: rest => fronts rest + 1
  | _ => 0

/-- A name without the `www.`, in small letters, in front of it. -/
def bareName : List Char → List Char
  | 'w' :: 'w' :: 'w' :: '.' :: rest => bareName rest
  | name => name

/-- A name with some `www.` in front of it. -/
def behindFronts : Nat → List Char → List Char
  | 0, name => name
  | count + 1, name => 'w' :: 'w' :: 'w' :: '.' :: behindFronts count name

theorem behindFronts_add (more count : Nat) (name : List Char) :
    behindFronts (count + more) name = behindFronts count (behindFronts more name) := by
  induction count with
  | zero => rw [Nat.zero_add, behindFronts]
  | succ count ih => rw [Nat.succ_add, behindFronts, behindFronts, ih]

theorem behindFronts_inj {count : Nat} {name other : List Char}
    (hsame : behindFronts count name = behindFronts count other) : name = other := by
  induction count with
  | zero => exact hsame
  | succ count ih => exact ih (by simpa [behindFronts] using hsame)

theorem lowered_behindFronts (count : Nat) (name : List Char) :
    lowered (behindFronts count name) = behindFronts count (lowered name) := by
  induction count with
  | zero => rfl
  | succ count ih => exact congrArg (['w', 'w', 'w', '.'] ++ ·) ih

theorem labels_behindFronts (count : Nat) (name : List Char) :
    labels (behindFronts count name) = List.replicate count ['w', 'w', 'w'] ++ labels name := by
  induction count with
  | zero => rfl
  | succ count ih =>
      rw [List.replicate_succ, List.cons_append, ← ih]
      exact Text.splitAt_append '.' ['w', 'w', 'w'] (behindFronts count name)

theorem behindFronts_fronts (name : List Char) :
    behindFronts (fronts name) (bareName name) = name := by
  fun_induction fronts name with
  | case1 rest ih => exact congrArg (['w', 'w', 'w', '.'] ++ ·) ih
  | case2 name hname => rw [bareName, behindFronts]; exact hname

theorem bareName_behindFronts (count : Nat) (name : List Char) :
    bareName (behindFronts count name) = bareName name := by
  induction count with
  | zero => rfl
  | succ count ih => exact ih

theorem labels_bareName_suffix (name : List Char) : labels (bareName name) <:+ labels name := by
  conv => rhs; rw [← behindFronts_fronts name, labels_behindFronts]
  exact List.suffix_append _ _

theorem bareName_eq_self {name : List Char} (hname : ¬ ['w', 'w', 'w', '.'] <+: name) :
    bareName name = name := by
  unfold bareName
  split
  · exact absurd (List.prefix_append ['w', 'w', 'w', '.'] _) hname
  · rfl

theorem dropFronts_go_eq {fuel : Nat} {name : List Char} (hfuel : name.length ≤ fuel) :
    Text.dropFronts.go ['w', 'w', 'w', '.'] fuel name = bareName name := by
  induction fuel generalizing name with
  | zero =>
      obtain rfl := List.length_eq_zero_iff.mp (Nat.le_zero.mp hfuel)
      rfl
  | succ fuel ih =>
      rw [Text.dropFronts.go]
      split
      · rename_i hprefix
        obtain ⟨rest, rfl⟩ := List.isPrefixOf_iff_prefix.mp hprefix
        have hrest : rest.length ≤ fuel := by
          simp at hfuel
          omega
        exact ih hrest
      · rename_i hprefix
        exact (bareName_eq_self fun hname =>
          hprefix (List.isPrefixOf_iff_prefix.mpr hname)).symm

theorem bareDomain_eq (name : String) : bareDomain name = lowered (bareName name.toList) :=
  congrArg lowered (dropFronts_go_eq (Nat.le_refl _))

/-- A name in small letters is the bare name behind its leading `www.`. -/
theorem behindFronts_bareDomain (name : String) :
    behindFronts (fronts name.toList) (bareDomain name) = lowered name.toList := by
  rw [bareDomain_eq, ← lowered_behindFronts, behindFronts_fronts]

/-- Of two spellings of a name the one with fewer leading `www.` in small letters keeps the rest. -/
theorem bareDomain_eq_behindFronts {name other : String} {more : Nat}
    (hcase : lowered name.toList = lowered other.toList)
    (hfronts : fronts other.toList = fronts name.toList + more) :
    bareDomain name = behindFronts more (bareDomain other) := by
  rw [← behindFronts_bareDomain, ← behindFronts_bareDomain, hfronts, behindFronts_add] at hcase
  exact behindFronts_inj hcase

/-- A host that spells a domain is covered if none of its leading `www.` is left in the domain. -/
theorem coversHost_bareDomain_iff {domain host : String}
    (hcase : lowered host.toList = lowered domain.toList) :
    coversHost (bareDomain domain) (bareDomain host) = true ↔
      fronts host.toList ≤ fronts domain.toList := by
  rw [coversHost_iff]
  constructor
  · intro hsuffix
    by_contra hmore
    obtain ⟨more, hfronts⟩ := Nat.exists_eq_add_of_lt (Nat.lt_of_not_le hmore)
    rw [bareDomain_eq_behindFronts hcase.symm (Nat.add_assoc .. ▸ hfronts), labels_behindFronts]
      at hsuffix
    have hlength := hsuffix.length_le
    rw [List.length_append, List.length_replicate] at hlength
    omega
  · intro hle
    obtain ⟨more, hfronts⟩ := Nat.exists_eq_add_of_le hle
    rw [bareDomain_eq_behindFronts hcase hfronts, labels_behindFronts]
    exact List.suffix_append _ _

/-- A spelling of a domain with fewer leading `www.` in small letters misses a host. -/
theorem exists_host_of_fronts_lt {domain other : String}
    (hcase : lowered domain.toList = lowered other.toList)
    (hfronts : fronts domain.toList < fronts other.toList) :
    ∃ host : String, host ≠ "" ∧ coversHost (bareDomain other) (bareDomain host) = true ∧
      coversHost (bareDomain domain) (bareDomain host) = false := by
  obtain ⟨more, hmore⟩ := Nat.exists_eq_add_of_lt hfronts
  have hdomain : bareDomain domain = behindFronts (more + 1) (bareDomain other) :=
    bareDomain_eq_behindFronts hcase (by rw [hmore, Nat.add_assoc])
  -- The host is the shorter domain behind a label that is no `www`.
  have hbare : bareDomain (String.ofList ('x' :: '.' :: bareName other.toList)) =
      'x' :: '.' :: bareDomain other := by
    rw [bareDomain_eq, bareDomain_eq, String.toList_ofList, bareName_eq_self (by simp)]
    rfl
  have hlabels : labels ('x' :: '.' :: bareDomain other) = ['x'] :: labels (bareDomain other) :=
    Text.splitAt_append '.' ['x'] (bareDomain other)
  refine ⟨String.ofList ('x' :: '.' :: bareName other.toList), ?_, ?_,
    Bool.eq_false_iff.mpr fun hcovers => ?_⟩
  · exact fun hempty => by simpa using congrArg String.toList hempty
  · rw [hbare, coversHost_iff, hlabels]
    exact List.suffix_cons _ _
  · rw [hbare, coversHost_iff, hlabels, hdomain, labels_behindFronts, List.replicate_succ',
      List.append_assoc, List.singleton_append] at hcovers
    have hwww : ['w', 'w', 'w'] :: labels (bareDomain other) = ['x'] :: labels (bareDomain other) :=
      ((List.suffix_append _ _).trans hcovers).eq_of_length rfl
    simp at hwww

/-! ## Sites -/

namespace Site

variable {site : Site}

theorem admitsPath_iff {path : String} : site.admitsPath path = true ↔
    site.urlPatterns = [] ∨ ∃ pattern ∈ site.urlPatterns, pattern.toList <+: path.toList := by
  simp [admitsPath, Text.startsWith]

theorem covers_iff {url : Url} : site.covers url = true ↔
    ∃ host, url.hostText? = some host ∧
      coversHost (bareDomain site.domain) (bareDomain host) = true ∧
      site.admitsPath url.pathText = true := by
  unfold covers
  cases url.hostText? with
  | none => simp
  | some host => simp

/-- A page that belongs to a site. Its host ends, in small letters, with the labels of the domain,
whether the leading `www.` of the domain are dropped as they are written or in small letters. Its
path begins with a pattern of the site, if the site has patterns. -/
structure Owns (site : Site) (url : Url) : Prop where
  host : ∃ host, url.hostText? = some host ∧
    labels (lowered (bareName site.domain.toList)) <:+ labels (lowered host.toList) ∧
    labels (bareName (lowered site.domain.toList)) <:+ labels (lowered host.toList)
  path : site.urlPatterns = [] ∨
    ∃ pattern ∈ site.urlPatterns, pattern.toList <+: url.pathText.toList

/-- A site covers no page that does not belong to it. -/
theorem owns_of_covers {url : Url} (hcovers : site.covers url = true) : site.Owns url := by
  obtain ⟨host, hhost, hdomain, hpath⟩ := covers_iff.mp hcovers
  have hlast : labels (bareDomain site.domain) <:+ labels (lowered host.toList) := by
    refine (coversHost_iff.mp hdomain).trans ?_
    rw [← behindFronts_bareDomain, labels_behindFronts]
    exact List.suffix_append _ _
  refine ⟨⟨host, hhost, bareDomain_eq site.domain ▸ hlast, ?_⟩, admitsPath_iff.mp hpath⟩
  rw [← behindFronts_bareDomain, bareName_behindFronts]
  exact (labels_bareName_suffix _).trans hlast

/-- A page of a subdomain, whose host has a `www.` of its own. -/
theorem owns_city : ∃ url : Url, Url.parse "https://www.City.example.com/events/42" = .ok url ∧
    Owns { id := "events", domain := "www.Example.com", urlPatterns := ["/events"] } url :=
  ⟨{ scheme := "https", host := some (.domain "www.city.example.com"),
     path := .absolute ["events", "42"] },
    by decide +kernel, owns_of_covers (by decide +kernel)⟩

/-- Every site admits some path. -/
theorem exists_admitsPath (site : Site) : ∃ path, site.admitsPath path = true := by
  cases hpatterns : site.urlPatterns with
  | nil => exact ⟨"", admitsPath_iff.mpr (.inl hpatterns)⟩
  | cons pattern more =>
      exact ⟨pattern, admitsPath_iff.mpr (.inr ⟨pattern, by simp [hpatterns], List.prefix_rfl⟩)⟩

/-- A spelling with fewer leading `www.` in small letters misses a page of the site. -/
theorem exists_covers_of_fronts_lt (site : Site) {domain : String}
    (hcase : lowered domain.toList = lowered site.domain.toList)
    (hfronts : fronts domain.toList < fronts site.domain.toList) :
    ∃ url, site.covers url = true ∧ covers { site with domain } url = false := by
  obtain ⟨host, hhost, hcovers, hmisses⟩ := exists_host_of_fronts_lt hcase hfronts
  obtain ⟨path, hpath⟩ := site.exists_admitsPath
  let url : Url := { scheme := "https", host := some (.domain host), path := .rootless path }
  have htext : url.hostText? = some host := by
    simp [url, Url.hostText?, Url.Host.isEmpty, Url.Host.text, hhost]
  refine ⟨url, covers_iff.mpr ⟨host, htext, hcovers, hpath⟩, ?_⟩
  simp [covers, htext, hmisses]

/-- Two spellings of a domain cover the same pages if and only if as many `www.` in small letters
stand in front of both. Of the pages on the host that a domain spells those are covered whose path
is admitted, unless more `www.` in small letters stand in front of the host than of the domain. -/
theorem covers_respelled_iff (site : Site) {domain : String}
    (hcase : lowered domain.toList = lowered site.domain.toList) :
    ((∀ url, covers { site with domain } url = site.covers url) ↔
        fronts domain.toList = fronts site.domain.toList) ∧
      ∀ url host, url.hostText? = some host → lowered host.toList = lowered site.domain.toList →
        (site.covers url = true ↔ fronts host.toList ≤ fronts site.domain.toList ∧
          site.admitsPath url.pathText = true) := by
  refine ⟨⟨fun hsame => ?_, fun hfronts url => ?_⟩, fun url host hhost hown => ?_⟩
  · rcases Nat.lt_trichotomy (fronts domain.toList) (fronts site.domain.toList) with hlt | heq | hlt
    · obtain ⟨url, hcovers, hmisses⟩ := site.exists_covers_of_fronts_lt hcase hlt
      rw [hsame, hcovers] at hmisses
      exact absurd hmisses (by decide)
    · exact heq
    · obtain ⟨url, hcovers, hmisses⟩ :=
        exists_covers_of_fronts_lt { site with domain } hcase.symm hlt
      rw [hsame] at hcovers
      exact absurd (hcovers.symm.trans hmisses) (by decide)
  · have hbare : bareDomain domain = behindFronts 0 (bareDomain site.domain) :=
      bareDomain_eq_behindFronts hcase hfronts.symm
    unfold covers admitsPath
    rw [hbare, behindFronts]
  · rw [covers_iff, ← coversHost_bareDomain_iff hown]
    simp [hhost]

/-- Two spellings behind a `www.` in small letters, and a page on the host that they spell. -/
theorem covers_respelled_city :
    lowered "www.CITY.example.com".toList = lowered "www.City.Example.com".toList ∧
    (∀ url, covers { id := "events", domain := "www.CITY.example.com" } url =
      covers { id := "events", domain := "www.City.Example.com" } url) ∧
    covers { id := "events", domain := "www.City.Example.com" }
      { scheme := "https", host := some (.domain "www.city.example.com") } = true := by
  have hcase : lowered "www.CITY.example.com".toList = lowered "www.City.Example.com".toList := by
    decide
  obtain ⟨hsame, hown⟩ :=
    covers_respelled_iff { id := "events", domain := "www.City.Example.com" } hcase
  exact ⟨hcase, hsame.mpr (by decide),
    (hown _ "www.city.example.com" (by decide) (by decide)).mpr (by decide)⟩

/-- A `www.` in capitals is not cut off, and the site does not cover the host that it names. -/
theorem not_covers_shouted : ∃ url : Url, Url.parse "https://www.example.com/" = .ok url ∧
    lowered "WWW.example.com".toList = lowered "www.example.com".toList ∧
    covers { id := "events", domain := "www.example.com" } url = true ∧
    covers { id := "events", domain := "WWW.example.com" } url = false :=
  ⟨{ scheme := "https", host := some (.domain "www.example.com") }, by decide +kernel, by decide,
    by decide +kernel, by decide +kernel⟩

end Site

end SiteWatch
