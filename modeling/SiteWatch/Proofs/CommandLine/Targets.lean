/-
# Pages of registered sites

A registered site is scraped at the pages that its operator named, or else at its root. Named pages are
refused unless the site covers them. The root is taken as it is: a site whose patterns leave it out, or
whose domain makes no address, is registered all the same, and its rounds ask for a page that is none of
its own.
-/

import SiteWatch.Proofs.CommandLine.Management
import SiteWatch.Proofs.Url.HostNames

namespace SiteWatch

namespace Site

/-- The page of a site where no other is named. -/
def rootAddress (site : Site) : String := s!"https://{site.domain}/"

/-- Whether an address is that of a page of the site. -/
def CoversPage (site : Site) (address : String) : Prop :=
  ∃ url, Url.parse address = .ok url ∧ site.covers url = true

variable {site : Site}

theorem startsWith_slash_iff (pattern : String) :
    Text.startsWith "/" pattern = true ↔ pattern = "" ∨ pattern = "/" := by
  have hroot : "/".toList = ['/'] := rfl
  rw [Text.startsWith, List.isPrefixOf_iff_prefix, hroot, List.prefix_cons_iff]
  constructor
  · rintro (hnil | ⟨rest, hrest, hnil⟩)
    · exact .inl (String.toList_eq_nil_iff.mp hnil)
    · rw [List.prefix_nil.mp hnil] at hrest
      exact .inr (String.toList_inj.mp hrest)
  · rintro (rfl | rfl)
    · exact .inl rfl
    · exact .inr ⟨[], rfl, List.nil_prefix⟩

theorem admitsPath_slash_iff : site.admitsPath "/" = true ↔
    site.urlPatterns = [] ∨ "" ∈ site.urlPatterns ∨ "/" ∈ site.urlPatterns := by
  simp only [admitsPath, Bool.or_eq_true, List.isEmpty_iff, List.any_eq_true,
    startsWith_slash_iff, and_or_left, exists_or, exists_eq_right]

/-- The root is a page of a site unless the patterns of the site leave it out. -/
theorem coversPage_rootAddress_iff (hdomain : Url.IsPlainName site.domain) :
    site.CoversPage site.rootAddress ↔
      site.urlPatterns = [] ∨ "" ∈ site.urlPatterns ∨ "/" ∈ site.urlPatterns := by
  have hparse : Url.parse site.rootAddress =
      .ok { scheme := "https", host := some (.domain site.domain) } := hdomain.parse_root
  have hcovers : site.covers { scheme := "https", host := some (.domain site.domain) } =
      site.admitsPath "/" := by
    have hhost : (Url.Host.domain site.domain).isEmpty = false := by
      simpa [Url.Host.isEmpty] using hdomain.ne_empty
    have hpath : ({ scheme := "https" : Url }).path.text = "/" := rfl
    simp only [covers, Url.hostText?, hhost, Url.pathText, Url.Host.text, coversHost, hpath]
    simp
  rw [CoversPage, ← admitsPath_slash_iff, ← hcovers, hparse]
  constructor
  · rintro ⟨_, ⟨⟩, hroot⟩
    exact hroot
  · exact fun hroot => ⟨_, rfl, hroot⟩

end Site

namespace Registration

/-- Whether all pages of a round are pages of the site. -/
def CoversPages (r : Registration) : Prop := ∀ address ∈ r.urls, r.site.CoversPage address

theorem urls_of_eq_nil {r : Registration} (hnone : r.targetUrls = []) :
    r.urls = [r.site.rootAddress] := by
  rw [urls, hnone]
  rfl

theorem urls_of_ne_nil {r : Registration} (hsome : r.targetUrls ≠ []) : r.urls = r.targetUrls := by
  rw [urls, if_neg (by simpa using hsome)]

end Registration

namespace Register

/-- A site that is registered is found, with what it was registered with. -/
theorem exists_get?_registered (register : Register) (site : Site) (targetUrls : List String)
    (checkIntervalDays : Nat) (priority : Int) :
    ∃ r, (register.registered site targetUrls checkIntervalDays priority).get? site.id = some r ∧
      r.site = site ∧ r.targetUrls = targetUrls := by
  rw [registered]
  split
  · rename_i hhas
    obtain ⟨r, hr, hid⟩ := List.any_eq_true.mp hhas
    cases hknown : register.get? site.id with
    | none => exact absurd hid (List.find?_eq_none.mp hknown r hr)
    | some known => exact ⟨_, get?_amend_of_get? hknown rfl, rfl, rfl⟩
  · rename_i hnew
    have hnone : register.get? site.id = none :=
      List.find?_eq_none.mpr fun r hr hid => hnew (List.any_eq_true.mpr ⟨r, hr, hid⟩)
    refine ⟨{ site, targetUrls, checkIntervalDays, priority }, ?_, rfl, rfl⟩
    rw [get?] at hnone ⊢
    rw [List.find?_append, hnone]
    simp [Registration.id]

end Register

namespace CommandLine

variable {ν : Type} {network : Network ν} {env : Environment} {words : List String}
  {online : Online ν} {i : Invocation} {document : String} {targetUrls : List String}
  {checkIntervalDays : Nat} {priority : Int}

/-- Whenever a site is registered, the pages that were named are pages of the site, and its rounds
keep to pages of the site if some were named; if none was, they do so just if the root is a page of the
site, which is up to the patterns of the site where its domain is plain. -/
theorem coversPages_iff_of_register
    (hi : Invocation.ofWords (environmentOf env online.files) words = .ok i)
    (hcommand : i.command = .register document targetUrls checkIntervalDays priority)
    (hcode : (runProgram network env words online).1.exitCode = 0) :
    ∃ site register r, Site.load document online.files = .ok site ∧
      i.register.read (runProgram network env words online).2.files = .ok register ∧
      register.get? site.id = some r ∧ r.site = site ∧ r.targetUrls = targetUrls ∧
      (∀ address ∈ targetUrls, site.CoversPage address) ∧
      (r.CoversPages ↔ targetUrls ≠ [] ∨ site.CoversPage site.rootAddress) ∧
      (Url.IsPlainName site.domain → (r.CoversPages ↔ targetUrls ≠ [] ∨
        site.urlPatterns = [] ∨ "" ∈ site.urlPatterns ∨ "/" ∈ site.urlPatterns)) := by
  obtain ⟨site, register, hregisters⟩ := exists_registers hi hcommand hcode
  have hafter := read_runProgram_of_register hi hcommand hcode hregisters.load hregisters.read
  obtain ⟨r, hr, hsite, htargets⟩ :=
    register.exists_get?_registered site targetUrls checkIntervalDays priority
  have hpages : r.CoversPages ↔ targetUrls ≠ [] ∨ site.CoversPage site.rootAddress := by
    rw [Registration.CoversPages, hsite]
    by_cases hnone : targetUrls = []
    · rw [Registration.urls_of_eq_nil (htargets.trans hnone), hsite]
      simp [hnone]
    · rw [Registration.urls_of_ne_nil (htargets ▸ hnone), htargets]
      exact iff_of_true hregisters.covers (.inl hnone)
  refine ⟨site, _, r, hregisters.load, hafter, hr, hsite, htargets, hregisters.covers, hpages, ?_⟩
  intro hdomain
  rw [hpages, Site.coversPage_rootAddress_iff hdomain]

namespace Rehearsal

/-- A page is named, and the rounds keep to it. -/
theorem coversPages_withPage :
    (runProgram Network.unreachable [] addPage ready).1.exitCode = 0 ∧
    ∃ site register r, Site.load "events.json" ready.files = .ok site ∧
      (addition ["https://example.com/events"]).register.read withPage.files = .ok register ∧
      register.get? site.id = some r ∧ r.CoversPages := by
  obtain ⟨site, register, r, hload, hread, hr, -, -, -, hpages, -⟩ :=
    coversPages_iff_of_register ofWords_addPage rfl exitCode_addPage
  exact ⟨exitCode_addPage, site, register, r, hload, hread, hr, hpages.mpr (.inl (by simp))⟩

/-- The words that ask to register the site without naming a page. -/
def addSite : List String := ["registrations", "add", "events.json"]

/-- The machine after these words. -/
def withSite : Online Unit := (runProgram Network.unreachable [] addSite ready).2

theorem ofWords_addSite :
    Invocation.ofWords (environmentOf [] ready.files) addSite = .ok (addition []) := by
  decide

theorem exitCode_addSite : (runProgram Network.unreachable [] addSite ready).1.exitCode = 0 := by
  decide +kernel

/-- A site is registered whose patterns leave its root out, and the root is all that its rounds ask
for. -/
theorem not_coversPages_withSite :
    (runProgram Network.unreachable [] addSite ready).1.exitCode = 0 ∧
    ∃ r : Registration, (addition []).register.read withSite.files = .ok [r] ∧
      r.urls = ["https://example.com/"] ∧ Url.IsPlainName r.site.domain ∧ ¬ r.CoversPages := by
  have hplain : Url.IsPlainName "example.com" :=
    ⟨by decide, Url.forall_mem_of_all (by decide), by decide, by decide⟩
  have hread : (addition []).register.read withSite.files = .ok [{ site := events }] :=
    read_runProgram_of_register ofWords_addSite rfl exitCode_addSite load_events read_ready
  refine ⟨exitCode_addSite, { site := events }, hread, by decide, hplain, fun hpages => ?_⟩
  have hroot := hpages events.rootAddress (List.mem_singleton_self _)
  rw [Site.coversPage_rootAddress_iff hplain] at hroot
  exact absurd hroot (by decide)

end Rehearsal

end CommandLine

end SiteWatch
