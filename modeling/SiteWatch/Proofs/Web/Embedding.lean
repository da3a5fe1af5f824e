/-
# Embedded documents

There are two ways to the documents that are embedded in another one. All of them are found by a selector of
the library's own; a single one is found by a selector from outside, of whatever kind, whose first element is
then looked at. The two agree on every document, however broken its text is, for they read the same tree: an
element that passes for a frame with an address on the second way is one that the first way picks out. So a
frame that a page can be asked for is among those that are tried when it is asked for all of them.
-/

import SiteWatch.Proofs.Web.PageHistory

namespace SiteWatch

/-! ## Frames of a document -/

namespace Css

open Html (Tree Element framesWithSource)

theorem isNamed_iframe_iff {element : Element} :
    isNamed element "iframe" = true ↔ element.name = "iframe" := by
  have hlower : Text.asciiLower "iframe" = "iframe" := by decide +kernel
  simp [isNamed, hlower]

theorem hasAttribute_src_iff {element : Element} :
    hasAttribute element .none "src" .present "" .exact = true ↔
      ∃ source, element.attributes.lookup "src" = some source := by
  have hlower : Text.asciiLower "src" = "src" := by decide +kernel
  rw [← Option.isSome_iff_exists, List.lookup_isSome_iff, hasAttribute, List.any_eq_true]
  refine exists_congr fun kept => and_congr_right fun _ => ?_
  simp only [hlower, ite_self, valuePasses, Bool.and_true, Bool.or_eq_true, beq_iff_eq]
  simp [eq_comm]

/-- The library's own selector of frames asks for the name and for an address. -/
theorem matchesList_framesWithSource {tree : Tree} {anchor : Option Nat} {n : Nat} :
    matchesList tree anchor framesWithSource n = true ↔
      ∃ element source, tree.element? n = some element ∧ element.name = "iframe" ∧
        element.attributes.lookup "src" = some source := by
  simp only [framesWithSource, matchesList, matchesComplex, matchesAll, matchesSimple, Bool.or_false,
    Bool.and_true, Bool.and_eq_true]
  cases hfound : tree.element? n with
  | none => simp
  | some element => simp [isNamed_iframe_iff, hasAttribute_src_iff]

end Css

namespace Html

variable {document selector : String} {base url : Url}

/-- Only what can be fetched is the address of a frame. -/
theorem isWeb_of_frameAddress? {source : String} (hurl : frameAddress? base source = some url) :
    url.scheme = "http" ∨ url.scheme = "https" := by
  unfold frameAddress? at hurl
  split at hurl
  · split at hurl
    · rename_i hweb
      cases hurl
      simpa [Url.isWeb] using hweb
    · cases hurl
  · cases hurl

theorem mem_frameAddresses_iff : url ∈ frameAddresses document base ↔
    ∃ n ∈ Css.elements (parse document), ∃ element source,
      (parse document).element? n = some element ∧ element.name = "iframe" ∧
        element.attributes.lookup "src" = some source ∧ frameAddress? base source = some url := by
  simp only [frameAddresses, List.mem_filterMap, Css.select, List.mem_filter,
    Css.matchesList_framesWithSource, Tree.attribute?]
  constructor
  · rintro ⟨source, ⟨n, ⟨hn, element, other, helement, hname, hother⟩, hsource⟩, hurl⟩
    rw [helement] at hsource
    exact ⟨n, hn, element, source, helement, hname, hsource, hurl⟩
  · rintro ⟨n, hn, element, source, helement, hname, hsource, hurl⟩
    refine ⟨source, ⟨n, ⟨hn, element, source, helement, hname, hsource⟩, ?_⟩, hurl⟩
    rw [helement]
    exact hsource

/-- The frame that a selector names is the first element that it picks out. -/
theorem exists_of_frameAddressOf (hfound : frameAddressOf document base selector = .ok (some url)) :
    ∃ selectors n element source, readSelector selector = .ok selectors ∧
      (Css.select (parse document) selectors).head? = some n ∧
      (parse document).element? n = some element ∧ element.name = "iframe" ∧
      element.attributes.lookup "src" = some source ∧ frameAddress? base source = some url := by
  obtain ⟨selectors, hread, hfound⟩ := bind_eq_ok.mp hfound
  have hsome := Except.ok.inj hfound
  simp only [Option.bind_eq_bind, Option.bind_eq_some_iff, Option.ite_none_right_eq_some,
    beq_iff_eq] at hsome
  obtain ⟨n, hfirst, element, helement, hname, source, hsource, hurl⟩ := hsome
  exact ⟨selectors, n, element, source, hread, hfirst, helement, hname, hsource, hurl⟩

/-- What is found with a selector is found without it. -/
theorem mem_frameAddresses_of_frameAddressOf
    (hfound : frameAddressOf document base selector = .ok (some url)) :
    url ∈ frameAddresses document base := by
  obtain ⟨selectors, n, element, source, -, hfirst, helement, hname, hsource, hurl⟩ :=
    exists_of_frameAddressOf hfound
  have hpicked : n ∈ Css.select (parse document) selectors := List.mem_of_mem_head? hfirst
  exact mem_frameAddresses_iff.mpr
    ⟨n, (List.mem_filter.mp hpicked).1, element, source, helement, hname, hsource, hurl⟩

end Html

/-! ## Frames of a page -/

namespace StaticPage

open Online (sparing)

/-- A frame that was had has an address, and what is in it comes from there. -/
theorem FetchesFrame.exists_address {agent : String} {traffic : List Heard}
    {found : Outcome (Option Url)} {frame : StaticFrame}
    (hfetches : FetchesFrame agent traffic found (.ok (some frame))) :
    ∃ url, found = .ok (some url) ∧ Fetch.IsSound agent ⟨url.text, traffic, .ok frame.document⟩ := by
  match found, hfetches with
  | .ok (some url), ⟨result, hsound, hframe⟩ =>
      cases result with
      | error cause => cases hframe
      | ok document =>
          cases hframe
          exact ⟨url, rfl, hsound⟩

section

variable {ν : Type} (network : Network ν) {limitMs tab : Nat} {agent : String}
  {s t : Online (ν × List Heard)}

/-- A frame that a page is asked for is fetched from the address that it has in the document. -/
theorem exists_fetch_of_contentFrame {selector : String} {frame : StaticFrame}
    (hends : ((page network.noting limitMs agent tab).contentFrame selector).run.CanEnd (sparing tab)
      (.ok (some frame)) t s) :
    ∃ document url traffic, s.document? tab = some document ∧
      Html.frameAddressOf document.html document.url selector = .ok (some url) ∧
      t.network.2 = s.network.2 ++ traffic ∧
      Fetch.IsSound agent ⟨url.text, traffic, .ok frame.document⟩ := by
  obtain ⟨traffic, hhappens⟩ := happens_contentFrame network hends
  obtain ⟨url, hfound, hsound⟩ := FetchesFrame.exists_address hhappens.answered
  cases hshown : s.document? tab with
  | none =>
      rw [hshown] at hfound
      cases hfound
  | some document =>
      rw [hshown] at hfound
      exact ⟨document, url, traffic, rfl, hfound, hhappens.heard, hsound⟩

/-- All frames of a page are fetched from the addresses that they have in the document. -/
theorem exists_fetches_of_frames {document : WebDocument} {outcome : Outcome (List StaticFrame)}
    (hshown : s.document? tab = some document)
    (hends : (page network.noting limitMs agent tab).frames.run.CanEnd (sparing tab) outcome t s) :
    ∃ fetches, AreFetches agent (Html.frameAddresses document.html document.url) fetches ∧
      t.network.2 = s.network.2 ++ fetches.flatMap (·.traffic) ∧
      outcome = .ok (framesOf agent fetches) := by
  obtain ⟨traffic, hhappens⟩ := happens_frames network hends
  have hanswered := hhappens.answered
  rw [hshown] at hanswered
  obtain ⟨fetches, hfetches, htraffic, houtcome⟩ := hanswered
  exact ⟨fetches, hfetches, htraffic ▸ hhappens.heard, houtcome⟩

end

/-- What a selector finds is an address on the web and among those that are found without it. So, when a page
has a frame to show for a selector, and is asked for all frames of the same document, now or later and with
whatever luck, one of the fetches is of the address where this frame comes from. -/
theorem frame_isAmong_frames :
    (∀ (html selector : String) (base url : Url),
      Html.frameAddressOf html base selector = .ok (some url) →
        (url.scheme = "http" ∨ url.scheme = "https") ∧ url ∈ Html.frameAddresses html base) ∧
    ∀ {ν : Type} (network : Network ν) (limitMs tab : Nat) (agent selector : String)
      (frame : StaticFrame) (s t : Online (ν × List Heard)),
      ((page network.noting limitMs agent tab).contentFrame selector).run.CanEnd (sparing tab)
        (.ok (some frame)) t s →
      ∃ (document : WebDocument) (url : Url) (traffic : List Heard),
        s.document? tab = some document ∧
        Html.frameAddressOf document.html document.url selector = .ok (some url) ∧
        t.network.2 = s.network.2 ++ traffic ∧
        Fetch.IsSound agent ⟨url.text, traffic, .ok frame.document⟩ ∧
        (page network.noting limitMs agent tab).frames.run.Halts ∧
        ∀ (outcome : Outcome (List StaticFrame)) (u v : Online (ν × List Heard)),
          u.document? tab = some document →
          (page network.noting limitMs agent tab).frames.run.CanEnd (sparing tab) outcome v u →
          ∃ fetches, AreFetches agent (Html.frameAddresses document.html document.url) fetches ∧
            v.network.2 = u.network.2 ++ fetches.flatMap (·.traffic) ∧
            outcome = .ok (framesOf agent fetches) ∧ ∃ fetch ∈ fetches, fetch.address = url.text := by
  constructor
  · intro html selector base url hfound
    obtain ⟨-, -, -, source, -, -, -, -, -, hurl⟩ := Html.exists_of_frameAddressOf hfound
    exact ⟨Html.isWeb_of_frameAddress? hurl, Html.mem_frameAddresses_of_frameAddressOf hfound⟩
  · intro ν network limitMs tab agent selector frame s t hframe
    obtain ⟨document, url, traffic, hshown, hfound, hheard, hsound⟩ :=
      exists_fetch_of_contentFrame network hframe
    refine ⟨document, url, traffic, hshown, hfound, hheard, hsound,
      halts_ask network.noting .frames, ?_⟩
    intro outcome u v hsame hframes
    obtain ⟨fetches, hfetches, htraffic, houtcome⟩ := exists_fetches_of_frames network hsame hframes
    refine ⟨fetches, hfetches, htraffic, houtcome, ?_⟩
    have haddress : url.text ∈ fetches.map (·.address) := by
      rw [hfetches.addresses]
      exact List.mem_map_of_mem (Html.mem_frameAddresses_of_frameAddressOf hfound)
    exact List.mem_map.mp haddress

namespace Rehearsal

-- The kernel runs the page; the elaborator shall not.
attribute [local irreducible] page

/-- A listing with two frames. -/
def listing : WebDocument where
  url := { scheme := "http", host := some (.domain "events.example"), path := .absolute ["list"] }
  html := "<iframe src=/map></iframe><iframe id=day src=day></iframe>"

/-- A network with the calendar of the listing, but without its map. -/
def calendarNetwork : Network SiteWatch.Rehearsal.NetworkLog :=
  SiteWatch.Rehearsal.NetworkScript.network [("http://events.example/day", [
    { reply := some { status := 200, body := some "<p>Jazz night</p>" }, delayMs := 40 }])]

/-- A machine that shows the listing. -/
def reader : Online (SiteWatch.Rehearsal.NetworkLog × List Heard) where
  network := ({}, [])
  tabs := [some listing]

/-- The calendar is a frame of its own, and one of the two that are tried when all are wanted. -/
theorem calendar_isAmong_frames : ∃ url frame t outcome v fetches,
    Html.frameAddressOf listing.html listing.url "#day" = .ok (some url) ∧
    (url.scheme = "http" ∨ url.scheme = "https") ∧
    ((page calendarNetwork.noting 30000 "Reader" 0).contentFrame "#day").run.CanEnd (sparing 0)
      (.ok (some frame)) t reader ∧
    frame.document.html = "<p>Jazz night</p>" ∧
    (page calendarNetwork.noting 30000 "Reader" 0).frames.run.CanEnd (sparing 0) outcome v reader ∧
    outcome = .ok (framesOf "Reader" fetches) ∧ fetches.length = 2 ∧
    ∃ fetch ∈ fetches, fetch.address = url.text := by
  have hcalendar : (((page calendarNetwork.noting 30000 "Reader" 0).contentFrame "#day").run.run
      none 0 reader).bind (fun ended => ended.1.toOption.join.map (·.document.html)) =
        some "<p>Jazz night</p>" := by
    decide +kernel
  have htwo : (Html.frameAddresses listing.html listing.url).length = 2 := by decide +kernel
  obtain ⟨⟨outcome, clock, t⟩, hrun, hframe⟩ := Option.bind_eq_some_iff.mp hcalendar
  obtain ⟨frame, hhad, hjazz⟩ := Option.map_eq_some_iff.mp hframe
  have houtcome : outcome = .ok (some frame) := by
    cases outcome with
    | error cause => cases hhad
    | ok found => exact congrArg Except.ok hhad
  subst houtcome
  have hundisturbed : ∀ (pause : Pause (Online (SiteWatch.Rehearsal.NetworkLog × List Heard)))
      wake elapsed s, pause.endsBy wake elapsed s = true → sparing 0 pause wake elapsed s s :=
    fun _ _ _ _ hwake => ⟨hwake, rfl⟩
  have hends := Activity.canEnd_of_run hundisturbed hrun
  obtain ⟨hagrees, hframes⟩ := frame_isAmong_frames
  obtain ⟨document, url, traffic, hshown, hfound, -, -, hhalts, hall⟩ :=
    hframes calendarNetwork 30000 0 "Reader" "#day" frame reader t hends
  cases hshown
  obtain ⟨outcome, v, hidle⟩ := hhalts reader
  have hlast : (page calendarNetwork.noting 30000 "Reader" 0).frames.run.CanEnd (sparing 0) outcome v
      reader := by
    apply hidle.mono
    rintro pause wake elapsed _ s ⟨hwake, rfl⟩
    exact hundisturbed pause wake elapsed s (Activity.endsBy_of_firstWake hwake)
  obtain ⟨fetches, hfetches, -, hframes, hfetch⟩ := hall outcome reader v rfl hlast
  have hlength : fetches.length = 2 := by
    have haddresses := congrArg List.length hfetches.addresses
    rwa [List.length_map, List.length_map, htwo] at haddresses
  exact ⟨url, frame, t, outcome, v, fetches, hfound, (hagrees _ _ _ _ hfound).1, hends, hjazz, hlast,
    hframes, hlength, hfetch⟩

end Rehearsal

end StaticPage

end SiteWatch
