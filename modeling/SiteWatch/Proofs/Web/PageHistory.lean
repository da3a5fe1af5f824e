/-
# Histories of pages

What is asked of one page, call after call, while the network does as it likes and others are busy with
other tabs. Every call is an entry in the history of the page, with the traffic that it caused. A page
has no memory but its document, and only a navigation that succeeds changes that. So every call is answered
from the document of the latest navigation that has succeeded, text and address of one and the same reply; a
navigation that fails, for want of a reply, for its status or in the middle of the text, leaves the page as
it was; and as long as none has succeeded there is no address and nothing to be queried.
-/

import SiteWatch.Proofs.Web.Fetches
import SiteWatch.Rehearsal.Network

namespace SiteWatch

variable {ν α : Type}

/-! ## Calls -/

/-- What can be asked of a page. -/
inductive Page.Call where
  | select (selector : String) (attributeName : Option String) (multiple : Bool)
  | contentFrame (selector : String)
  | address
  | goto (url : String)
  | click (selector : String)
  | enter (selector text : String)
  | scroll (selector : Option String)
  | awaitSelector (selector : String)
  | awaitNavigation
  | awaitNetworkIdle
  | screenshot
  | frames
  | memoryUsage

namespace Page.Call

/-- What a call that succeeds is answered with. -/
@[reducible]
def Value (F : Type) : Page.Call → Type
  | select .. => List String
  | contentFrame _ => Option F
  | address => Option String
  | screenshot => ByteArray
  | frames => List F
  | memoryUsage => Option Nat
  | goto _ | click _ | enter .. | scroll _ | awaitSelector _ | awaitNavigation | awaitNetworkIdle => Unit

/-- Ask a page. -/
def ask {σ F : Type} (page : Page σ F) : (call : Page.Call) → Attempt σ (call.Value F)
  | select selector attributeName multiple => page.select selector attributeName multiple
  | contentFrame selector => page.contentFrame selector
  | address => page.address
  | goto url => page.goto url
  | click selector => page.click selector
  | enter selector text => page.enter selector text
  | scroll selector => page.scroll selector
  | awaitSelector selector => page.awaitSelector selector
  | awaitNavigation => page.awaitNavigation
  | awaitNetworkIdle => page.awaitNetworkIdle
  | screenshot => page.screenshot
  | frames => page.frames
  | memoryUsage => page.memoryUsage

end Page.Call

namespace StaticPage

open Online (Hears sparing)

-- Fetches are known here only by their traffic.
attribute [local irreducible] fetch fetchFrameOf fetchFrames

/-- A call of a page: what came of it, and the traffic that it caused. -/
structure Entry where
  call : Page.Call
  outcome : Outcome (call.Value StaticFrame)
  traffic : List Heard

namespace Entry

/-- The document that a call brings to the page: that of a navigation that succeeds. -/
def document? : Entry → Option WebDocument
  | ⟨.goto _, .ok _, traffic⟩ => Heard.document? traffic
  | _ => none

/-- What a page shows after some calls: the document of the latest navigation that has succeeded. -/
def latest? (earlier : List Entry) : Option WebDocument := (earlier.filterMap document?).getLast?

/-- What a page shows, for who cannot do without. -/
def present : Option WebDocument → Outcome WebDocument
  | some document => .ok document
  | none => .error (.extractionFailed "no document loaded")

/-- Whether there is something in a document; nothing comes that is not there already. -/
def found (selector : String) (document : WebDocument) : Outcome Unit := do
  let values ← Html.selectValues document.html selector none false
  if values.isEmpty then
    throw (.extractionFailed s!"'{selector}' is not present in the static document")

/-- A call is answered from what the page shows. Only navigations and frames have to do with the network;
where these come from is decided by what the page shows as well. -/
def IsAnswered (agent : String) (shown : Option WebDocument) : Entry → Prop
  | ⟨.goto address, outcome, traffic⟩ => ∃ result, Fetch.IsSound agent ⟨address, traffic, result⟩ ∧
      outcome = result.map fun _ => ()
  | ⟨.select selector attributeName multiple, outcome, traffic⟩ => traffic = [] ∧
      outcome = do Html.selectValues (← present shown).html selector attributeName multiple
  | ⟨.awaitSelector selector, outcome, traffic⟩ => traffic = [] ∧
      outcome = present shown >>= found selector
  | ⟨.address, outcome, traffic⟩ => traffic = [] ∧ outcome = .ok (shown.map (·.url.text))
  | ⟨.contentFrame selector, outcome, traffic⟩ => FetchesFrame agent traffic
      (do
        let document ← present shown
        Html.frameAddressOf document.html document.url selector) outcome
  | ⟨.frames, outcome, traffic⟩ => FetchesFrames agent traffic
      (do
        let document ← present shown
        return Html.frameAddresses document.html document.url) outcome
  | ⟨.click _, outcome, traffic⟩ => traffic = [] ∧
      outcome = .error (.invalid "click requires the browser engine")
  | ⟨.enter .., outcome, traffic⟩ => traffic = [] ∧
      outcome = .error (.invalid "type requires the browser engine")
  | ⟨.screenshot, outcome, traffic⟩ => traffic = [] ∧
      outcome = .error (.invalid "screenshot requires the browser engine")
  | ⟨.scroll _, outcome, traffic⟩ => traffic = [] ∧ outcome = .ok ()
  | ⟨.awaitNavigation, outcome, traffic⟩ => traffic = [] ∧ outcome = .ok ()
  | ⟨.awaitNetworkIdle, outcome, traffic⟩ => traffic = [] ∧ outcome = .ok ()
  | ⟨.memoryUsage, outcome, traffic⟩ => traffic = [] ∧ outcome = .ok none

end Entry

/-! ## One call -/

section

variable (network : Network ν) {limitMs tab : Nat} {agent : String}

/-- What a call does: it is answered from what the tab shows, and afterwards the tab shows what the call
has brought, if that is anything. -/
structure Entry.Happens (agent : String) (tab : Nat) (entry : Entry)
    (s t : Online (ν × List Heard)) : Prop where
  answered : entry.IsAnswered agent (s.document? tab)
  heard : t.network.2 = s.network.2 ++ entry.traffic
  shows : t.tabs[tab]? = s.tabs[tab]?.map (entry.document?.or ·)

variable {s t : Online (ν × List Heard)} {entry : Entry}

theorem Entry.Happens.of_hears (hanswered : entry.IsAnswered agent (s.document? tab))
    (hears : Hears tab entry.traffic s t) (hnothing : entry.document? = none) :
    entry.Happens agent tab s t where
  answered := hanswered
  heard := hears.heard
  shows := by
    rw [hears.spared, hnothing]
    exact Option.map_id'.symm

theorem loaded_eq (tab : Nat) : (loaded tab : Attempt (Online ν) WebDocument) =
    Attempt.step fun online => (Entry.present (online.document? tab), online) := rfl

/-- What is asked of the document in a tab. -/
theorem canEnd_loaded_bind {meantime : Meantime (Online ν)} {andThen : WebDocument → Attempt (Online ν) α}
    {outcome : Outcome α} {s t : Online ν} :
    (loaded tab >>= andThen).run.CanEnd meantime outcome t s ↔
      match Entry.present (s.document? tab) with
      | .error cause => outcome = .error cause ∧ s = t
      | .ok document => (andThen document).run.CanEnd meantime outcome t s := by
  have hstep : (loaded tab >>= andThen).run.CanEnd meantime outcome t s =
      Activity.CanEnd meantime outcome t
        (ExceptT.bindCont andThen (Entry.present (s.document? tab))) s := by
    rw [loaded_eq]
    rfl
  rw [hstep]
  cases Entry.present (s.document? tab) with
  | error cause => exact and_congr_left' eq_comm
  | ok document => exact Iff.rfl

/-- What is asked of the document in a tab and answered from it at once. -/
theorem canEnd_queried {meantime : Meantime (Online ν)} {answer : WebDocument → Outcome α}
    {outcome : Outcome α} {s t : Online ν}
    (hends : (loaded tab >>= fun document => Attempt.ofOutcome (answer document)).run.CanEnd
      meantime outcome t s) :
    outcome = Entry.present (s.document? tab) >>= answer ∧ s = t := by
  rw [canEnd_loaded_bind] at hends
  cases hshown : Entry.present (s.document? tab) with
  | error cause =>
      rw [hshown] at hends
      exact hends
  | ok document =>
      rw [hshown] at hends
      exact ⟨hends.1.symm, hends.2⟩

/-- What a page shows is there at once or not at all. -/
theorem awaitSelector_eq (selector : String) :
    (page network limitMs agent tab).awaitSelector selector =
      loaded tab >>= fun document => Attempt.ofOutcome (Entry.found selector document) := by
  refine congrArg (loaded tab >>= ·) (funext fun document => ?_)
  unfold Entry.found
  cases Html.selectValues document.html selector none false with
  | error cause => rfl
  | ok values => cases values <;> rfl

theorem happens_at_once {call : Page.Call} {outcome : Outcome (call.Value StaticFrame)}
    (hanswered : Entry.IsAnswered agent (s.document? tab) ⟨call, outcome, []⟩) (hsame : s = t)
    (hnothing : Entry.document? ⟨call, outcome, []⟩ = none) :
    Entry.Happens agent tab ⟨call, outcome, []⟩ s t := by
  subst hsame
  exact .of_hears hanswered (.refl tab s) hnothing

/-- What is asked of the document in a tab and had over the network. Nothing is sent for a tab that shows
nothing. -/
theorem exists_of_loaded_bind {β : Type} (Fetches : List Heard → Outcome β → Outcome α → Prop)
    (asked : WebDocument → Outcome β) {andThen : WebDocument → Attempt (Online (ν × List Heard)) α}
    {outcome : Outcome α} (hfails : ∀ cause, Fetches [] (.error cause) (.error cause))
    (hthen : ∀ document, (andThen document).run.CanEnd (sparing tab) outcome t s →
      ∃ traffic, Hears tab traffic s t ∧ Fetches traffic (asked document) outcome)
    (hends : (loaded tab >>= andThen).run.CanEnd (sparing tab) outcome t s) :
    ∃ traffic, Hears tab traffic s t ∧
      Fetches traffic (Entry.present (s.document? tab) >>= asked) outcome := by
  rw [canEnd_loaded_bind] at hends
  cases hshown : Entry.present (s.document? tab) with
  | error cause =>
      rw [hshown] at hends
      obtain ⟨rfl, rfl⟩ := hends
      exact ⟨[], .refl tab s, hfails cause⟩
  | ok document =>
      rw [hshown] at hends
      exact hthen document hends

theorem happens_contentFrame {selector : String} {outcome : Outcome (Option StaticFrame)}
    (hends : ((page network.noting limitMs agent tab).contentFrame selector).run.CanEnd (sparing tab)
      outcome t s) :
    ∃ traffic, Entry.Happens agent tab ⟨.contentFrame selector, outcome, traffic⟩ s t := by
  obtain ⟨traffic, hears, hfetched⟩ := exists_of_loaded_bind (FetchesFrame agent)
    (fun document => Html.frameAddressOf document.html document.url selector)
    (fun _ => ⟨rfl, rfl⟩) (fun _ => exists_fetchesFrame network) hends
  exact ⟨traffic, .of_hears hfetched hears rfl⟩

theorem happens_frames {outcome : Outcome (List StaticFrame)}
    (hends : (page network.noting limitMs agent tab).frames.run.CanEnd (sparing tab) outcome t s) :
    ∃ traffic, Entry.Happens agent tab ⟨.frames, outcome, traffic⟩ s t := by
  obtain ⟨traffic, hears, hfetched⟩ := exists_of_loaded_bind (FetchesFrames agent)
    (fun document => .ok (Html.frameAddresses document.html document.url))
    (fun _ => ⟨rfl, rfl⟩) (fun _ => exists_fetchesFrames network) hends
  exact ⟨traffic, .of_hears hfetched hears rfl⟩

theorem happens_goto {address : String} {outcome : Outcome Unit}
    (hends : ((page network.noting limitMs agent tab).goto address).run.CanEnd (sparing tab) outcome t s) :
    ∃ traffic, Entry.Happens agent tab ⟨.goto address, outcome, traffic⟩ s t := by
  obtain ⟨cause, hfetch, rfl⟩ | ⟨document, u, hfetch, hshow⟩ := Attempt.canEnd_bind.mp hends
  · obtain ⟨traffic, hears, hsound⟩ := exists_fetch network hfetch
    exact ⟨traffic, .of_hears ⟨_, hsound, rfl⟩ hears rfl⟩
  · obtain ⟨traffic, hears, hsound⟩ := exists_fetch network hfetch
    obtain ⟨rfl, rfl⟩ := hshow
    refine ⟨traffic, ⟨_, hsound, rfl⟩, hears.heard, ?_⟩
    have hbrought : Entry.document? ⟨.goto address, .ok (), traffic⟩ = some document :=
      (hsound.brings document).mp rfl
    rw [hbrought, ← hears.spared]
    exact List.getElem?_set_self'

/-- Whatever is asked of a page, the call is answered from what the page shows. -/
theorem exists_entry {call : Page.Call} {outcome : Outcome (call.Value StaticFrame)}
    (hends : (call.ask (page network.noting limitMs agent tab)).run.CanEnd (sparing tab) outcome t s) :
    ∃ traffic, Entry.Happens agent tab ⟨call, outcome, traffic⟩ s t := by
  cases call with
  | select selector attributeName multiple =>
      obtain ⟨houtcome, hsame⟩ := canEnd_queried hends
      exact ⟨[], happens_at_once ⟨rfl, houtcome⟩ hsame rfl⟩
  | awaitSelector selector =>
      rw [Page.Call.ask, awaitSelector_eq] at hends
      obtain ⟨houtcome, hsame⟩ := canEnd_queried hends
      exact ⟨[], happens_at_once ⟨rfl, houtcome⟩ hsame rfl⟩
  | contentFrame selector => exact happens_contentFrame network hends
  | frames => exact happens_frames network hends
  | goto address => exact happens_goto network hends
  | address => exact ⟨[], happens_at_once ⟨rfl, hends.1.symm⟩ hends.2 rfl⟩
  | click | enter | screenshot | scroll | awaitNavigation | awaitNetworkIdle | memoryUsage =>
      exact ⟨[], happens_at_once ⟨rfl, hends.1.symm⟩ hends.2 rfl⟩

/-! ## Calls without notes -/

theorem halts_loaded_bind {andThen : WebDocument → Attempt (Online ν) α}
    (hthen : ∀ document, (andThen document).run.Halts) : (loaded tab >>= andThen).run.Halts :=
  Attempt.halts_bind (Activity.halts_step _) hthen

/-- Every call comes to an end, for what it waits for has a deadline. -/
theorem halts_ask (call : Page.Call) : (call.ask (page network limitMs agent tab)).run.Halts := by
  cases call with
  | select => exact halts_loaded_bind fun _ => Activity.halts_done _
  | awaitSelector selector =>
      rw [Page.Call.ask, awaitSelector_eq]
      exact halts_loaded_bind fun _ => Activity.halts_done _
  | contentFrame selector =>
      exact halts_loaded_bind fun document => halts_fetchFrameOf network limitMs agent document selector
  | frames =>
      exact halts_loaded_bind fun _ =>
        Activity.halts_bind (halts_fetchFrames network limitMs agent _) fun _ => Activity.halts_done _
  | goto address =>
      exact Attempt.halts_bind (halts_fetch network limitMs agent address) fun _ _ => ⟨_, _, rfl, rfl⟩
  | address => exact Activity.halts_step _
  | click | enter | screenshot | scroll | awaitNavigation | awaitNetworkIdle | memoryUsage =>
      exact Activity.halts_done _

theorem shadows_loaded_bind {andThen : WebDocument → Attempt (Online (ν × List Heard)) α}
    {plainThen : WebDocument → Attempt (Online ν) α}
    (hthen : ∀ document,
      Activity.Shadows Online.plain (andThen document).run (plainThen document).run) :
    Activity.Shadows Online.plain (loaded tab >>= andThen).run (loaded tab >>= plainThen).run :=
  Attempt.shadows_bind (.act (fun _ => rfl) fun _ => .done _) hthen

theorem shadows_ask (call : Page.Call) :
    Activity.Shadows Online.plain (call.ask (page network.noting limitMs agent tab)).run
      (call.ask (page network limitMs agent tab)).run := by
  cases call with
  | select => exact shadows_loaded_bind fun _ => .done _
  | awaitSelector selector =>
      rw [Page.Call.ask, Page.Call.ask, awaitSelector_eq, awaitSelector_eq]
      exact shadows_loaded_bind fun _ => .done _
  | contentFrame selector =>
      exact shadows_loaded_bind fun document =>
        shadows_fetchFrameOf network limitMs agent document selector
  | frames =>
      exact shadows_loaded_bind fun _ =>
        (shadows_fetchFrames network limitMs agent _).bind fun _ => .done _
  | goto address =>
      exact Attempt.shadows_bind (shadows_fetch network limitMs agent address) fun _ =>
        .act (fun _ => rfl) fun _ => .done _
  | address => exact .act (fun _ => rfl) fun _ => .done _
  | click | enter | screenshot | scroll | awaitNavigation | awaitNetworkIdle | memoryUsage =>
      exact .done _

/-- Every call has its traffic. -/
theorem canEnd_ask_iff {call : Page.Call} {outcome : Outcome (call.Value StaticFrame)}
    {s t : Online ν} :
    (call.ask (page network limitMs agent tab)).run.CanEnd (.leaving fun online => online.tabs[tab]?)
        outcome t s ↔
      ∃ traffic, (call.ask (page network.noting limitMs agent tab)).run.CanEnd (sparing tab) outcome
        (t.noted traffic) (s.noted []) := by
  refine Online.canEnd_iff_noted ?_ ?_ (shadows_ask network call)
  · rintro pause wake elapsed v w ⟨hwake, hspared⟩
    exact ⟨by cases wake <;> exact hwake, congrArg Prod.snd hspared⟩
  · rintro pause wake elapsed v w ⟨hwake, hspared⟩
    exact ⟨by cases wake <;> exact hwake, congrArg (Prod.mk v.network.2) hspared⟩

end

/-! ## One call after another -/

open Entry (latest?)

/-- Calls of one page, one after another, from the opening of its tab on. Others may do what they like, in
between and while a call waits, but not to this tab. -/
inductive HasHistory (network : Network ν) (limitMs : Nat) (agent : String) (tab : Nat) :
    List Entry → Online ν → Prop where
  | opened {s t : Online ν} (hopened : openTab.run.CanEnd .free (.ok tab) t s) :
      HasHistory network limitMs agent tab [] t
  | passed {log : List Entry} {s t : Online ν} (hhistory : HasHistory network limitMs agent tab log s)
      (hspared : t.tabs[tab]? = s.tabs[tab]?) : HasHistory network limitMs agent tab log t
  | called {log : List Entry} {s t : Online ν} {call : Page.Call}
      {outcome : Outcome (call.Value StaticFrame)} {traffic : List Heard}
      (hhistory : HasHistory network limitMs agent tab log s)
      (hends : (call.ask (page network.noting limitMs agent tab)).run.CanEnd (sparing tab) outcome
        (t.noted traffic) (s.noted [])) :
      HasHistory network limitMs agent tab (log ++ [⟨call, outcome, traffic⟩]) t

theorem latest?_concat (earlier : List Entry) (entry : Entry) :
    latest? (earlier ++ [entry]) = entry.document?.or (latest? earlier) := by
  rw [latest?, latest?, List.filterMap_append, List.getLast?_append]
  cases hbrought : entry.document? <;> simp [hbrought]

namespace HasHistory

variable {network : Network ν} {limitMs tab : Nat} {agent : String} {log : List Entry} {s : Online ν}

/-- A page shows the document of the latest navigation that has succeeded. -/
theorem shows (hhistory : HasHistory network limitMs agent tab log s) :
    s.tabs[tab]? = some (latest? log) := by
  induction hhistory with
  | opened hopened =>
      obtain ⟨htab, rfl⟩ := hopened
      cases htab
      exact List.getElem?_concat_length
  | passed _ hspared ih => exact hspared.trans ih
  | @called log s t call outcome traffic _ hends ih =>
      obtain ⟨heard, hhappens⟩ := exists_entry network hends
      have htraffic : heard = traffic := hhappens.heard.symm
      subst htraffic
      have hshows : t.tabs[tab]? = s.tabs[tab]?.map
          (Entry.document? ⟨call, outcome, heard⟩ |>.or ·) := hhappens.shows
      rw [hshows, ih, latest?_concat]
      rfl

theorem document?_eq (hhistory : HasHistory network limitMs agent tab log s) :
    s.document? tab = latest? log := by
  rw [Online.document?, hhistory.shows]
  rfl

/-- Every call is answered from the document of the latest navigation before it that has succeeded. -/
theorem isAnswered (hhistory : HasHistory network limitMs agent tab log s) {before : List Entry}
    {entry : Entry} (hbefore : before ++ [entry] <+: log) : entry.IsAnswered agent (latest? before) := by
  induction hhistory with
  | opened hopened => simp at hbefore
  | passed _ _ ih => exact ih hbefore
  | @called log s t call outcome traffic hhistory hends ih =>
      rcases List.prefix_concat_iff.mp hbefore with hlast | hearlier
      · obtain ⟨rfl, hentry⟩ := List.append_inj' hlast rfl
        cases hentry
        obtain ⟨heard, hhappens⟩ := exists_entry network hends
        have htraffic : heard = traffic := hhappens.heard.symm
        subst htraffic
        have hshown : (s.noted []).document? tab = latest? before := hhistory.document?_eq
        rw [← hshown]
        exact hhappens.answered
      · exact ih hearlier

/-- Whatever was asked of a page, and whatever the network did: every call was answered from the document
of the latest navigation before it that had succeeded, and the page still shows the latest of all. And
whatever is asked next, it can be gone on with to an end, and every end of it makes the history longer by
one entry. -/
theorem answered_from_latest (hhistory : HasHistory network limitMs agent tab log s) :
    (∀ before entry, before ++ [entry] <+: log → entry.IsAnswered agent (latest? before)) ∧
    s.document? tab = latest? log ∧
    ∀ call : Page.Call, (call.ask (page network limitMs agent tab)).run.Halts ∧
      ∀ outcome t, (call.ask (page network limitMs agent tab)).run.CanEnd
        (.leaving fun online => online.tabs[tab]?) outcome t s →
          ∃ traffic, HasHistory network limitMs agent tab (log ++ [⟨call, outcome, traffic⟩]) t := by
  refine ⟨fun before entry => hhistory.isAnswered, hhistory.document?_eq, fun call => ?_⟩
  refine ⟨halts_ask network call, fun outcome t hends => ?_⟩
  obtain ⟨traffic, hnoted⟩ := (canEnd_ask_iff network).mp hends
  exact ⟨traffic, .called hhistory hnoted⟩

/-- Calls in a row, while nothing else goes on. -/
def row? (network : Network ν) (limitMs : Nat) (agent : String) (tab : Nat) :
    List Page.Call → Online ν → Option (List Entry × Online ν)
  | [], s => some ([], s)
  | call :: rest, s => do
    let (outcome, _, t) ← (call.ask (page network.noting limitMs agent tab)).run.run none 0 (s.noted [])
    let (log, last) ← row? network limitMs agent tab rest t.plain
    some (⟨call, outcome, t.network.2⟩ :: log, last)

/-- Calls in a row are calls one after another. -/
theorem of_row? {calls : List Page.Call} {later : List Entry} {t : Online ν}
    (hhistory : HasHistory network limitMs agent tab log s)
    (hrow : row? network limitMs agent tab calls s = some (later, t)) :
    HasHistory network limitMs agent tab (log ++ later) t := by
  induction calls generalizing log s later with
  | nil =>
      cases hrow
      rwa [List.append_nil]
  | cons call rest ih =>
      simp only [row?, Option.bind_eq_bind, Option.bind_eq_some_iff] at hrow
      obtain ⟨⟨outcome, clock, u⟩, hrun, ⟨last, v⟩, hrest, hsame⟩ := hrow
      cases hsame
      have hends : (call.ask (page network.noting limitMs agent tab)).run.CanEnd (sparing tab) outcome
          (u.plain.noted u.network.2) (s.noted []) :=
        Activity.canEnd_of_run (fun _ _ _ _ hwake => ⟨hwake, rfl⟩) hrun
      rw [List.append_cons]
      exact ih (hhistory.called hends) hrest

end HasHistory

namespace Rehearsal

open HasHistory (row?)

/-- A network with a site that moves one of its pages, breaks off in the middle of another, has lost a third
and soon does not answer any more. -/
def network : Network SiteWatch.Rehearsal.NetworkLog :=
  SiteWatch.Rehearsal.NetworkScript.network [
    ("http://example.com/list", [
      { reply := some { status := 200, body := some "<h1>List</h1><iframe src=part></iframe>" } },
      { reply := none }]),
    ("http://example.com/part", [
      { reply := some { status := 200, body := some "<p>Part</p>" }, delayMs := 40 }]),
    ("http://example.com/torn", [{ reply := some { status := 200, body := none } }]),
    ("http://example.com/old", [{ reply := some { status := 301, location := some "new" } }]),
    ("http://example.com/new", [
      { reply := some { status := 200, body := some "<h1>New</h1>" }, delayMs := 40 }])]

/-- Navigations that fail in different ways, with two that succeed in between, and what the page says
after each of them. -/
def calls : List Page.Call := [
  .address, .select "h1" none false,
  .goto "http://example.com/lost", .address,
  .goto "http://example.com/list", .address,
  .goto "http://example.com/torn", .select "h1" none false,
  .goto "http://example.com/list", .frames,
  .goto "http://example.com/old", .address, .select "h1" none false]

/-- What there is to be read in an answer. -/
def texts : Entry → Option (List String)
  | ⟨.address, .ok address, _⟩ => some address.toList
  | ⟨.select .., .ok values, _⟩ => some values
  | ⟨.frames, .ok frames, _⟩ => some (frames.map (·.document.html))
  | ⟨.goto _, .ok _, _⟩ => some []
  | _ => none

/-- At first there is nothing to be read; then the page is the list, whatever fails; and in the end it is
where the old address leads to. -/
theorem answered_from_latest_row : ∃ log t,
    row? network 30000 "Reader" 0 calls { network := {}, tabs := [none] } = some (log, t) ∧
      log.map texts = [some [], none, none, some [], some [], some ["http://example.com/list"],
        none, some ["List"], none, some ["<p>Part</p>"], some [], some ["http://example.com/new"],
        some ["New"]] ∧
      (∀ before entry, before ++ [entry] <+: log → entry.IsAnswered "Reader" (latest? before)) ∧
      (t.document? 0).map (·.html) = some "<h1>New</h1>" := by
  have hoverview : (row? network 30000 "Reader" 0 calls { network := {}, tabs := [none] }).map
      (fun row => (row.1.map texts, (row.2.document? 0).map (·.html))) = some ([some [], none, none,
        some [], some [], some ["http://example.com/list"], none, some ["List"], none,
        some ["<p>Part</p>"], some [], some ["http://example.com/new"], some ["New"]],
        some "<h1>New</h1>") := by
    decide +kernel
  obtain ⟨⟨log, t⟩, hrow, hlog⟩ := Option.map_eq_some_iff.mp hoverview
  have hopened : HasHistory network 30000 "Reader" 0 [] { network := {}, tabs := [none] } :=
    .opened (s := { network := {} }) ⟨rfl, rfl⟩
  have hhistory : HasHistory network 30000 "Reader" 0 ([] ++ log) t := hopened.of_row? hrow
  obtain ⟨htexts, hshown⟩ := Prod.mk.inj hlog
  exact ⟨log, t, hrow, htexts, hhistory.answered_from_latest.1, hshown⟩

end Rehearsal

end StaticPage

end SiteWatch
