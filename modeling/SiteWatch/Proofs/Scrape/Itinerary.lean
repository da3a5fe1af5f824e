/-
# Where a scrape goes

The robots rules are asked once, about the page that was requested, before anything is done with a
browser. A page then goes where the navigate steps of the plan send it, one after another: first to
the requested address, which stands in the first of them, and from there on wherever the others say.
Nobody asks about those, so a scrape can go to a page that the rules forbid.
-/

import SiteWatch.Proofs.Moments
import SiteWatch.Proofs.Scrape.Closing
import SiteWatch.Proofs.Scrape.Sections

namespace SiteWatch

variable {σ F α : Type}

/-! ## The addresses of a plan -/

/-- Where a step sends its page. -/
def Instruction.destination? (i : Instruction) : Option String :=
  match i.action with
  | .navigate url => url
  | _ => none

/-- The addresses to which a visit goes on its own account: those of all navigate steps but the
first, which goes to the requested address. -/
def Visit.detours (visit : Visit) : List String :=
  let steps := sortByStep (visit.request.instructions.getD visit.site.instructions)
  (steps.filter (·.action.isNavigate)).tail.filterMap Instruction.destination?

theorem filterMap_destination?_filter (steps : List Instruction) :
    (steps.filter (·.action.isNavigate)).filterMap Instruction.destination? =
      steps.filterMap Instruction.destination? := by
  rw [List.filterMap_filter]
  refine List.filterMap_congr fun i _ => ?_
  cases haction : i.action <;> simp [Instruction.destination?, Action.isNavigate, haction]

/-- Without a navigate step there is nowhere to go. -/
theorem filter_isNavigate_of_retarget?_eq_none {url : String} {steps : List Instruction}
    (hnone : retarget? url steps = none) : steps.filter (·.action.isNavigate) = [] := by
  induction steps with
  | nil => rfl
  | cons i rest ih =>
      unfold retarget? at hnone
      split at hnone
      · cases hnone
      · rename_i hnavigate
        simp only [List.filter_cons, hnavigate]
        exact ih (Option.map_eq_none_iff.mp hnone)

theorem filterMap_destination?_of_retarget? {url : String} {steps plan : List Instruction}
    (hplan : retarget? url steps = some plan) :
    plan.filterMap Instruction.destination? =
      url :: (steps.filter (·.action.isNavigate)).tail.filterMap Instruction.destination? := by
  induction steps generalizing plan with
  | nil => cases hplan
  | cons i rest ih =>
      unfold retarget? at hplan
      split at hplan
      · rename_i hnavigate
        cases hplan
        simp only [List.filter_cons, hnavigate, if_true, List.tail_cons,
          filterMap_destination?_filter]
        rfl
      · rename_i hnavigate
        obtain ⟨later, hlater, rfl⟩ := Option.map_eq_some_iff.mp hplan
        have hstays : i.destination? = none := by
          cases haction : i.action <;>
            simp_all [Instruction.destination?, Action.isNavigate]
        simp only [List.filter_cons, hnavigate, List.filterMap_cons_none hstays]
        exact ih hlater

/-- A plan goes to the requested address, and then makes its detours. -/
theorem Visit.filterMap_destination?_plan (visit : Visit) :
    visit.plan.filterMap Instruction.destination? = visit.request.url :: visit.detours := by
  unfold plan planFor detours
  dsimp only
  generalize sortByStep (visit.request.instructions.getD visit.site.instructions) = steps
  cases hplan : retarget? visit.request.url steps with
  | none =>
      have hnowhere := filter_isNavigate_of_retarget?_eq_none hplan
      have hstays : steps.filterMap Instruction.destination? = [] := by
        rw [← filterMap_destination?_filter, hnowhere, List.filterMap_nil]
      rw [hnowhere]
      exact congrArg (visit.request.url :: ·) hstays
  | some plan => exact filterMap_destination?_of_retarget? hplan

/-! ## Questions and ways -/

/-- The calls by which a scrape asks where it may go, and goes there. -/
def ScrapeCall.isOfWay : ScrapeCall → Bool
  | .asked .. | .going _ => true
  | _ => false

namespace Watched

/-- The way so far. -/
def way (w : Watched σ) : List ScrapeCall := w.calls ScrapeCall.isOfWay

/-- Waits end as they may, others do what they like with the world, and nobody else writes anything
down. -/
abbrev Amid : Meantime (Watched σ) := Meantime.leaving Prod.fst

theorem way_write {call : ScrapeCall} (hcall : call.isOfWay = true) (w : Watched σ) :
    (w.write call).way = w.way ++ [call] := by
  simp [way, calls, write, hcall]

theorem way_eq_of_amid (pause : Pause (Watched σ)) (wake : Wake) (elapsed : Nat)
    (w v : Watched σ) (hamid : Amid pause wake elapsed w v) : v.way = w.way :=
  congrArg (List.filter ScrapeCall.isOfWay) hamid.2

end Watched

open Watched

namespace Noted

/-- The way so far, with the notes on a scrape beside it. -/
def way (noted : Noted (Watched σ)) : List ScrapeCall := noted.2.way

/-- The same as for a world, and nobody else changes the notes. -/
abbrev Underway : Meantime (Noted (Watched σ)) := Noted.beside Watched.Amid

theorem way_eq_of_underway (pause : Pause (Noted (Watched σ))) (wake : Wake) (elapsed : Nat)
    (s t : Noted (Watched σ)) (hamid : Underway pause wake elapsed s t) : t.way = s.way :=
  way_eq_of_amid _ wake elapsed s.2 t.2 hamid.1

theorem isIndifferent_underway :
    (Underway : Meantime (Noted (Watched σ))).IsIndifferent :=
  isIndifferent_beside (Meantime.isIndifferent_leaving _)

theorem adds_quietly {good : α → Prop} {made : List ScrapeCall} {work : Activity (Watched σ) α}
    (hwork : work.Adds Watched.Amid Watched.way good made) :
    (quietly work).Adds Underway way good made := by
  refine Activity.Adds.within ?_ ?_ hwork
  · exact fun _ _ _ _ _ hamid => hamid.1
  · exact fun _ _ => rfl

end Noted

/-! ## Steps -/

/-- The same page, which stays where it is. -/
def Page.staying (page : Page σ F) : Page σ F := { page with goto := fun _ => pure () }

theorem Page.keeps_way_staying (page : Page σ F) : page.watched.staying.Keeps Watched.way where
  document := page.toDocument.keeps_watched rfl
  goto _ := Attempt.keeps_pure _ _
  click _ := keeps_seen rfl _
  enter _ _ := keeps_seen rfl _
  scroll _ := keeps_seen rfl _
  awaitSelector _ := keeps_seen rfl _
  awaitNavigation := keeps_seen rfl _
  awaitNetworkIdle := keeps_seen rfl _
  screenshot := keeps_seen rfl _
  frames := keeps_seen rfl _
  memoryUsage := keeps_seen rfl _

namespace Instruction

/-- A step that sends its page nowhere does the same on a page that stays where it is. -/
theorem perform_staying {i : Instruction} (hstays : i.destination? = none) (page : Page σ F)
    (album : Album σ) (limit : Nat) :
    i.perform page.staying album limit = i.perform page album limit := by
  unfold perform
  cases haction : i.action with
  | navigate url =>
      have hurl : url = none := by simpa [destination?, haction] using hstays
      subst hurl
      rfl
  | click selector => rfl
  | wait selector value => rfl
  | enter selector text => rfl
  | scroll selector => rfl
  | extract => rfl
  | screenshot name => rfl

/-- A step that is carried out goes where it sends its page, whatever comes of it. -/
theorem adds_perform {album : Album (Watched σ)}
    (halbum : ∀ name picture w, (album.save (pictureFile name) picture w).2.way = w.way)
    (page : Page σ F) (i : Instruction) (limit : Nat) :
    (i.perform page.watched album limit).run.Adds Watched.Amid Watched.way (fun _ => True)
      (i.destination?.toList.map .going) := by
  cases hdestination : i.destination? with
  | none =>
      rw [← perform_staying hdestination]
      exact Activity.Keeps.adds way_eq_of_amid _
        (keeps_perform page.keeps_way_staying halbum i limit)
  | some url =>
      have haction : i.action = .navigate (some url) := by
        cases haction : i.action <;> simp_all [destination?]
      unfold perform
      rw [haction]
      refine Activity.adds_act way_eq_of_amid (way_write rfl) (fun _ => ?_) _
      exact Activity.keeps_orLate _ (keeps_unseen _ _)

theorem adds_execute (album : Album (Watched σ))
    (halbum : ∀ name picture w, (album.save (pictureFile name) picture w).2.way = w.way)
    (page : Page σ F) (i : Instruction) (options : PageOptions) :
    Attempt.Adds Watched.Amid Watched.way (i.destination?.toList.map .going)
      (i.execute page.watched album options) := by
  unfold Attempt.Adds execute
  rw [← List.append_nil (i.destination?.toList.map _)]
  refine Activity.Adds.bind way_eq_of_amid (adds_perform halbum page i _) ?_ ?_
  · exact fun outcome _ => Activity.Keeps.adds way_eq_of_amid _ trivial
  · exact fun outcome hbad => absurd trivial hbad

end Instruction

/-! ## Browsers -/

theorem Browser.yields_openPage_watched (browser : Browser σ F) (options : PageOptions) :
    (browser.watched.openPage options).run.Yields fun outcome =>
      ∀ page, outcome = .ok page → ∃ inner : Page σ F, page = inner.watched := by
  refine Activity.yields_bind (Activity.yields_true _) fun opened _ => ?_
  cases opened with
  | error cause => exact nofun
  | ok inner =>
      rintro _ ⟨⟩
      exact ⟨inner, rfl⟩

theorem PageEngine.yields_start_watched (engine : PageEngine σ F) (options : PageOptions) :
    (engine.watched.start options).run.Yields fun outcome =>
      ∀ browser, outcome = .ok browser → ∃ inner : Browser σ F, browser = inner.watched := by
  have hlaunch : (engine.watched.launch options).run.Yields fun outcome =>
      ∀ browser, outcome = .ok browser → ∃ inner : Browser σ F, browser = inner.watched := by
    refine Activity.yields_bind (Activity.yields_true _) fun launched _ => ?_
    cases launched with
    | error cause => exact nofun
    | ok inner =>
        rintro _ _ ⟨⟩
        exact ⟨inner, rfl⟩
  refine Activity.yields_bind hlaunch fun launched hwatched => ?_
  cases launched with
  | error cause => cases cause <;> exact nofun
  | ok browser => exact hwatched

theorem PageEngine.keeps_start_watched (engine : PageEngine σ F) (options : PageOptions) :
    Attempt.Keeps Watched.way (engine.watched.start options) := by
  refine Activity.keeps_bind (Activity.keeps_bind (keeps_seen rfl _) fun launched => ?_)
    fun _ => trivial
  cases launched with
  | error cause => trivial
  | ok browser => exact ⟨calls_write rfl, fun _ => trivial⟩

namespace ScrapeService

variable (service : ScrapeService σ F) (visit : Visit)

theorem keeps_way : service.watched.muted.Keeps Watched.way where
  document frame := (service.engine.document frame).keeps_watched rfl
  awaitLoad _ := keeps_seen rfl _
  album _ _ _ := rfl
  robots _ := trivial
  sites _ := trivial

/-- Steps that are carried out in turn go where they send their page, in turn. -/
theorem adds_follow (page : Page σ F) (plan : List Instruction) :
    Attempt.Adds Noted.Underway Noted.way ((plan.filterMap Instruction.destination?).map .going)
      (service.watched.follow visit page.watched plan) := by
  induction plan with
  | nil => exact Attempt.Keeps.adds Noted.way_eq_of_underway (Attempt.keeps_pure _ _)
  | cons i rest ih =>
      have hroute : ((i :: rest).filterMap Instruction.destination?).map ScrapeCall.going =
          i.destination?.toList.map .going ++
            (rest.filterMap Instruction.destination?).map .going := by
        cases hdestination : i.destination? <;> simp [hdestination]
      have hstep := Noted.adds_quietly
        (i.adds_execute service.watched.album (fun _ _ _ => rfl) page visit.site.options)
      rw [hroute]
      refine Attempt.adds_bind Noted.way_eq_of_underway hstep fun succeeded => ?_
      split
      · exact Attempt.adds_bind Noted.way_eq_of_underway (Attempt.Keeps.adds
          Noted.way_eq_of_underway (Noted.keeps_note _ _)) fun _ => ih
      · exact ih

/-! ## Visits -/

/-- What is left to do on a page whose fields have been gathered. -/
theorem Keeps.conclude {τ : Type} {view : σ → τ} {service : ScrapeService σ F} {page : Page σ F}
    (hservice : service.Keeps view) (hpage : page.Keeps view) (fields : Members) :
    Attempt.Keeps (fun noted => view noted.2) (service.conclude visit page fields) := by
  refine Attempt.keeps_bind (Attempt.keeps_ofActivity (Noted.keeps_quietly
    (Attempt.keeps_ok? hpage.document.address))) fun address => ?_
  refine Attempt.keeps_bind (Noted.keeps_note view _) fun _ => ?_
  refine Attempt.keeps_bind (Attempt.keeps_ofActivity (Noted.keeps_quietly
    (Attempt.keeps_ok? hpage.memoryUsage))) fun memory => ?_
  refine Attempt.keeps_bind (Noted.keeps_note view _) fun _ => ?_
  split
  · exact Attempt.keeps_bind (hservice.picture hpage visit _) fun _ => Attempt.keeps_pure _ _
  · exact Attempt.keeps_pure _ _

/-- To attend to a page is to carry out the plan; nothing after that goes anywhere. -/
theorem adds_attend (page : Page σ F) :
    Attempt.Adds Noted.Underway Noted.way ((visit.request.url :: visit.detours).map .going)
      (service.watched.attend visit page.watched) := by
  have hgather : Attempt.Keeps Noted.way (service.watched.gather visit page.watched) :=
    service.keeps_way.gather page.keeps_way_staying visit
  have hconclude (fields : Members) :
      Attempt.Keeps Noted.way (service.watched.conclude visit page.watched fields) :=
    service.keeps_way.conclude visit page.keeps_way_staying fields
  rw [attend_eq, ← visit.filterMap_destination?_plan,
    ← List.append_nil ((visit.plan.filterMap _).map _)]
  refine Attempt.adds_bind Noted.way_eq_of_underway (service.adds_follow visit page visit.plan)
    fun _ => ?_
  exact Attempt.Keeps.adds Noted.way_eq_of_underway (Attempt.keeps_bind hgather hconclude)

theorem adds_drive (browser : Browser σ F) :
    Attempt.Adds Noted.Underway Noted.way ((visit.request.url :: visit.detours).map .going)
      (service.watched.drive visit browser.watched) := by
  have hpicture (page : Page σ F) (name : Instant → String) :
      Attempt.Keeps Noted.way (service.watched.picture visit page.watched name) :=
    service.keeps_way.picture page.keeps_way_staying visit name
  have hopens : Attempt.Keeps Noted.way
      (Noted.attempt (browser.watched.openPage visit.site.options)) :=
    Noted.keeps_attempt (Activity.keeps_bind (keeps_seen rfl _) fun _ => trivial)
  have hpages : (Noted.attempt (browser.watched.openPage visit.site.options)).run.Yields
      fun outcome => ∀ page, outcome = .ok page → ∃ inner : Page σ F, page = inner.watched :=
    Activity.yields_within (browser.yields_openPage_watched _)
  refine Attempt.adds_bind_of_yields Noted.way_eq_of_underway
    (Attempt.Keeps.adds Noted.way_eq_of_underway hopens) hpages ?_
  rintro _ ⟨page, rfl⟩
  refine Attempt.adds_bind_of_outcome Noted.way_eq_of_underway (service.adds_attend visit page)
    ?_ ?_
  · rintro (cause | fields)
    · dsimp only
      split
      · exact Attempt.keeps_bind (hpicture page _) fun _ => Attempt.keeps_throw _ _
      · exact Attempt.keeps_throw _ _
    · exact Attempt.keeps_pure _ _
  · intro cause
    dsimp only
    split
    · exact Activity.yields_bind (Activity.yields_true _) fun outcome _ => by
        cases outcome <;> exact Bool.false_ne_true
    · exact Bool.false_ne_true

/-- A browser goes where its visit sends it, until it is called off or its time is up. -/
theorem adds_browse :
    Attempt.Adds Noted.Underway Noted.way ((visit.request.url :: visit.detours).map .going)
      (service.watched.browse visit) := by
  have hstarts : Attempt.Keeps Noted.way
      (Noted.attempt (service.watched.engine.start visit.site.options)) :=
    Noted.keeps_attempt (service.engine.keeps_start_watched _)
  have hbrowsers : (Noted.attempt (service.watched.engine.start visit.site.options)).run.Yields
      fun outcome => ∀ browser, outcome = .ok browser →
        ∃ inner : Browser σ F, browser = inner.watched :=
    Activity.yields_within (service.engine.yields_start_watched _)
  refine Attempt.adds_bind_of_yields Noted.way_eq_of_underway
    (Attempt.Keeps.adds Noted.way_eq_of_underway hstarts) hbrowsers ?_
  rintro _ ⟨browser, rfl⟩
  have hcloses : (Noted.quietly (browser.watched.close.timeout closeLimitMs).ok?).Keeps
      Noted.way :=
    Noted.keeps_quietly (Attempt.keeps_ok? (Attempt.keeps_timeout closeLimitMs
      (keeps_seen rfl _)))
  have hdriven := Attempt.adds_cancellable Noted.way_eq_of_underway Noted.isIndifferent_underway
    (Attempt.adds_timeout? Noted.way_eq_of_underway Noted.isIndifferent_underway
      (service.adds_drive visit browser) visit.request.options.timeoutMs) visit.request.url
  refine Attempt.adds_bind_of_outcome Noted.way_eq_of_underway hdriven ?_ ?_
  · exact fun outcome => Attempt.keeps_bind (Attempt.keeps_ofActivity hcloses)
      fun _ => Attempt.keeps_ofOutcome _ _
  · intro cause
    rw [Attempt.run_bind_ofActivity]
    exact Activity.yields_bind (Activity.yields_true _) fun _ _ => Bool.false_ne_true

end ScrapeService

/-! ## Requests -/

/-- The sites can answer that a page is of a site. -/
def SiteSource.CanName (sites : SiteSource σ) (url : Url) (site : Site) : Prop :=
  ∃ s t, (sites.resolve url).run.CanEnd Meantime.free (.ok (some site)) t s

/-- What a scrape of a request can have asked of the robots rules up to some moment, and where it can
have gone. -/
inductive ScrapeRequest.IsItinerary (request : ScrapeRequest) (sites : SiteSource σ) :
    List ScrapeCall → Prop where
  /-- It has not asked, and has gone nowhere. -/
  | unasked : request.IsItinerary sites []
  /-- It has asked about the page of the request, and has gone nowhere. -/
  | asked {url : Url} {status : RobotsStatus} (hvalid : request.IsValid url) :
      request.IsItinerary sites [.asked url.text status]
  /-- It has asked about the page of the request, and the rules permit that; then it has gone to the
  requested address, and from there on to detours of the visit, in their order. -/
  | cleared {url : Url} {status : RobotsStatus} {site : Site} {gone : List String}
      (hvalid : request.IsValid url) (hpermits : status.permits = true)
      (hsite : sites.CanName url site) (henabled : site.enabled = true)
      (hgone : gone <+: request.url :: Visit.detours { site, request }) :
      request.IsItinerary sites (.asked url.text status :: gone.map .going)

namespace ScrapeService

variable (service : ScrapeService σ F) (request : ScrapeRequest)

/-- A question to the robots rules is on record once it is answered. -/
theorem way_of_canReach_robots {url : String} {w v : Watched σ}
    (hreaches : (service.watched.robots url).CanReach Watched.Amid v w) :
    v.way = w.way ∨ ∃ status, v.way = w.way ++ [.asked url status] := by
  have hunseen : (unseen (service.robots url)).Keeps Watched.way := keeps_unseen _ _
  rcases Activity.canReach_bind.mp hreaches with hasking | ⟨status, u, hanswers, hwritten⟩
  · exact .inl (hunseen.view_eq_of_canReach way_eq_of_amid hasking)
  · have hu : u.way = w.way := hunseen.view_eq way_eq_of_amid hanswers
    rcases hwritten with rfl | hwritten
    · exact .inl hu
    · have hv : u.write (.asked url status) = v := hwritten
      exact .inr ⟨status, by rw [← hv, way_write rfl, hu]⟩

theorem way_of_canEnd_robots {url : String} {status : RobotsStatus} {w v : Watched σ}
    (hends : (service.watched.robots url).CanEnd Watched.Amid status v w) :
    v.way = w.way ++ [.asked url status] := by
  have hunseen : (unseen (service.robots url)).Keeps Watched.way := keeps_unseen _ _
  obtain ⟨answer, u, hanswers, rfl, rfl⟩ := Activity.canEnd_bind.mp hends
  have hu : u.way = w.way := hunseen.view_eq way_eq_of_amid hanswers
  exact (way_write rfl u).trans (congrArg (· ++ _) hu)

theorem isValid_of_page_eq {url : Url} (hpage : request.page = .ok url) : request.IsValid url := by
  rcases request.page_cases with ⟨other, hother, hvalid⟩ | ⟨⟨cause, hcause, -⟩, -⟩
  · cases hpage.symm.trans hother
    exact hvalid
  · cases hpage.symm.trans hcause

/-- Approving a visit asks about the page of the request, if it may be asked for at all. -/
theorem isItinerary_of_canReach_approve {s t : Noted (Watched σ)}
    (hreaches : (service.watched.approve request).run.CanReach Noted.Underway t s) :
    ∃ made, request.IsItinerary service.sites made ∧ t.way = s.way ++ made := by
  rcases Attempt.canReach_bind hreaches with hpage | ⟨url, u, ⟨hpage, rfl⟩, hreaches⟩
  · obtain rfl : s = t := hpage
    exact ⟨[], .unasked, (List.append_nil _).symm⟩
  have hvalid := isValid_of_page_eq request hpage
  rcases Attempt.canReach_bind_ofActivity hreaches with hasks | ⟨status, u, hasks, hreaches⟩
  · have hasks : (service.watched.robots url.text).CanReach Watched.Amid t.2 s.2 := by
      refine hasks.of_within ?_ ?_
      · exact fun _ _ _ _ _ hamid => hamid.1
      · exact fun _ _ => rfl
    rcases service.way_of_canReach_robots hasks with hway | ⟨status, hway⟩
    · exact ⟨[], .unasked, hway.trans (List.append_nil _).symm⟩
    · exact ⟨_, .asked hvalid, hway⟩
  · have hway := service.way_of_canEnd_robots (Noted.canEnd_quietly_iff.mp hasks).1
    refine ⟨_, .asked hvalid, Eq.trans ?_ hway⟩
    refine Activity.Keeps.view_eq_of_canReach Noted.way_eq_of_underway ?_ hreaches
    refine Attempt.keeps_bind (Noted.keeps_note Watched.way _) fun _ => ?_
    split
    · refine Attempt.keeps_bind (Noted.keeps_attempt (keeps_unseen _ _)) fun found => ?_
      cases found with
      | none => exact Attempt.keeps_throw _ _
      | some site =>
          dsimp only
          split
          · exact Attempt.keeps_bind (Noted.keeps_note Watched.way _)
              fun _ => Attempt.keeps_pure _ _
          · exact Attempt.keeps_throw _ _
    · exact Attempt.keeps_throw _ _

/-- A visit that is approved is one to a page that the rules permit, of a site that the sites name. -/
theorem exists_asked_of_canEnd_approve {visit : Visit} {s t : Noted (Watched σ)}
    (hends : (service.watched.approve request).run.CanEnd Noted.Underway (.ok visit) t s) :
    ∃ url status site, visit = { site, request } ∧ request.IsValid url ∧ status.permits = true ∧
      service.sites.CanName url site ∧ site.enabled = true ∧
      t.way = s.way ++ [.asked url.text status] := by
  obtain ⟨url, u, ⟨hpage, rfl⟩, hends⟩ := Attempt.canEnd_bind_ok.mp hends
  have hvalid := isValid_of_page_eq request hpage
  obtain ⟨status, u, hasks, hends⟩ := Attempt.canEnd_bind_ofActivity.mp hends
  have hway : u.way = s.way ++ [.asked url.text status] :=
    service.way_of_canEnd_robots (Noted.canEnd_quietly_iff.mp hasks).1
  have hends := Noted.canEnd_note_bind.mp hends
  split at hends
  case isFalse hforbids => cases hends.1
  case isTrue hpermits =>
    obtain ⟨found, v, hresolves, hends⟩ := Attempt.canEnd_bind_ok.mp hends
    obtain ⟨hresolves, -⟩ := Noted.canEnd_attempt_iff.mp hresolves
    have hunseen : (unseen (service.sites.resolve url).run).Keeps Watched.way := keeps_unseen _ _
    have hv : v.2.way = u.2.way := hunseen.view_eq way_eq_of_amid hresolves
    have hnames : (service.sites.resolve url).run.CanEnd Meantime.free (.ok found) v.2.2 u.2.2 := by
      refine hresolves.of_within ?_ ?_
      · exact fun _ _ _ _ _ hamid => ⟨hamid.1, rfl⟩
      · exact fun _ _ => rfl
    cases found with
    | none => cases hends.1
    | some site =>
        dsimp only at hends
        split at hends
        case isFalse hdisabled => cases hends.1
        case isTrue henabled =>
          obtain ⟨hvisit, rfl⟩ := hends
          cases hvisit
          exact ⟨url, status, site, rfl, hvalid, hpermits, ⟨_, _, hnames⟩, henabled, hv.trans hway⟩

/-- To carry a request out is to ask, and then to go where the visit goes. -/
theorem isItinerary_of_canReach_fetch {s t : Noted (Watched σ)}
    (hreaches : (service.watched.fetch request).run.CanReach Noted.Underway t s) :
    ∃ made, request.IsItinerary service.sites made ∧ t.way = s.way ++ made := by
  rcases Attempt.canReach_bind hreaches with hreaches | ⟨visit, u, happroves, hreaches⟩
  · exact service.isItinerary_of_canReach_approve request hreaches
  obtain ⟨url, status, site, rfl, hvalid, hpermits, hsite, henabled, hu⟩ :=
    service.exists_asked_of_canEnd_approve request happroves
  have hgoes : ∃ added, added <+: (request.url :: Visit.detours { site, request }).map .going ∧
      t.way = u.way ++ added := by
    refine (Attempt.adds_bind Noted.way_eq_of_underway (Attempt.Keeps.adds Noted.way_eq_of_underway
      (Noted.keeps_attempt (Attempt.keeps_step fun _ => rfl))) fun drawn => ?_).partly hreaches
    refine Attempt.adds_bind Noted.way_eq_of_underway (Attempt.Keeps.adds Noted.way_eq_of_underway
      (Noted.keeps_attempt (Politeness.keeps_pass _ _ drawn))) fun _ => ?_
    exact service.adds_browse { site, request }
  obtain ⟨added, hadded, ht⟩ := hgoes
  obtain ⟨gone, hgone, rfl⟩ := List.prefix_map_iff.mp hadded
  refine ⟨_, .cleared hvalid hpermits hsite henabled hgone, ?_⟩
  rw [ht, hu, List.append_assoc]
  rfl

/-! ## Whole scrapes -/

-- From here on the work for a request is known only by where it goes.
attribute [local irreducible] fetch

/-- At every moment of carrying a request out the world is as at a moment of the work for it. -/
theorem exists_canReach_fetch_of_scrapeAnew {service : ScrapeService σ F} {request : ScrapeRequest}
    {outer : Meantime (Scraping σ)} {inner : Meantime (Noted σ)}
    (hmeantime : ∀ (pause : Pause (Noted σ)) wake elapsed notes s t,
      outer ⟨pause.after, fun s => pause.ready (notes, s.world), pause.heeds⟩ wake elapsed s t →
        inner pause wake elapsed (notes, s.world) (notes, t.world))
    {s t : Scraping σ} (hreaches : (service.scrapeAnew request).CanReach outer t s) :
    ∃ notes, (service.fetch request).run.CanReach inner (notes, t.world) ({}, s.world) := by
  have hcarried {u v : Scraping σ}
      (hreaches : (onWorld (Activity.withNotes {} (service.fetch request).run)).CanReach outer v u) :
      ∃ notes, (service.fetch request).run.CanReach inner (notes, v.world) ({}, u.world) := by
    have hfetch : (Activity.withNotes {} (service.fetch request).run).CanReach
        (fun pause wake elapsed w v => ∃ s t : Scraping σ, s.world = w ∧ t.world = v ∧
          outer ⟨pause.after, fun s => pause.ready s.world, pause.heeds⟩ wake elapsed s t)
        v.world u.world := by
      refine hreaches.of_within ?_ fun _ _ => rfl
      exact fun pause wake elapsed s t hamid => ⟨s, t, rfl, rfl, hamid⟩
    refine Activity.CanReach.of_withNotes ?_ hfetch
    rintro pause wake elapsed notes - - ⟨s, t, rfl, rfl, hamid⟩
    exact hmeantime pause wake elapsed notes s t hamid
  rcases Activity.canReach_bind.mp hreaches with hbegins | ⟨began, u, ⟨-, rfl⟩, hreaches⟩
  · have hworld : t.world = s.world := by
      rcases hbegins with rfl | hbegins
      · rfl
      · exact congrArg Scraping.world hbegins.symm
    rw [hworld]
    exact ⟨{}, Activity.canReach_start _⟩
  · rcases Activity.canReach_bind.mp hreaches with hreaches | ⟨⟨outcome, notes⟩, v, hends, hlast⟩
    · exact hcarried hreaches
    · have hworld : t.world = v.world := by
        rcases hlast with rfl | rfl
        · rfl
        · exact service.world_keep _ _ _
      rw [hworld]
      exact hcarried hends.canReach

-- And a request that is carried out only by its work.
attribute [local irreducible] scrapeAnew

/-- At every moment of a scrape, whether it comes to an end or not and whatever others do to the
world and to the kept results in the meantime: it has asked the robots rules about nothing but the
page of its request, and that at most once; it has gone nowhere unless they permit that page; and it
has gone to the requested address first, and from there on to detours of its visit. -/
theorem isItinerary_of_canReach_scrape {s t : Scraping (Watched σ)}
    (hreaches : (service.watched.scrape request).CanReach
      (Meantime.leaving fun s => s.world.1) t s) :
    ∃ made, request.IsItinerary service.sites made ∧ t.world.way = s.world.way ++ made := by
  have hanew {u : Scraping (Watched σ)} (hworld : u.world = s.world)
      (hreaches : (service.watched.scrapeAnew request).CanReach
        (Meantime.leaving fun s => s.world.1) t u) :
      ∃ made, request.IsItinerary service.sites made ∧ t.world.way = s.world.way ++ made := by
    have hamid (pause : Pause (Noted (Watched σ))) wake elapsed notes (s t : Scraping (Watched σ))
        (hamid : Meantime.leaving (fun s : Scraping (Watched σ) => s.world.1)
          ⟨pause.after, fun s => pause.ready (notes, s.world), pause.heeds⟩ wake elapsed s t) :
        Noted.Underway pause wake elapsed (notes, s.world) (notes, t.world) :=
      ⟨⟨by cases wake <;> exact hamid.1, hamid.2⟩, rfl⟩
    obtain ⟨notes, hfetch⟩ := exists_canReach_fetch_of_scrapeAnew hamid hreaches
    rw [← hworld]
    exact service.isItinerary_of_canReach_fetch request hfetch
  have hidle (hworld : t.world = s.world) :
      ∃ made, request.IsItinerary service.sites made ∧ t.world.way = s.world.way ++ made :=
    ⟨[], .unasked, by rw [hworld, List.append_nil]⟩
  unfold scrape at hreaches
  split at hreaches
  · rcases Activity.canReach_bind.mp hreaches with hlooks | ⟨found, u, ⟨-, hu⟩, hreaches⟩
    · rcases hlooks with rfl | rfl
      · exact hidle rfl
      · exact hidle rfl
    · have hworld : u.world = s.world := by rw [← hu]
      cases found with
      | some kept =>
          obtain rfl : u = t := hreaches
          exact hidle hworld
      | none => exact hanew hworld hreaches
  · exact hanew rfl hreaches

/-! A request that goes on to a page of another origin. -/

/-- A request that opens its page, and goes on to another one. -/
def wandering : ScrapeRequest where
  url := "https://example.com/events"
  instructions := some [
    { step := 1, description := "open", action := .navigate none },
    { step := 2, description := "go on", action := .navigate (some "https://example.org/private") }]
  options := { useCache := false }

/-- The service of one site, under rules that permit only the page that is requested. -/
def confined : ScrapeService Rehearsal.Stage Rehearsal.FrameScript :=
  { scripted {} 0 with
    robots := fun url => .done (if url = wandering.url then .allowed else .disallowed) }

theorem exists_canReach_wandering :
    let s : Scraping (Watched Rehearsal.Stage) := { world := ([], {}) }
    ∃ t, (confined.watched.scrape wandering).CanReach (Meantime.leaving fun s => s.world.1) t s ∧
      t.world.way = [.asked "https://example.com/events" .allowed,
        .going "https://example.com/events", .going "https://example.org/private"] := by
  intro s
  have hruns : ((confined.watched.scrape wandering).run none 0 s).any (fun ended =>
      decide (ended.2.2.world.way = [.asked "https://example.com/events" .allowed,
        .going "https://example.com/events", .going "https://example.org/private"])) = true := by
    decide +kernel
  obtain ⟨⟨result, later, t⟩, hrun, hended⟩ := (Option.any_eq_true _ _).mp hruns
  have hends : (confined.watched.scrape wandering).CanEnd (Meantime.leaving fun s => s.world.1)
      result t s :=
    Activity.canEnd_of_run (fun _ _ _ _ hwake => ⟨hwake, rfl⟩) hrun
  exact ⟨t, hends.canReach, of_decide_eq_true hended⟩

/-- The rules are asked about the requested page, and then both pages are gone to. -/
theorem isItinerary_wandering :
    let s : Scraping (Watched Rehearsal.Stage) := { world := ([], {}) }
    ∃ t, (confined.watched.scrape wandering).CanReach (Meantime.leaving fun s => s.world.1) t s ∧
      t.world.way = [.asked "https://example.com/events" .allowed,
        .going "https://example.com/events", .going "https://example.org/private"] ∧
      wandering.IsItinerary confined.sites t.world.way := by
  intro s
  obtain ⟨t, hreaches, hway⟩ := exists_canReach_wandering
  obtain ⟨made, hmade, hlater⟩ := confined.isItinerary_of_canReach_scrape wandering hreaches
  rw [← hlater.trans (List.nil_append made)] at hmade
  exact ⟨t, hreaches, hway, hmade⟩

/-- The second page is gone to though the rules forbid it, and nobody has asked about it. -/
theorem wandering_goes_where_rules_forbid :
    let s : Scraping (Watched Rehearsal.Stage) := { world := ([], {}) }
    confined.robots "https://example.org/private" = .done .disallowed ∧
      ∃ t, (confined.watched.scrape wandering).CanReach (Meantime.leaving fun s => s.world.1) t s ∧
        .going "https://example.org/private" ∈ t.world.way ∧
        ∀ url status, .asked url status ∈ t.world.way → url = "https://example.com/events" := by
  intro s
  refine ⟨rfl, ?_⟩
  obtain ⟨t, hreaches, hway⟩ := exists_canReach_wandering
  refine ⟨t, hreaches, by simp [hway], fun url status hasked => ?_⟩
  rw [hway] at hasked
  simp only [List.mem_cons, ScrapeCall.asked.injEq, reduceCtorEq, List.not_mem_nil, or_false]
    at hasked
  exact hasked.1

end ScrapeService

end SiteWatch
