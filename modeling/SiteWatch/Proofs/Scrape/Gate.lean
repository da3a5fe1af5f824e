/-
# The gate before every browser

A scrape that is not answered by a kept result asks for a browser only after a fixed row of stages
has let it pass: the request itself, the robots rules, the site, the pause for politeness. What the
stages came to stands in the journal of the scrape. A browser is asked for, once, exactly when all
of them let the scrape pass, and not before the pause is over; otherwise the first stage that did
not is the failure of the scrape, and nothing is done with a browser or a page.
-/

import SiteWatch.Proofs.Scrape.Stages
import SiteWatch.Rehearsal.Service

namespace SiteWatch

variable {σ F : Type}

/-! ## What the stages come to -/

namespace Journal

/-- The waits that directly follow the answer of the sites: the pause for politeness. -/
def pauseIn (entries : List ScrapeEntry) : List ScrapeEntry :=
  ((entries.dropWhile (!·.isResolved)).drop 1).takeWhile (·.isWait)

/-- The scrape was called off during the pause for politeness. -/
def CalledOff (entries : List ScrapeEntry) : Prop :=
  ∃ elapsed, .waited .cancelled elapsed ∈ pauseIn entries

/-- The request is valid, and the robots rules were asked about its page and allow it. -/
structure Clears (request : ScrapeRequest) (url : Url) (entries : List ScrapeEntry) : Prop where
  valid : request.IsValid url
  allowed : ∃ status, .asked url.text status ∈ entries ∧ status.permits = true

/-- Beyond that, the sites were asked for the one of the page, and it is enabled. -/
structure Assigns (request : ScrapeRequest) (url : Url) (site : Site) (entries : List ScrapeEntry) :
    Prop extends Clears request url entries where
  resolved : .resolved url (.ok (some site)) ∈ entries
  enabled : site.enabled = true

/-- The kind of failure of the first stage that does not let a scrape pass. -/
inductive Stops (request : ScrapeRequest) (entries : List ScrapeEntry) : String → Prop where
  | invalid (hinvalid : ¬ ∃ url, request.IsValid url) : Stops request entries "validation_error"
  | blocked {url : Url} {status : RobotsStatus} (hvalid : request.IsValid url)
      (hasked : .asked url.text status ∈ entries) (hforbids : status.permits = false) :
      Stops request entries "policy_blocked"
  /-- The sites could not be asked. -/
  | unanswered {url : Url} {cause : Failure} (hclears : Clears request url entries)
      (hresolved : .resolved url (.error cause) ∈ entries) : Stops request entries cause.kind
  /-- No site covers the page, or one that is disabled. -/
  | missing {url : Url} {found : Option Site} (hclears : Clears request url entries)
      (hresolved : .resolved url (.ok found) ∈ entries)
      (hdisabled : ∀ site, found = some site → site.enabled = false) :
      Stops request entries "configuration_missing"
  | calledOff {url : Url} {site : Site} (hassigns : Assigns request url site entries)
      (hoff : CalledOff entries) : Stops request entries "cancelled"

/-- What a scrape has entered, and its result, show that it has respected the gate. -/
structure RespectsGate (request : ScrapeRequest) (entries : List ScrapeEntry)
    (result : ScrapeResult) : Prop where
  /-- A browser is asked for at most once, … -/
  launches : entries.countP (·.isLaunch) ≤ 1
  /-- … namely when every stage lets the scrape pass, … -/
  launches_iff : .launching ∈ entries ↔
    (∃ url site, Assigns request url site entries) ∧ ¬ CalledOff entries
  /-- … and then after all stages and the whole pause, before anything is done with a browser. -/
  launches_late : ∀ before after, entries = before ++ .launching :: after →
    (∃ url site, Assigns request url site before) ∧ .acting ∉ before ∧
      ∀ url site, .resolved url (.ok (some site)) ∈ before →
        site.options.politenessDelayMs ≤ waitedIn (pauseIn before)
  /-- Else nothing is done with one, and the failure is that of the first stage that stopped it. -/
  stops : .launching ∉ entries → .acting ∉ entries ∧ result.success = false ∧
    ∃ kind, Stops request entries kind ∧ result.errorKind = some kind
  checked : result.metadata.robotsTxtChecked = true ↔
    ∃ url status, .asked url status ∈ entries
  siteId : ∀ id, result.metadata.siteId = some id ↔
    ∃ url site, .resolved url (.ok (some site)) ∈ entries ∧ site.enabled = true ∧ site.id = id

end Journal

open Journal

/-! ## The gate -/

namespace Journal

/-- What is no wait is not among waits. -/
theorem notMem_of_waits (entry : ScrapeEntry) (hentry : entry.isWait = false)
    {waits : List ScrapeEntry} (hwaits : ∀ entry ∈ waits, entry.isWait) : entry ∉ waits := by
  intro hmem
  rw [hwaits entry hmem] at hentry
  cases hentry

/-- The pause is read off behind the answer of the sites. -/
theorem pauseIn_resolved {before : List ScrapeEntry}
    (hbefore : ∀ entry ∈ before, entry.isResolved = false)
    (url : Url) (answer : Outcome (Option Site)) {pause : List ScrapeEntry}
    (hpause : ∀ entry ∈ pause, entry.isWait) {rest : List ScrapeEntry}
    (hrest : ∀ entry ∈ rest.head?, entry.isWait = false) :
    pauseIn (before ++ [.resolved url answer] ++ pause ++ rest) = pause := by
  have hdrop :
      (before ++ [ScrapeEntry.resolved url answer] ++ pause ++ rest).dropWhile (!·.isResolved) =
      .resolved url answer :: (pause ++ rest) := by
    simp only [List.append_assoc]
    rw [List.dropWhile_append_of_pos (by simpa using hbefore)]
    rfl
  unfold pauseIn
  rw [hdrop, List.drop_one, List.tail_cons, List.takeWhile_append_of_pos hpause]
  cases rest with
  | nil => simp
  | cons entry rest => simp [hrest entry rfl]

end Journal

namespace Approves

variable {request : ScrapeRequest} {entries : List ScrapeEntry} {checked : Bool}

/-- Before the pause no browser is asked for, and nothing is done with one. -/
theorem notMem {outcome : Outcome Visit} (happroves : Approves request entries outcome checked) :
    .launching ∉ entries ∧ .acting ∉ entries := by
  cases happroves with
  | invalid hinvalid hkind => simp
  | blocked hvalid hbefore hforbids =>
      simp [notMem_of_waits .launching rfl hbefore, notMem_of_waits .acting rfl hbefore]
  | resolved hvalid hbefore hpermits hbetween answer =>
      simp [notMem_of_waits .launching rfl hbefore, notMem_of_waits .acting rfl hbefore,
        notMem_of_waits .launching rfl hbetween, notMem_of_waits .acting rfl hbetween]

/-- The robots rules have been asked as is noted. -/
theorem checked_iff {outcome : Outcome Visit}
    (happroves : Approves request entries outcome checked) :
    checked = true ↔ ∃ url status, .asked url status ∈ entries := by
  cases happroves with
  | invalid hinvalid hkind => simp
  | @blocked url status _ hvalid hbefore hforbids =>
      exact iff_of_true rfl ⟨url.text, status, by simp⟩
  | @resolved url status _ _ hvalid hbefore hpermits hbetween answer =>
      exact iff_of_true rfl ⟨url.text, status, by simp⟩

/-- A visit is approved at the answer of the sites, and by all stages. -/
theorem of_ok {visit : Visit} (happroves : Approves request entries (.ok visit) checked) :
    ∃ url before, entries = before ++ [.resolved url (.ok (some visit.site))] ∧
      Assigns request url visit.site entries ∧ ∀ entry ∈ before, entry.isResolved = false := by
  generalize houtcome : (Except.ok visit : Outcome Visit) = outcome at happroves
  cases happroves with
  | invalid hinvalid hkind => cases houtcome
  | blocked hvalid hbefore hforbids => cases houtcome
  | @resolved url status before between hvalid hbefore hpermits hbetween answer =>
      obtain ⟨site, rfl, henabled, rfl⟩ : ∃ site, answer = .ok (some site) ∧ site.enabled = true ∧
          visit = { site, request } := by
        match answer with
        | .ok (some site) =>
            unfold ScrapeRequest.visitOf at houtcome
            dsimp only at houtcome
            split at houtcome
            · rename_i henabled
              exact ⟨site, rfl, henabled, Except.ok.inj houtcome⟩
            · cases houtcome
      refine ⟨url, before ++ [.asked url.text status] ++ between, rfl, ?_, ?_⟩
      · exact { valid := hvalid, allowed := ⟨status, by simp, hpermits⟩,
                resolved := by simp, enabled := henabled }
      · intro entry hentry
        cases entry with
        | resolved other answer =>
            simp [notMem_of_waits (.resolved other answer) rfl hbefore,
              notMem_of_waits (.resolved other answer) rfl hbetween] at hentry
        | asked | launching | acting | waited => rfl

/-- Where no visit is approved, the first stage that did not let the scrape pass is the failure, and
no enabled site was found. -/
theorem of_error {cause : Failure} (happroves : Approves request entries (.error cause) checked) :
    Stops request entries cause.kind ∧
      ∀ url site, .resolved url (.ok (some site)) ∈ entries → site.enabled = false := by
  generalize houtcome : (Except.error cause : Outcome Visit) = outcome at happroves
  cases happroves with
  | invalid hinvalid hkind =>
      cases houtcome
      rw [hkind]
      exact ⟨.invalid hinvalid, by simp⟩
  | blocked hvalid hbefore hforbids =>
      cases houtcome
      refine ⟨.blocked hvalid (by simp) hforbids, fun url site hresolved => ?_⟩
      simp [notMem_of_waits (.resolved url (.ok (some site))) rfl hbefore] at hresolved
  | @resolved url status before between hvalid hbefore hpermits hbetween answer =>
      have hclears : Clears request url
          (before ++ [.asked url.text status] ++ between ++ [.resolved url answer]) :=
        { valid := hvalid, allowed := ⟨status, by simp, hpermits⟩ }
      have hanswer {other : Url} {given : Outcome (Option Site)} (hgiven : .resolved other given ∈
          before ++ [.asked url.text status] ++ between ++ [.resolved url answer]) :
          given = answer := by
        simp [notMem_of_waits (.resolved other given) rfl hbefore,
          notMem_of_waits (.resolved other given) rfl hbetween] at hgiven
        exact hgiven.2
      cases answer with
      | error reason =>
          cases houtcome
          refine ⟨.unanswered hclears (by simp), fun other site hresolved => ?_⟩
          cases hanswer hresolved
      | ok found =>
          have hmissing : cause = .configurationMissing request.url ∧
              ∀ site, found = some site → site.enabled = false := by
            cases found with
            | none =>
                cases houtcome
                exact ⟨rfl, by simp⟩
            | some site =>
                unfold ScrapeRequest.visitOf at houtcome
                dsimp only at houtcome
                split at houtcome
                · cases houtcome
                · rename_i hdisabled
                  exact ⟨Except.error.inj houtcome, by simpa using hdisabled⟩
          obtain ⟨rfl, hdisabled⟩ := hmissing
          refine ⟨.missing hclears (by simp) hdisabled, fun other site hresolved => ?_⟩
          exact hdisabled site (Except.ok.inj (hanswer hresolved)).symm

end Approves

namespace Journal

theorem Assigns.mono {request : ScrapeRequest} {url : Url} {site : Site}
    {entries later : List ScrapeEntry} (hassigns : Assigns request url site entries)
    (hlater : entries ⊆ later) : Assigns request url site later where
  valid := hassigns.valid
  allowed := by
    obtain ⟨status, hasked, hpermits⟩ := hassigns.allowed
    exact ⟨status, hlater hasked, hpermits⟩
  resolved := hlater hassigns.resolved
  enabled := hassigns.enabled

end Journal

/-- Once a visit is approved, neither the robots rules nor the sites are asked again. -/
theorem Approves.notes_of_tail {request : ScrapeRequest} {entries tail : List ScrapeEntry}
    {visit : Visit} {checked : Bool} (happroves : Approves request entries (.ok visit) checked)
    (htail : ∀ entry ∈ tail, entry.isStage = true → entry = .launching) :
    (checked = true ↔ ∃ url status, .asked url status ∈ entries ++ tail) ∧
      ∀ url site, .resolved url (.ok (some site)) ∈ entries ++ tail → site = visit.site := by
  constructor
  · refine happroves.checked_iff.trans (exists_congr fun url => exists_congr fun status => ?_)
    refine ⟨List.mem_append_left tail, fun hmem => ?_⟩
    rcases List.mem_append.mp hmem with hentries | hrest
    · exact hentries
    · cases htail _ hrest rfl
  · obtain ⟨url, before, rfl, -, hbefore⟩ := happroves.of_ok
    intro other site hmem
    rcases List.mem_append.mp hmem with hentries | hrest
    · rcases List.mem_append.mp hentries with hearlier | hlast
      · cases hbefore _ hearlier
      · cases List.mem_singleton.mp hlast
        rfl
    · cases htail _ hrest rfl

/-- After the pause its waits are read off. -/
theorem Approves.pauseIn_eq {request : ScrapeRequest} {entries pause : List ScrapeEntry}
    {visit : Visit} {checked : Bool} (happroves : Approves request entries (.ok visit) checked)
    (hpause : ∀ entry ∈ pause, entry.isWait) (rest : List ScrapeEntry)
    (hrest : ∀ entry ∈ rest.head?, entry.isWait = false) :
    pauseIn (entries ++ pause ++ rest) = pause := by
  obtain ⟨url, before, rfl, -, hbefore⟩ := happroves.of_ok
  exact pauseIn_resolved hbefore url _ hpause hrest

/-- … also while nothing follows it. -/
theorem Approves.pauseIn_append {request : ScrapeRequest} {entries pause : List ScrapeEntry}
    {visit : Visit} {checked : Bool} (happroves : Approves request entries (.ok visit) checked)
    (hpause : ∀ entry ∈ pause, entry.isWait) : pauseIn (entries ++ pause) = pause := by
  simpa using happroves.pauseIn_eq hpause [] (by simp)

theorem countP_isLaunch_eq_zero {entries : List ScrapeEntry} (hlaunching : .launching ∉ entries) :
    entries.countP (·.isLaunch) = 0 := by
  refine List.countP_eq_zero.mpr fun entry hentry hlaunch => hlaunching ?_
  cases entry with
  | launching => exact hentry
  | asked | resolved | acting | waited => cases hlaunch

section

variable {request : ScrapeRequest} {entries pause rest : List ScrapeEntry} {result : ScrapeResult}

/-- A scrape that is stopped before its pause. -/
theorem Approves.respectsGate_of_error {cause : Failure}
    (happroves : Approves request entries (.error cause) result.metadata.robotsTxtChecked)
    (hsiteId : result.metadata.siteId = none) (hsuccess : result.success = false)
    (hkind : result.errorKind = some cause.kind) : RespectsGate request entries result := by
  obtain ⟨hstops, hdisabled⟩ := happroves.of_error
  obtain ⟨hlaunching, hacting⟩ := happroves.notMem
  exact {
    launches := by rw [countP_isLaunch_eq_zero hlaunching]; exact Nat.zero_le 1
    launches_iff := by
      refine iff_of_false hlaunching ?_
      rintro ⟨⟨url, site, hassigns⟩, -⟩
      cases (hdisabled url site hassigns.resolved).symm.trans hassigns.enabled
    launches_late := by
      rintro before after rfl
      exact absurd (by simp) hlaunching
    stops := fun _ => ⟨hacting, hsuccess, _, hstops, hkind⟩
    checked := happroves.checked_iff
    siteId := by
      intro id
      rw [hsiteId]
      refine iff_of_false (by simp) ?_
      rintro ⟨url, site, hresolved, henabled, -⟩
      cases (hdisabled url site hresolved).symm.trans henabled }

/-- The notes on a scrape whose visit was approved. -/
theorem Approves.siteId_iff {visit : Visit} {tail : List ScrapeEntry} {checked : Bool}
    (happroves : Approves request entries (.ok visit) checked)
    (htail : ∀ entry ∈ tail, entry.isStage = true → entry = .launching) (id : String) :
    some visit.site.id = some id ↔
      ∃ url site, .resolved url (.ok (some site)) ∈ entries ++ tail ∧ site.enabled = true ∧
        site.id = id := by
  constructor
  · intro hid
    obtain ⟨url, before, -, hassigns, -⟩ := happroves.of_ok
    exact ⟨url, visit.site, List.mem_append_left tail hassigns.resolved, hassigns.enabled,
      Option.some.inj hid⟩
  · rintro ⟨url, site, hresolved, -, rfl⟩
    rw [(happroves.notes_of_tail htail).2 url site hresolved]

/-- A scrape that is called off during its pause. -/
theorem Approves.respectsGate_of_calledOff {visit : Visit}
    (happroves : Approves request entries (.ok visit) result.metadata.robotsTxtChecked)
    (hpause : ∀ entry ∈ pause, entry.isWait) (hoff : ∃ elapsed, .waited .cancelled elapsed ∈ pause)
    (hsiteId : result.metadata.siteId = some visit.site.id) (hsuccess : result.success = false)
    (hkind : result.errorKind = some "cancelled") :
    RespectsGate request (entries ++ pause) result := by
  obtain ⟨hlaunching, hacting⟩ := happroves.notMem
  obtain ⟨url, -, -, hassigns, -⟩ := happroves.of_ok
  have hlaunching : .launching ∉ entries ++ pause := by
    simp [hlaunching, notMem_of_waits .launching rfl hpause]
  have hacting : .acting ∉ entries ++ pause := by
    simp [hacting, notMem_of_waits .acting rfl hpause]
  have hoff : CalledOff (entries ++ pause) := by
    unfold CalledOff
    rw [happroves.pauseIn_append hpause]
    exact hoff
  have htail : ∀ entry ∈ pause, entry.isStage = true → entry = .launching := by
    intro entry hentry hstage
    cases (ScrapeEntry.isStage_of_isWait (hpause entry hentry)).symm.trans hstage
  exact {
    launches := by rw [countP_isLaunch_eq_zero hlaunching]; exact Nat.zero_le 1
    launches_iff := iff_of_false hlaunching fun hpasses => hpasses.2 hoff
    launches_late := by
      rintro before after hentries
      refine absurd ?_ hlaunching
      simp [hentries]
    stops := fun _ => ⟨hacting, hsuccess, _,
      .calledOff (hassigns.mono (List.subset_append_left _ _)) hoff, hkind⟩
    checked := (happroves.notes_of_tail htail).1
    siteId := by
      intro id
      rw [hsiteId]
      exact happroves.siteId_iff htail id }

/-- A scrape that asks for a browser. -/
theorem Approves.respectsGate_of_launched {visit : Visit}
    (happroves : Approves request entries (.ok visit) result.metadata.robotsTxtChecked)
    (hpause : ∀ entry ∈ pause, entry.isWait)
    (hlong : visit.site.options.politenessDelayMs ≤ waitedIn pause)
    (hon : ∀ elapsed, .waited .cancelled elapsed ∉ pause)
    (hrest : ∀ entry ∈ rest, entry.isStage = false)
    (hsiteId : result.metadata.siteId = some visit.site.id) :
    RespectsGate request (entries ++ pause ++ .launching :: rest) result := by
  obtain ⟨hlaunching, hacting⟩ := happroves.notMem
  obtain ⟨url, -, -, hassigns, -⟩ := happroves.of_ok
  have hbefore : .launching ∉ entries ++ pause := by
    simp [hlaunching, notMem_of_waits .launching rfl hpause]
  have hafter : .launching ∉ rest := fun hmem => by cases hrest _ hmem
  have htail : ∀ entry ∈ pause ++ .launching :: rest,
      entry.isStage = true → entry = .launching := by
    intro entry hentry hstage
    rcases List.mem_append.mp hentry with hentry | hentry
    · cases (ScrapeEntry.isStage_of_isWait (hpause entry hentry)).symm.trans hstage
    · rcases List.mem_cons.mp hentry with rfl | hentry
      · rfl
      · cases (hrest entry hentry).symm.trans hstage
  have hsite := (happroves.notes_of_tail htail).2
  rw [← List.append_assoc] at hsite
  exact {
    launches := by
      rw [List.countP_append, List.countP_cons, countP_isLaunch_eq_zero hbefore,
        countP_isLaunch_eq_zero hafter]
      rfl
    launches_iff := by
      refine iff_of_true (by simp) ⟨⟨url, visit.site, hassigns.mono ?_⟩, ?_⟩
      · simp
      · rintro ⟨elapsed, hoff⟩
        rw [happroves.pauseIn_eq hpause _ (by simp [ScrapeEntry.isWait])] at hoff
        exact hon elapsed hoff
    launches_late := by
      intro before after hentries
      obtain ⟨rfl, -, -⟩ := (List.append_cons_inj_of_notMem hbefore hafter).mp hentries
      refine ⟨⟨url, visit.site, hassigns.mono (List.subset_append_left _ _)⟩, ?_, ?_⟩
      · simp [hacting, notMem_of_waits .acting rfl hpause]
      · intro other site hresolved
        rw [hsite other site (List.mem_append_left _ hresolved), happroves.pauseIn_append hpause]
        exact hlong
    stops := fun hnot => absurd (by simp) hnot
    checked := by
      rw [List.append_assoc]
      exact (happroves.notes_of_tail htail).1
    siteId := by
      intro id
      rw [hsiteId, List.append_assoc]
      exact happroves.siteId_iff htail id }

end

/-- What a request has entered that was carried out respects the gate. -/
theorem Fetches.respectsGate {request : ScrapeRequest} {entries : List ScrapeEntry}
    {outcome : Outcome Members} {notes : ScrapeMetadata}
    (hfetches : Fetches request entries outcome notes.robotsTxtChecked notes.siteId)
    (moment : Instant) :
    RespectsGate request entries (ScrapeService.resultOf request outcome notes moment) := by
  have hmetadata : (ScrapeService.resultOf request outcome notes moment).metadata = notes := by
    cases outcome <;> rfl
  rw [← hmetadata] at hfetches
  generalize hresult : ScrapeService.resultOf request outcome notes moment = result at hfetches ⊢
  generalize hchecked : result.metadata.robotsTxtChecked = checked at hfetches
  generalize hsiteId : result.metadata.siteId = siteId at hfetches
  cases hfetches with
  | refused happroves =>
      subst hchecked hresult
      exact happroves.respectsGate_of_error hsiteId rfl rfl
  | calledOff happroves hpause hoff =>
      subst hchecked hresult
      exact happroves.respectsGate_of_calledOff hpause hoff hsiteId rfl rfl
  | launched happroves hpause hlong hon hrest outcome =>
      subst hchecked
      rw [List.append_assoc]
      exact happroves.respectsGate_of_launched hpause hlong hon hrest hsiteId

/-! ## Whole scrapes -/

/-- Enter the end of a wait. -/
def Scraping.noteWait (wake : Wake) (elapsed : Nat) (s : Scraping (Journal σ)) :
    Scraping (Journal σ) :=
  { s with world := s.world.write (.waited wake elapsed) }

/-- What goes on while a scrape waits: others change the world and the kept results as they like,
and a wait ends as it may, which is entered. -/
def Scraping.Amid (pause : Pause (Scraping (Journal σ))) (wake : Wake) (elapsed : Nat)
    (s t : Scraping (Journal σ)) : Prop :=
  ∃ u, Meantime.leaving (fun s => s.world.1) pause wake elapsed s u ∧ u.noteWait wake elapsed = t

namespace ScrapeService

-- From here on the work for a request is known only by what it enters.
attribute [local irreducible] fetch

/-- Carrying a request out comes to what the work for it comes to, whatever goes on during waits. -/
theorem exists_fetch_of_scrapeAnew (service : ScrapeService σ F) {request : ScrapeRequest}
    {outer : Meantime (Scraping σ)} {inner : Meantime (Noted σ)}
    (hmeantime : ∀ (pause : Pause (Noted σ)) wake elapsed notes s t,
      outer ⟨pause.after, fun s => pause.ready (notes, s.world), pause.heeds⟩ wake elapsed s t →
        inner pause wake elapsed (notes, s.world) (notes, t.world))
    {result : ScrapeResult} {s t : Scraping σ}
    (hends : (service.scrapeAnew request).CanEnd outer result t s) :
    ∃ outcome notes took moment,
      (service.fetch request).run.CanEnd inner outcome (notes, t.world) ({}, s.world) ∧
      result = resultOf request outcome { notes with processingTimeMs := took } moment := by
  obtain ⟨began, u, ⟨-, hu⟩, hafter⟩ := Activity.canEnd_bind.mp hends
  obtain ⟨⟨outcome, notes⟩, v, hcarried, hresult⟩ := Activity.canEnd_bind.mp hafter
  have hworld : u.world = s.world := by rw [← hu]
  obtain ⟨rfl, rfl⟩ := hresult
  refine ⟨outcome, notes, _, _, ?_, rfl⟩
  rw [← hworld, service.world_keep]
  have hfetch : (Activity.withNotes {} (service.fetch request).run).CanEnd
      (fun pause wake elapsed w v => ∃ s t : Scraping σ, s.world = w ∧ t.world = v ∧
        outer ⟨pause.after, fun s => pause.ready s.world, pause.heeds⟩ wake elapsed s t)
      (outcome, notes) v.world u.world := by
    refine hcarried.of_within ?_ fun _ _ => rfl
    exact fun pause wake elapsed s t hamid => ⟨s, t, rfl, rfl, hamid⟩
  refine Activity.CanEnd.of_withNotes ?_ hfetch
  rintro pause wake elapsed notes - - ⟨s, t, rfl, rfl, hamid⟩
  exact hmeantime pause wake elapsed notes s t hamid

-- And a request that is carried out only by its work.
attribute [local irreducible] scrapeAnew

theorem exists_fetches_of_scrapeAnew (service : ScrapeService σ F) {request : ScrapeRequest}
    {result : ScrapeResult} {s t : Scraping (Journal σ)}
    (hends : (service.journaled.scrapeAnew request).CanEnd Scraping.Amid result t s) :
    ∃ entries, t.world.1 = s.world.1 ++ entries ∧ RespectsGate request entries result := by
  have hamid (pause : Pause (Noted (Journal σ))) wake elapsed notes s t
      (hamid : Scraping.Amid ⟨pause.after, fun s => pause.ready (notes, s.world), pause.heeds⟩ wake
        elapsed s t) : Noted.Amid pause wake elapsed (notes, s.world) (notes, t.world) := by
    obtain ⟨u, ⟨hwake, hleft⟩, rfl⟩ := hamid
    exact ⟨⟨u.world, by cases wake <;> exact hwake, hleft, rfl⟩, rfl⟩
  obtain ⟨outcome, notes, took, moment, hfetch, rfl⟩ :=
    service.journaled.exists_fetch_of_scrapeAnew hamid hends
  obtain ⟨entries, checked, siteId, hfetches, hworld, hnoted⟩ :=
    service.fetches_of_canEnd rfl hfetch
  have hchecked : notes.robotsTxtChecked = checked := congrArg (·.2.1) hnoted
  have hsiteId : notes.siteId = siteId := congrArg (·.2.2) hnoted
  subst hchecked hsiteId
  let notes := { notes with processingTimeMs := took }
  have hfetches : Fetches request entries outcome notes.robotsTxtChecked notes.siteId := hfetches
  exact ⟨entries, hworld, hfetches.respectsGate moment⟩

/-- A scrape that is not answered by a kept result is carried out. -/
theorem exists_scrapeAnew_of_scrape (service : ScrapeService σ F) {request : ScrapeRequest}
    {meantime : Meantime (Scraping σ)} {result : ScrapeResult} {s t : Scraping σ}
    (hends : (service.scrape request).CanEnd meantime result t s)
    (hanew : result.metadata.cacheUsed = false) :
    ∃ u : Scraping σ, u.world = s.world ∧
      (service.scrapeAnew request).CanEnd meantime result t u := by
  unfold scrape at hends
  split at hends
  · obtain ⟨found, u, ⟨-, hu⟩, hends⟩ := Activity.canEnd_bind.mp hends
    cases found with
    | some kept =>
        obtain ⟨rfl, -⟩ := hends
        cases hanew
    | none => exact ⟨u, by rw [← hu], hends⟩
  · exact ⟨s, rfl, hends⟩

/-- Every scrape that is not answered by a kept result respects the gate, whatever the robots rules
and the sites answer, whatever its waits end with and whatever others do to the world and to the
kept results in the meantime. -/
theorem exists_respectsGate (service : ScrapeService σ F) (request : ScrapeRequest)
    {result : ScrapeResult} {s t : Scraping (Journal σ)}
    (hends : ((service.journaled.scrape request).noting Scraping.noteWait).CanEnd
      (Meantime.leaving fun s => s.world.1) result t s)
    (hanew : result.metadata.cacheUsed = false) :
    ∃ entries, t.world.1 = s.world.1 ++ entries ∧ RespectsGate request entries result := by
  have hscrape : (service.journaled.scrape request).CanEnd Scraping.Amid result t s :=
    Activity.canEnd_noting.mp hends
  unfold scrape at hscrape
  split at hscrape
  · obtain ⟨found, u, ⟨hfound, hu⟩, hscrape⟩ := Activity.canEnd_bind.mp hscrape
    cases found with
    | some kept =>
        obtain ⟨rfl, -⟩ := hscrape
        cases hanew
    | none =>
        have hworld : u.world = s.world := by rw [← hu]
        rw [← hworld]
        exact service.exists_fetches_of_scrapeAnew hscrape
  · exact service.exists_fetches_of_scrapeAnew hscrape

/-- The scrape of a page of a known site asks for a browser, after a pause of a second. -/
theorem exists_respectsGate_of_known_site :
    let site : Site := { id := "events", domain := "example.com" }
    let service := Rehearsal.service {} .allowed [site] "/shots" ⟨0, 0⟩
    let request : ScrapeRequest := { url := "https://example.com/a" }
    let s : Scraping (Journal Rehearsal.Stage) := { world := ([], {}) }
    ∃ result t,
      (((service.journaled.scrape request).noting Scraping.noteWait).CanEnd
        (Meantime.leaving fun s => s.world.1) result t s ∧ result.metadata.cacheUsed = false) ∧
      (∃ entry ∈ t.world.1, entry.isLaunch = true) ∧
      ∃ entries, t.world.1 = s.world.1 ++ entries ∧ RespectsGate request entries result := by
  intro site service request s
  have hruns : (((service.journaled.scrape request).noting Scraping.noteWait).run none 0 s).any
      (fun ended => !ended.1.metadata.cacheUsed && ended.2.2.world.1.any (·.isLaunch)) = true := by
    decide +kernel
  clear_value service s
  obtain ⟨⟨result, later, t⟩, hrun, hended⟩ := (Option.any_eq_true _ _).mp hruns
  simp only [Bool.and_eq_true, Bool.not_eq_true', List.any_eq_true] at hended
  have hends : ((service.journaled.scrape request).noting Scraping.noteWait).CanEnd
      (Meantime.leaving fun s => s.world.1) result t s :=
    Activity.canEnd_of_run (fun _ _ _ _ hwake => ⟨hwake, rfl⟩) hrun
  exact ⟨result, t, ⟨hends, hended.1⟩, hended.2,
    service.exists_respectsGate request hends hended.1⟩

end ScrapeService

end SiteWatch
