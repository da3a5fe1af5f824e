/-
# The browser is always closed

A scrape that is given a browser tries to close it, once, however the scrape comes to its end: with
its fields, with a failure of any call, at its deadline or called off. And what becomes of the
closing does not show in the result, except for the time that it took.
-/

import SiteWatch.Proofs.Scrape.Transcript

namespace SiteWatch

variable {σ F α : Type}

/-- The calls that begin and end the life of a browser. -/
def ScrapeCall.isOfBrowser : ScrapeCall → Bool
  | .handedOut | .closing => true
  | _ => false

namespace Watched

/-- Others do what they like with the world, and write nothing down. -/
def SameCalls (w v : Watched σ) : Prop := v.1 = w.1

/-- What was called of browsers. -/
def ofBrowser (w : Watched σ) : List ScrapeCall := w.calls ScrapeCall.isOfBrowser

/-- Between two states no browser was handed out and none closed, or one was handed out and then
closed. -/
def ClosedBetween (w v : Watched σ) : Prop :=
  v.ofBrowser = w.ofBrowser ∨ v.ofBrowser = w.ofBrowser ++ [.handedOut, .closing]

/-- What asking for a browser comes to: one is handed out, and its calls are written down, or none
is. -/
def HandedOut (w : Watched σ) : Outcome (Browser (Watched σ) F) → Watched σ → Prop
  | .error _, v => v.ofBrowser = w.ofBrowser
  | .ok browser, v => ∃ inner : Browser σ F, browser = inner.watched ∧
    v.ofBrowser = w.ofBrowser ++ [.handedOut]

theorem always_sameCalls {work : Activity (Watched σ) α} (hwork : work.Keeps ofBrowser)
    (w : Watched σ) : work.Always SameCalls (fun _ v => v.ofBrowser = w.ofBrowser) w :=
  hwork.always (fun _ _ hsame => congrArg (List.filter ScrapeCall.isOfBrowser) hsame) w

end Watched

open Watched

/-- A browser that is handed out is so on record. -/
theorem PageEngine.always_launch_watched (engine : PageEngine σ F) (options : PageOptions)
    (w : Watched σ) :
    (engine.watched.launch options).run.Always SameCalls (HandedOut w) w := by
  have hlaunch : (seen .launching (engine.launch options)).run.Keeps ofBrowser := keeps_seen rfl _
  refine (always_sameCalls hlaunch w).bind fun launched v hv => ?_
  cases launched with
  | error cause => exact Activity.always_done hv
  | ok browser =>
      refine Activity.always_act (Activity.always_done ⟨browser, rfl, ?_⟩)
      rw [← hv]
      simp [ofBrowser, calls, write, ScrapeCall.isOfBrowser]

theorem PageEngine.always_start_watched (engine : PageEngine σ F) (options : PageOptions)
    (w : Watched σ) : (engine.watched.start options).run.Always SameCalls (HandedOut w) w := by
  refine (engine.always_launch_watched options w).bind fun launched v hv =>
    Activity.always_done ?_
  cases launched with
  | error cause => cases cause <;> exact hv
  | ok browser => exact hv

/-- That a browser is to be closed is on record, whether or not the closing comes to an end in time.
-/
theorem Browser.always_close_watched (browser : Browser σ F) (limit : Nat) (w : Watched σ) :
    (browser.watched.close.timeout limit).ok?.Always SameCalls
      (fun _ v => v.ofBrowser = w.ofBrowser ++ [.closing]) w := by
  have hclose : (Activity.orLate (.error (.timedOut limit)) limit
      (unseen browser.close.run)).Keeps ofBrowser :=
    Activity.keeps_orLate _ (keeps_unseen _ _)
  have hlogged : (browser.watched.close.timeout limit).run.Always SameCalls
      (fun _ v => v.ofBrowser = (w.write .closing).ofBrowser) w :=
    Activity.always_act (always_sameCalls hclose (w.write .closing))
  refine hlogged.bind fun _ v hv => Activity.always_done (hv.trans ?_)
  simp [ofBrowser, calls, write, ScrapeCall.isOfBrowser]

/-- Work that does not touch the notes. -/
theorem Noted.always_quietly {post : α → Watched σ → Prop} {work : Activity (Watched σ) α}
    {s : Noted (Watched σ)} (hwork : work.Always SameCalls post s.2) :
    (Noted.quietly work).Always (fun s t => SameCalls s.2 t.2) (fun a t => post a t.2) s := by
  refine Activity.always_within ?_ ?_ hwork
  · exact fun _ _ hsame => hsame
  · exact fun _ _ => rfl

/-- An attempt that leaves browsers alone. -/
theorem Noted.always_sameCalls {attempt : Attempt (Noted (Watched σ)) α}
    (hattempt : Attempt.Keeps (fun noted => ofBrowser noted.2) attempt) (s : Noted (Watched σ)) :
    attempt.run.Always (fun s t => SameCalls s.2 t.2)
      (fun _ t => t.2.ofBrowser = s.2.ofBrowser) s :=
  Activity.Keeps.always
    (fun _ _ hsame => congrArg (List.filter ScrapeCall.isOfBrowser) hsame) hattempt s

theorem Watched.ClosedBetween.of_eq {w v u : Watched σ} (hclosed : ClosedBetween v u)
    (hsame : v.ofBrowser = w.ofBrowser) : ClosedBetween w u := by
  rw [ClosedBetween, ← hsame]
  exact hclosed

namespace ScrapeService

theorem keeps_ofBrowser (service : ScrapeService σ F) : service.watched.Keeps ofBrowser :=
  service.keeps_watched rfl fun _ _ => rfl

/-- A browser that was started is closed once, whatever the drive comes to. -/
theorem always_browse_watched (service : ScrapeService σ F) (visit : Visit)
    (noted : Noted (Watched σ)) :
    (service.watched.browse visit).run.Always (fun s t => SameCalls s.2 t.2)
      (fun _ t => ClosedBetween noted.2 t.2) noted := by
  unfold browse
  refine Attempt.always_bind (Noted.always_quietly
    (service.engine.always_start_watched visit.site.options noted.2)) (fun _ _ hs => .inl hs) ?_
  rintro _ s ⟨browser, rfl, hs⟩
  have hbrowser : browser.watched.Keeps ofBrowser :=
    browser.keeps_watched rfl (fun _ => rfl) rfl
  have hdrive := Attempt.keeps_cancellable visit.request.url (Attempt.keeps_timeout?
    visit.request.options.timeoutMs (service.keeps_ofBrowser.drive hbrowser visit))
  refine Attempt.always_bind_ofActivity (Noted.always_sameCalls hdrive s) fun outcome t ht => ?_
  refine Attempt.always_bind_ofActivity (Noted.always_quietly
    (browser.always_close_watched closeLimitMs t.2)) fun _ u hu => ?_
  refine Activity.always_done (.inr (hu.trans ?_))
  rw [ht, hs, List.append_assoc]
  rfl

/-- Everything before the browser is started leaves browsers alone. -/
theorem always_fetch_watched (service : ScrapeService σ F) (request : ScrapeRequest)
    (noted : Noted (Watched σ)) :
    (service.watched.fetch request).run.Always (fun s t => SameCalls s.2 t.2)
      (fun _ t => ClosedBetween noted.2 t.2) noted := by
  have hdraw : Attempt.Keeps (fun noted : Noted (Watched σ) => ofBrowser noted.2)
      (Noted.attempt (Attempt.step fun w => (.ok (service.watched.draw w), w))) :=
    Noted.keeps_attempt (Attempt.keeps_step fun _ => rfl)
  have hpass (politeness : Politeness) (drawn : Nat) :
      Attempt.Keeps (fun noted : Noted (Watched σ) => ofBrowser noted.2)
        (Noted.attempt (politeness.pass drawn)) :=
    Noted.keeps_attempt (Politeness.keeps_pass _ _ drawn)
  unfold fetch
  refine Attempt.always_bind
    (Noted.always_sameCalls (service.keeps_ofBrowser.approve request) noted)
    (fun _ _ hs => .inl hs) fun visit s hs => ?_
  refine Attempt.always_bind (Noted.always_sameCalls hdraw s) (fun _ _ ht => .inl (ht.trans hs))
    fun drawn t ht => ?_
  refine Attempt.always_bind (Noted.always_sameCalls (hpass _ drawn) t)
    (fun _ _ hu => .inl (hu.trans (ht.trans hs))) fun _ u hu => ?_
  exact (service.always_browse_watched visit u).mono fun _ v hv => hv.of_eq (hu.trans (ht.trans hs))

/-- A request that is carried out closes the browser that it is given. -/
theorem always_scrapeAnew_watched (service : ScrapeService σ F) (request : ScrapeRequest)
    (s : Scraping (Watched σ)) :
    (service.watched.scrapeAnew request).Always (fun s t => SameCalls s.world t.world)
      (fun _ t => ClosedBetween s.world t.world) s := by
  have hfetch : (Activity.withNotes {} (service.watched.fetch request).run).Always SameCalls
      (fun _ v => ClosedBetween s.world v) s.world :=
    Activity.always_withNotes (fun _ _ _ hsame => hsame)
      (service.always_fetch_watched request ({}, s.world))
  have hcarried : (onWorld (Activity.withNotes {} (service.watched.fetch request).run)).Always
      (fun s t => SameCalls s.world t.world) (fun _ t => ClosedBetween s.world t.world) s := by
    refine Activity.always_within ?_ ?_ hfetch
    · exact fun _ _ hsame => hsame
    · exact fun _ _ => rfl
  have hbegan : (onWorld (Activity.step fun w => (service.watched.uptimeMs w, w))).Always
      (fun s t => SameCalls s.world t.world) (fun _ t => t = s) s :=
    Activity.always_act (Activity.always_done rfl)
  unfold scrapeAnew
  refine hbegan.bind fun began t ht => ?_
  subst ht
  refine hcarried.bind fun ended u hu => Activity.always_step ?_
  rwa [world_keep]

/-- What is done to the kept results alone. -/
theorem always_step_apart {f : Scraping (Watched σ) → α × Scraping (Watched σ)}
    (hf : ∀ s, (f s).2.world = s.world) (s : Scraping (Watched σ)) :
    (Activity.step f).Always (fun s t => SameCalls s.world t.world)
      (fun _ t => t.world = s.world) s :=
  Activity.always_step (hf s)

/-- Whatever a scrape comes to, and whatever others do in the meantime: when it is over, it has been
given no browser and has tried to close none, or it has been given one and has then tried, once, to
close that one. -/
theorem always_scrape_watched (service : ScrapeService σ F) (request : ScrapeRequest)
    (s : Scraping (Watched σ)) :
    (service.watched.scrape request).Always (fun s t => SameCalls s.world t.world)
      (fun _ t => ClosedBetween s.world t.world) s := by
  unfold scrape
  split
  · refine (always_step_apart (fun _ => rfl) s).bind fun found t ht => ?_
    cases found with
    | none => exact ht ▸ service.always_scrapeAnew_watched request t
    | some result => exact Activity.always_done (.inl (congrArg ofBrowser ht))
  · exact service.always_scrapeAnew_watched request s

/-- In particular so does a scrape that runs by itself, called off or not. -/
theorem closedBetween_of_run_scrape (service : ScrapeService σ F) (request : ScrapeRequest)
    {cancelAt : Option Nat} {clock later : Nat} {s t : Scraping (Watched σ)} {result : ScrapeResult}
    (hrun : (service.watched.scrape request).run cancelAt clock s = some (result, later, t)) :
    ClosedBetween s.world t.world := by
  have hsame (u : Scraping (Watched σ)) : SameCalls u.world u.world := rfl
  have hended := (service.always_scrape_watched request s).of_run hsame hrun
  exact hended

end ScrapeService

/-! ## What becomes of the closing does not show -/

/-- A browser that closes in another way. -/
def Browser.closingBy (close : Browser σ F → Attempt σ Unit) (browser : Browser σ F) :
    Browser σ F :=
  { browser with close := close browser }

/-- An engine whose browsers close in another way. -/
def PageEngine.closingBy (close : Browser σ F → Attempt σ Unit) (engine : PageEngine σ F) :
    PageEngine σ F :=
  { engine with
    launch := fun options =>
      ExceptT.mk ((engine.launch options).run.bind fun launched =>
        .done (launched.map (Browser.closingBy close))) }

/-- A service whose browsers close in another way. -/
def ScrapeService.closingBy (close : Browser σ F → Attempt σ Unit) (service : ScrapeService σ F) :
    ScrapeService σ F :=
  { service with engine := service.engine.closingBy close }

/-- A result without the time that it took. -/
def ScrapeResult.untimed (result : ScrapeResult) : ScrapeResult :=
  { result with metadata := { result.metadata with processingTimeMs := 0 } }

theorem Noted.run_quietly (cancelAt : Option Nat) (clock : Nat) (noted : Noted σ)
    (work : Activity σ α) :
    (Noted.quietly work).run cancelAt clock noted =
      (work.run cancelAt clock noted.2).map fun ended =>
        (ended.1, ended.2.1, (noted.1, ended.2.2)) := by
  refine Activity.run_within ?_ ?_ ?_ cancelAt clock noted work
  · exact fun _ _ => rfl
  · exact fun _ _ _ => rfl
  · exact fun _ => rfl

namespace ScrapeService

variable (close : Browser σ F → Attempt σ Unit) (service : ScrapeService σ F) (visit : Visit)

/-! How browsers close is nothing to the pages they open. -/

theorem extractFramesFrom_closingBy (extractors : List Extractor) (limit : Nat)
    (fields : FrameFields) (position : Nat) (frames : List F) :
    (service.closingBy close).engine.extractFramesFrom extractors limit fields position frames =
      service.engine.extractFramesFrom extractors limit fields position frames := by
  induction frames generalizing fields position with
  | nil => rfl
  | cons frame rest ih =>
      simp only [PageEngine.extractFramesFrom, ih]
      rfl

theorem follow_closingBy (page : Page σ F) (plan : List Instruction) :
    (service.closingBy close).follow visit page plan = service.follow visit page plan := by
  induction plan with
  | nil => rfl
  | cons i rest ih =>
      simp only [follow, ih]
      rfl

theorem drive_closingBy (browser : Browser σ F) :
    (service.closingBy close).drive visit (browser.closingBy close) =
      service.drive visit browser := by
  have hgather : ∀ page : Page σ F,
      (service.closingBy close).gather visit page = service.gather visit page := by
    intro page
    simp only [gather, PageEngine.extractFrames, extractFramesFrom_closingBy]
  have hattend : ∀ page : Page σ F,
      (service.closingBy close).attend visit page = service.attend visit page := by
    intro page
    simp only [attend, follow_closingBy, hgather]
    rfl
  simp only [drive, hattend]
  rfl

theorem start_closingBy (options : PageOptions) :
    ((service.closingBy close).engine.start options).run =
      (service.engine.start options).run.bind fun started =>
        .done (started.map (Browser.closingBy close)) := by
  simp only [PageEngine.start, closingBy, PageEngine.closingBy, ExceptT.run_mk, Activity.bind_assoc,
    Activity.bind]
  congr 1
  funext launched
  cases launched with
  | ok browser => rfl
  | error cause => cases cause <;> rfl

/-- The drive of a browser, up to its closing. -/
def drivenUntilClosed (browser : Browser σ F) : Activity (Noted σ) (Outcome Members) :=
  (((service.drive visit browser).timeout? visit.request.options.timeoutMs).cancellable
    visit.request.url).run

/-- The last thing that is done with a browser: to close it, and to answer with what was brought. -/
def closed (browser : Browser σ F) (outcome : Outcome Members) :
    Activity (Noted σ) (Outcome Members) :=
  (Noted.quietly ((close browser).timeout closeLimitMs).ok?).bind fun _ => .done outcome

/-- Only the last thing that is done with a browser depends on how browsers close. -/
theorem browse_closingBy :
    ((service.closingBy close).browse visit).run =
      (Noted.quietly (service.engine.start visit.site.options).run).bind fun
        | .error cause => .done (.error cause)
        | .ok browser => (service.drivenUntilClosed visit browser).bind (closed close browser) := by
  have hbrowse : ((service.closingBy close).browse visit).run =
      (Noted.quietly ((service.closingBy close).engine.start visit.site.options).run).bind fun
        | .error cause => .done (.error cause)
        | .ok browser =>
          ((service.closingBy close).drivenUntilClosed visit browser).bind fun outcome =>
            (Noted.quietly (browser.close.timeout closeLimitMs).ok?).bind fun _ =>
              .done outcome := by
    refine congrArg (Activity.bind _) (funext fun started => ?_)
    cases started with
    | error cause => rfl
    | ok browser =>
        refine (Attempt.run_bind_ofActivity _ _).trans (congrArg (Activity.bind _) ?_)
        exact funext fun outcome => Attempt.run_bind_ofActivity _ _
  rw [hbrowse, start_closingBy, Noted.quietly, Activity.within_bind, Activity.bind_assoc]
  congr 1
  funext started
  cases started with
  | error cause => rfl
  | ok browser =>
      change ((service.closingBy close).drivenUntilClosed visit
        (browser.closingBy close)).bind _ = _
      rw [drivenUntilClosed, drive_closingBy]
      rfl

/-- A browser that is closed leaves the outcome and the notes as they are. -/
theorem runAlike_closed (first second : Browser σ F → Attempt σ Unit) (browser : Browser σ F)
    (outcome : Outcome Members) :
    Activity.RunAlike (fun x y => x.1 = y.1 ∧ x.2.1 = y.2.1) (closed first browser outcome)
      (closed second browser outcome) := by
  intro cancelAt clock noted
  have hended : ∀ close : Browser σ F → Attempt σ Unit, ∃ clock' s,
      Activity.run cancelAt clock noted (closed close browser outcome) =
        some (outcome, clock', (noted.1, s)) := by
    intro close
    have hends : (Activity.run cancelAt clock noted.2
        ((close browser).timeout closeLimitMs).run).isSome :=
      Activity.isSome_run_orLate _ closeLimitMs cancelAt clock noted.2 (close browser).run
    obtain ⟨⟨answer, clock', s⟩, hrun⟩ := Option.isSome_iff_exists.mp hends
    refine ⟨clock', s, ?_⟩
    rw [closed, Activity.run_bind, Noted.run_quietly, Attempt.ok?, Activity.run_bind, hrun]
    rfl
  obtain ⟨firstClock, firstWorld, hfirst⟩ := hended first
  obtain ⟨secondClock, secondWorld, hsecond⟩ := hended second
  rw [hfirst, hsecond]
  exact .some ⟨rfl, rfl⟩

variable (first second : Browser σ F → Attempt σ Unit) (request : ScrapeRequest)

theorem runAlike_browse :
    Activity.RunAlike (fun x y => x.1 = y.1 ∧ x.2.1 = y.2.1)
      ((service.closingBy first).browse visit).run
      ((service.closingBy second).browse visit).run := by
  rw [browse_closingBy, browse_closingBy]
  refine Activity.runAlike_bind_left _ fun started => ?_
  cases started with
  | error cause => exact Activity.runAlike_refl (fun _ => ⟨rfl, rfl⟩) _
  | ok browser => exact Activity.runAlike_bind_left _ (runAlike_closed first second browser)

theorem runAlike_fetch :
    Activity.RunAlike (fun x y => x.1 = y.1 ∧ x.2.1 = y.2.1)
      ((service.closingBy first).fetch request).run
      ((service.closingBy second).fetch request).run := by
  have halike (x : Outcome Members × Noted σ) : x.1 = x.1 ∧ x.2.1 = x.2.1 := ⟨rfl, rfl⟩
  unfold fetch
  refine Attempt.runAlike_bind_left halike (service.approve request) fun visit => ?_
  refine Attempt.runAlike_bind_left halike
    (Noted.attempt (Attempt.step fun s => (.ok (service.draw s), s))) fun drawn => ?_
  refine Attempt.runAlike_bind_left halike (Noted.attempt (Politeness.pass
    ⟨visit.site.options.politenessDelayMs, service.settings.jitterMs⟩ drawn)) fun _ => ?_
  exact service.runAlike_browse visit first second

/-- The same result, except for the time that it took; and at the same time of day, if the clock
shows the same in the end. -/
def SameButForTime (x y : ScrapeResult × Scraping σ) : Prop :=
  (∀ moment, { x.1.untimed with timestamp := moment } =
    { y.1.untimed with timestamp := moment }) ∧
  (service.now x.2.world = service.now y.2.world → x.1.timestamp = y.1.timestamp)

theorem runAlike_onWorld {alike : α × σ → α × σ → Prop} {work other : Activity σ α}
    (hwork : Activity.RunAlike alike work other) :
    Activity.RunAlike (fun x y => alike (x.1, x.2.world) (y.1, y.2.world)) (onWorld work)
      (onWorld other) := by
  refine hwork.within ?_ ?_ ?_
  · exact fun _ _ => rfl
  · exact fun _ _ _ => rfl
  · exact fun _ => rfl

theorem runAlike_scrapeAnew :
    Activity.RunAlike service.SameButForTime ((service.closingBy first).scrapeAnew request)
      ((service.closingBy second).scrapeAnew request) := by
  refine Activity.runAlike_bind_left
    (onWorld (Activity.step fun s => (service.uptimeMs s, s))) fun began => ?_
  have hfetch := runAlike_onWorld ((service.runAlike_fetch first second request).withNotes {})
  refine hfetch.bind_step ?_
  rintro ⟨⟨outcome, notes⟩, s⟩ ⟨⟨outcome', notes'⟩, t⟩ ⟨houtcome, hnotes⟩
  obtain rfl : outcome = outcome' := houtcome
  obtain rfl : notes = notes' := hnotes
  constructor
  · intro moment
    cases outcome <;> rfl
  · intro hnow
    simp only [world_keep] at hnow
    cases outcome <;> exact hnow

/-- Scrapes by services whose browsers close in different ways. -/
theorem runAlike_scrape :
    Activity.RunAlike service.SameButForTime ((service.closingBy first).scrape request)
      ((service.closingBy second).scrape request) := by
  simp only [scrape]
  split
  · refine Activity.runAlike_bind_left _ fun found => ?_
    cases found with
    | none => exact service.runAlike_scrapeAnew first second request
    | some result => exact Activity.runAlike_refl (fun _ => ⟨fun _ => rfl, fun _ => rfl⟩) _
  · exact service.runAlike_scrapeAnew first second request

/-- The browser is always closed. Whatever the collaborators of a service do, whenever the work is
called off, and whatever others do in the meantime: when a scrape is over, it has tried once to
close the browser that it was given, if it was given one, and to close none otherwise. And whether
browsers close, fail to or never come to an end with it, a scrape that is left to itself comes to
the same result, except for the time that it took. -/
theorem closes_browser_and_hides_closing (service : ScrapeService σ F) (request : ScrapeRequest) :
    (∀ s, (service.watched.scrape request).Always (fun s t => SameCalls s.world t.world)
      (fun _ t => ClosedBetween s.world t.world) s) ∧
    ∀ first second : Browser σ F → Attempt σ Unit,
      Activity.RunAlike service.SameButForTime ((service.closingBy first).scrape request)
        ((service.closingBy second).scrape request) :=
  ⟨service.always_scrape_watched request,
    fun first second => service.runAlike_scrape first second request⟩

end ScrapeService

end SiteWatch
