/-
# New content

A round compares what its pages have brought with what the register remembers of the rounds before.
Along a history of rounds of one site, one after another, that comparison comes down to the contents
themselves: a round has news exactly if it has brought something, and something else than the latest
round before it that has brought anything. What is remembered is always the digest of the latest
content there was.
-/

import Mathlib.Data.List.Chain
import SiteWatch.Proofs.Json.Canonical
import SiteWatch.Proofs.Schedule.Ledger
import SiteWatch.Proofs.Schedule.RoundOutcome

namespace SiteWatch

variable {σ : Type}

/-! ## What a log tells -/

namespace Call

/-- The page that a call asks for. -/
def asked? : Call → Option String
  | .scrape request => some request.url
  | _ => none

/-- The answer that a call brings. -/
def answer? : Call → Option ScrapeResult
  | .answer result => some result
  | _ => none

/-- The answer to writing bookkeeping back. -/
def written? : Call → Option (Outcome Bool)
  | .record _ _ _ outcome => some outcome
  | _ => none

/-- The notice of new content that a call sends. -/
def news? : Call → Option Notice
  | .notify (.newContent siteId url digest) _ => some (.newContent siteId url digest)
  | _ => none

/-- The pages that were asked for, with their answers. -/
def pages (log : List Call) : List (String × ScrapeResult) :=
  (log.filterMap asked?).zip (log.filterMap answer?)

/-- What pages have brought, if any of them was scraped: the fields of each that was, by its
address. -/
def content? (pages : List (String × ScrapeResult)) : Option Json :=
  let scraped := pages.filter (·.2.success)
  if scraped.isEmpty then none
  else some (.object (Members.ofList (scraped.map fun page => (page.1, .object page.2.data))))

theorem holdsNoFloat_of_content? {pages : List (String × ScrapeResult)} {content : Json}
    (hpages : ∀ page ∈ pages, page.2.success = true → Json.HoldsNoFloat (.object page.2.data))
    (hcontent : content? pages = some content) : Json.HoldsNoFloat content := by
  simp only [content?] at hcontent
  split at hcontent
  · cases hcontent
  · cases hcontent
    refine .object fun member hmember => ?_
    obtain ⟨page, hpage, rfl⟩ := List.mem_map.mp (Members.mem_of_mem_ofList hmember)
    obtain ⟨hmem, hsuccess⟩ := List.mem_filter.mp hpage
    exact hpages page hmem hsuccess

end Call

namespace Proceedings

variable (registration : Registration) (p : Proceedings)

/-- To read something off all calls of a round, other than what it writes back, is to read it off
the calls for each page and off the news. -/
theorem filterMap_calls {α : Type} {f : Call → Option α}
    (hrecord : ∀ moment siteId history outcome,
      f (.record moment siteId history outcome) = none) :
    (p.calls registration).filterMap f =
      (p.visits.flatMap fun visit => (visit.calls registration.id).filterMap f) ++
        (p.announcement? registration).toList.filterMap fun notice =>
          f (.notify notice p.announced) := by
  simp [calls, callsBeforeEnd, hrecord, List.filterMap_append, List.filterMap_flatMap,
    List.filterMap_map]

/-- What is told of new content is a notice of new content. -/
theorem exists_eq_of_announcement? {notice : Notice}
    (hnotice : p.announcement? registration = some notice) :
    ∃ url digest, notice = .newContent registration.id url digest := by
  unfold announcement? at hnotice
  split at hnotice
  · obtain ⟨visit, -, rfl⟩ := Option.map_eq_some_iff.mp hnotice
    exact ⟨_, _, rfl⟩
  · cases hnotice

/-- What is new is told if that is wanted, and nothing else. -/
theorem length_announcement? : (p.announcement? registration).toList.length =
    if p.isNews registration && registration.notifications.onNewContent then 1 else 0 := by
  unfold announcement?
  split
  · rename_i hnews
    have hhash : (PageVisit.hash? p.visits).isSome := by
      simp only [isNews, Bool.and_eq_true, Option.any_eq_true] at hnews
      obtain ⟨⟨hash, hhash, -⟩, -⟩ := hnews
      simp [hhash]
    simpa [PageVisit.hash?] using hhash
  · rfl

theorem filterMap_asked?_calls :
    (p.calls registration).filterMap Call.asked? = p.visits.map PageVisit.url := by
  have hvisit : ∀ visit : PageVisit,
      (visit.calls registration.id).filterMap Call.asked? = [visit.url] := by
    rintro ⟨url, result, _ | saved, _ | told⟩ <;> rfl
  simp [filterMap_calls registration p (f := Call.asked?) fun _ _ _ _ => rfl, hvisit, Call.asked?,
    ← List.map_eq_flatMap]

theorem filterMap_answer?_calls :
    (p.calls registration).filterMap Call.answer? = p.visits.map PageVisit.result := by
  have hvisit : ∀ visit : PageVisit,
      (visit.calls registration.id).filterMap Call.answer? = [visit.result] := by
    rintro ⟨url, result, _ | saved, _ | told⟩ <;> rfl
  simp [filterMap_calls registration p (f := Call.answer?) fun _ _ _ _ => rfl, hvisit,
    Call.answer?, ← List.map_eq_flatMap]

/-- The pages of a round are those that its log shows. -/
theorem pages_calls :
    Call.pages (p.calls registration) = p.visits.map fun visit => (visit.url, visit.result) := by
  rw [Call.pages, filterMap_asked?_calls, filterMap_answer?_calls, List.zip_map']

/-- The notices of new content that a log shows are what is told of new content. -/
theorem filterMap_news?_calls :
    (p.calls registration).filterMap Call.news? = (p.announcement? registration).toList := by
  have hvisit : ∀ visit : PageVisit,
      (visit.calls registration.id).filterMap Call.news? = [] := by
    rintro ⟨url, result, _ | saved, _ | told⟩ <;> rfl
  rw [filterMap_calls registration p (f := Call.news?) fun _ _ _ _ => rfl]
  cases hnotice : p.announcement? registration with
  | none => simp [hvisit]
  | some notice =>
      obtain ⟨url, digest, rfl⟩ := p.exists_eq_of_announcement? registration hnotice
      simp [hvisit, Call.news?]

/-- The digest of a round is that of the content that its log shows. -/
theorem hash?_eq : PageVisit.hash? p.visits =
    (Call.content? (Call.pages (p.calls registration))).map Json.digest := by
  have hscraped : (p.visits.map fun visit => (visit.url, visit.result)).filter (·.2.success) =
      (PageVisit.successes p.visits).map fun visit => (visit.url, visit.result) := by
    simp [List.filter_map, PageVisit.successes, Function.comp_def]
  simp only [pages_calls, Call.content?, hscraped, PageVisit.hash?, PageVisit.payload,
    Members.ofList]
  cases PageVisit.successes p.visits with
  | nil => rfl
  | cons first rest => simp [List.foldl_map]

end Proceedings

/-! ## What the register holds of a site -/

/-- The bookkeeping of an id. -/
def Register.history? (siteId : String) (register : Register) : Option Bookkeeping :=
  (register.get? siteId).map Registration.history

theorem Register.history?_record (register : Register) (siteId : String) {history : Bookkeeping}
    (hpresent : (register.history? siteId).isSome) :
    (register.record siteId history).history? siteId = some history := by
  obtain ⟨r, hr⟩ := Option.isSome_iff_exists.mp (by simpa [history?] using hpresent)
  simp [history?, get?_record_self, hr, Registration.withHistory]

theorem ScheduleServices.KeepsRegister.logged {services : ScheduleServices σ}
    {view : σ → Register} (hstore : services.KeepsRegister view) :
    services.logged.KeepsRegister fun w => view w.2 where
  register_ok w := hstore.register_ok w.2
  record_taken siteId history w := hstore.record_taken siteId history w.2
  record_refused siteId history w := hstore.record_refused siteId history w.2
  save siteId result w := hstore.save siteId result w.2
  notify notice w := hstore.notify notice w.2
  scrape request := by
    have hpart : ∀ (s : σ) (w : Logged σ), view s = view w.2 → view (w.1, s).2 = view w.2 :=
      fun s w hs => hs
    exact ⟨fun w => rfl, fun w => Activity.keeps_bind
      (Activity.keeps_within hpart (hstore.scrape request)) fun result =>
        ⟨fun w => rfl, fun w => trivial⟩⟩

namespace Hearing

variable {services : ScheduleServices σ} {view : σ → Register} {siteId : String} {h : Hearing σ}

/-- The bookkeeping of a site as it stands in the register. -/
def stored? (view : σ → Register) (siteId : String) (h : Hearing σ) : Option Bookkeeping :=
  (view h.around.world.2).history? siteId

/-- The register knows the site of a round, and once the end of the round is recorded it holds what
was written back last. -/
structure IsOnRecord (view : σ → Register) (siteId : String) (h : Hearing σ) : Prop where
  site : h.round.registration.id = siteId
  quiet : h.round.ScrapesQuietly fun w => view w.2
  present : (h.stored? view siteId).isSome
  ended : h.round.phase = .reporting ∨ h.round.phase = .leaving →
    ∀ moment history, h.log.getLast? = some (.record moment siteId history (.ok true)) →
      h.stored? view siteId = some history

/-- What others do between two steps leaves it so, if they leave the bookkeeping alone. -/
theorem IsOnRecord.await (hrecord : h.IsOnRecord view siteId) {turn : Turn σ}
    (halone : (h.await turn).stored? view siteId = h.stored? view siteId) :
    (h.await turn).IsOnRecord view siteId where
  site := hrecord.site
  quiet := hrecord.quiet
  present := halone ▸ hrecord.present
  ended hphase moment history hlast := halone ▸ hrecord.ended hphase moment history hlast

/-- A step writes the bookkeeping of a site that is registered, or leaves the register alone. -/
theorem isSome_stored?_proceed (hstore : services.KeepsRegister view)
    (hrecord : h.IsOnRecord view siteId) (elapsed : Nat) :
    ((h.proceed services elapsed).stored? view siteId).isSome := by
  have hstep : (h.proceed services elapsed).stored? view siteId =
      (view (h.round.step services.logged elapsed h.around).2.world.2).history? siteId := rfl
  rw [hstep]
  cases hrecords : h.round.records services.logged h.around.world with
  | false =>
      rw [Round.view_step_of_not_records hstore.logged hrecord.quiet elapsed h.around hrecords]
      exact hrecord.present
  | true =>
      obtain ⟨history, -, hview⟩ :=
        Round.view_step_of_records hstore.logged elapsed h.around hrecords
      rw [hview, hrecord.site, Register.history?_record _ _ hrecord.present]
      rfl

/-- The step that records the end of a round writes down what stands in the register then. -/
theorem stored?_proceed_of_finishing (hstore : services.KeepsRegister view)
    (hrecord : h.IsOnRecord view siteId) (hphase : h.round.phase = .finishing) {elapsed : Nat}
    (hgoes : (h.proceed services elapsed).round.phase ≠ .lost) {moment : Instant}
    {history : Bookkeeping}
    (hlast : (h.proceed services elapsed).log.getLast? =
      some (.record moment siteId history (.ok true))) :
    (h.proceed services elapsed).stored? view siteId = some history := by
  simp only [proceed, Round.step, hphase, Round.finish] at hgoes hlast ⊢
  cases hlater : h.round.registration.markFinished? (services.logged.now h.around.world)
      h.round.succeeded with
  | none =>
      rw [hlater] at hgoes
      exact absurd rfl hgoes
  | some later =>
      have hid : later.id = siteId := (Round.markFinished?_totalRuns hlater).1.trans hrecord.site
      simp only [hlater, stored?, log, Round.recordIn_world, hid] at hlast ⊢
      simp only [ScheduleServices.logged, List.getLast?_concat, Option.some.injEq,
        Call.record.injEq] at hlast ⊢
      obtain ⟨-, -, rfl, htaken⟩ := hlast
      rw [hstore.record_taken siteId later.history h.around.world.2 htaken,
        Register.history?_record _ _ hrecord.present]

/-- Every step keeps a round on record. -/
theorem IsOnRecord.proceed (hstore : services.KeepsRegister view)
    (hrecord : h.IsOnRecord view siteId) (elapsed : Nat) :
    (h.proceed services elapsed).IsOnRecord view siteId where
  site := (Round.registration_step services.logged elapsed h.round h.around).1.trans hrecord.site
  quiet := hrecord.quiet.step hstore.logged.scrape elapsed h.around
  present := isSome_stored?_proceed hstore hrecord elapsed
  ended hends moment history hlast := by
    cases hphase : h.round.phase with
    | starting => simp [Hearing.proceed, Round.step, hphase, Round.start] at hends
    | choosing urls =>
        cases urls <;> simp [Hearing.proceed, Round.step, hphase, Round.choose] at hends
    | scraping url rest work =>
        simp only [Hearing.proceed, Round.step, hphase, Round.proceed] at hends
        split at hends <;> simp at hends
    | received url rest result =>
        simp [Hearing.proceed, Round.step, hphase, Round.receive] at hends
    | concluding =>
        simp only [Hearing.proceed, Round.step, hphase, Round.conclude] at hends
        split at hends <;> simp at hends
    | finishing =>
        exact stored?_proceed_of_finishing hstore hrecord hphase (by grind) hlast
    | reporting =>
        simp only [Hearing.proceed, Round.step, hphase, Round.report, stored?, log,
          Surroundings.tell] at hlast ⊢
        exact hrecord.ended (.inl hphase) moment history hlast
    | leaving =>
        simp only [Hearing.proceed, Round.step, hphase, stored?, log] at hlast ⊢
        exact hrecord.ended (.inr hphase) moment history hlast
    | lost => simp [Hearing.proceed, Round.step, hphase] at hends

/-- A round that is lost stays so. -/
theorem lost_after {turns : Nat → Turn σ} {n : Nat}
    (hlost : (h.after services turns n).round.phase = .lost) (later : Nat) :
    (h.after services turns (n + later)).round.phase = .lost := by
  induction later with
  | zero => exact hlost
  | succ later ih =>
      have hawaited : (h.awaited services turns (n + later)).round.phase = .lost := ih
      change ((h.awaited services turns (n + later)).proceed services _).round.phase = .lost
      simp only [Hearing.proceed, Round.step, hawaited]

/-- Where the end of a round cannot be recorded for want of a moment for the next one, the round is
lost. -/
theorem lost_of_finishing {registration : Registration} (hphase : h.round.phase = .finishing)
    (hstands : h.Stands services registration)
    (hdate : (services.now h.around.world.2).plusDays? registration.checkIntervalDays = none)
    (elapsed : Nat) : (h.proceed services elapsed).round.phase = .lost := by
  simp only [Stands, hphase] at hstands
  obtain ⟨p, hcompared⟩ := hstands
  have hfinished : h.round.registration.markFinished? (services.logged.now h.around.world)
      h.round.succeeded = none := by
    simp [hcompared.registration_eq, Registration.markFinished?, Registration.markStarted,
      Bookkeeping.finished?, hdate]
  simp only [Hearing.proceed, Round.step, hphase, Round.finish, hfinished]

/-- A round that gets to its end stands all along where its invariant says: there must have been a
moment for the next round, or it would have been lost. -/
theorem stands_of_leaving {turns : Nat → Turn σ} {n : Nat} {registration : Registration}
    (hstands : h.Stands services registration)
    (hleaving : (h.after services turns n).round.phase = .leaving) (k : Nat) (hk : k ≤ n) :
    (h.after services turns k).Stands services registration := by
  induction k with
  | zero => exact hstands
  | succ k ih =>
      have hbefore := ih (by omega)
      refine hbefore.turn (turns k) fun hfinishing => ?_
      rw [Option.isSome_iff_ne_none]
      intro hdate
      have hlost : (h.after services turns (k + 1)).round.phase = .lost :=
        lost_of_finishing hfinishing (hbefore.await (turns k)) hdate (turns k).elapsed
      obtain ⟨later, rfl⟩ := Nat.exists_eq_add_of_le hk
      rw [lost_after hlost later] at hleaving
      cases hleaving

end Hearing

/-! ## One round by itself -/

/-- One round of a site: the world and the registration with which it was launched, and what went on
around it at each of its steps. -/
structure Episode (σ : Type) where
  world : σ
  registration : Registration
  job : JobId
  launchedAt : Instant
  turns : Nat → Turn σ
  steps : Nat

namespace Episode

/-- The round after some of its steps. -/
def course (services : ScheduleServices σ) (e : Episode σ) (n : Nat) : Hearing σ :=
  (Hearing.opening ((Job.create e.job e.registration.id e.launchedAt).start e.launchedAt)
    e.registration e.world).after services e.turns n

/-- The round after the last of its steps. -/
def ending (services : ScheduleServices σ) (e : Episode σ) : Hearing σ := e.course services e.steps

/-- What the round has brought, if it has scraped any page. -/
def content? (services : ScheduleServices σ) (e : Episode σ) : Option Json :=
  Call.content? (Call.pages (e.ending services).log)

/-- The notices of new content that the round has sent. -/
def news (services : ScheduleServices σ) (e : Episode σ) : List Notice :=
  (e.ending services).log.filterMap Call.news?

/-- The latest content that some rounds have brought, if they have brought any. -/
def latest? (services : ScheduleServices σ) (episodes : List (Episode σ)) : Option Json :=
  (episodes.filterMap (content? services)).getLast?

/-- The round was launched from the registration of its site and has come to its end, all that it
has written back was taken, and nobody else has changed the bookkeeping of the site meanwhile. -/
structure IsComplete (services : ScheduleServices σ) (view : σ → Register) (siteId : String)
    (e : Episode σ) : Prop where
  launched : (view e.world).get? siteId = some e.registration
  alone : ∀ n < e.steps, ((e.course services n).await (e.turns n)).stored? view siteId =
    (e.course services n).stored? view siteId
  ended : (e.ending services).round.phase = .leaving
  written : ∀ outcome ∈ (e.ending services).log.filterMap Call.written?, outcome = .ok true

variable {services : ScheduleServices σ} {view : σ → Register} {siteId : String} {e : Episode σ}

theorem IsComplete.id_eq (he : e.IsComplete services view siteId) : e.registration.id = siteId := by
  simpa using List.find?_some he.launched

/-- A complete round has proceedings. -/
theorem IsComplete.exists_ended (he : e.IsComplete services view siteId) :
    ∃ p, (e.ending services).HasEnded e.registration p := by
  have hstands := Hearing.stands_of_leaving
    (Hearing.stands_opening services e.registration e.job e.launchedAt e.world) he.ended e.steps
    (Nat.le_refl _)
  have hphase := he.ended
  simp only [ending, course] at hphase
  simp only [Hearing.Stands, hphase] at hstands
  exact hstands

/-- All along, a complete round is on record. -/
theorem IsComplete.isOnRecord (hstore : services.KeepsRegister view)
    (he : e.IsComplete services view siteId) (n : Nat) (hn : n ≤ e.steps) :
    (e.course services n).IsOnRecord view siteId := by
  induction n with
  | zero =>
      refine ⟨he.id_eq, ?_, ?_, ?_⟩
      · intro url rest work hphase
        simp [course, Hearing.after, Hearing.opening, Round.launch] at hphase
      · simp [course, Hearing.after, Hearing.opening, Hearing.stored?, Register.history?,
          he.launched]
      · simp [course, Hearing.after, Hearing.opening, Round.launch]
  | succ n ih => exact ((ih (by omega)).await (he.alone n (by omega))).proceed hstore _

/-- The register holds the bookkeeping of the end of a complete round. -/
theorem IsComplete.stored?_eq (hstore : services.KeepsRegister view)
    (he : e.IsComplete services view siteId) {p : Proceedings}
    (hended : (e.ending services).HasEnded e.registration p) :
    (e.ending services).stored? view siteId = some (p.bookkeeping e.registration.history) := by
  have hlast : (e.ending services).log.getLast? = some (.record p.endedAt e.registration.id
      (p.bookkeeping e.registration.history) p.endWritten) := by
    rw [hended.log, Proceedings.calls, List.getLast?_concat]
  have hwritten : p.endWritten = .ok true :=
    he.written _ (List.mem_filterMap.mpr ⟨_, List.mem_of_getLast? hlast, rfl⟩)
  rw [hwritten, he.id_eq] at hlast
  exact (he.isOnRecord hstore e.steps (Nat.le_refl _)).ended (.inr he.ended) _ _ hlast

/-- The digest of a complete round is that of its content. -/
theorem hash?_eq_of_hasEnded {p : Proceedings} (hended : (e.ending services).HasEnded e.registration p) :
    PageVisit.hash? p.visits = (e.content? services).map Json.digest := by
  rw [p.hash?_eq e.registration, ← hended.log]
  rfl

/-- The proceedings of a complete round are what its log shows, and the register holds the
bookkeeping of its end. -/
theorem IsComplete.exists_proceedings (hstore : services.KeepsRegister view)
    (he : e.IsComplete services view siteId) :
    ∃ p : Proceedings, (e.ending services).round.job.results = some (p.summary e.registration) ∧
      PageVisit.hash? p.visits = (e.content? services).map Json.digest ∧
      e.news services = (p.announcement? e.registration).toList ∧
      (e.ending services).stored? view siteId = some (p.bookkeeping e.registration.history) := by
  obtain ⟨p, hended⟩ := he.exists_ended
  refine ⟨p, hended.results, hash?_eq_of_hasEnded hended, ?_, he.stored?_eq hstore hended⟩
  rw [news, hended.log, p.filterMap_news?_calls]

/-! ## One round after another -/

/-- Whether a round brings content, and other content than the latest before it. -/
def BringsNews (services : ScheduleServices σ) (earlier : List (Episode σ)) (e : Episode σ) : Prop :=
  ∃ content, e.content? services = some content ∧
    ∀ previous ∈ latest? services earlier, ¬ Json.Alike content previous

/-- Complete rounds of one site, each of which begins with the bookkeeping that the one before has
left, and the first of them with no content on record. No page brings a number that is not an
integer, and no two contents that differ have one digest. -/
structure IsHistory (services : ScheduleServices σ) (view : σ → Register) (siteId : String)
    (episodes : List (Episode σ)) : Prop where
  complete : ∀ e ∈ episodes, e.IsComplete services view siteId
  follows : episodes.IsChain fun e next =>
    (view next.world).history? siteId = (e.ending services).stored? view siteId
  fresh : ∀ e ∈ episodes.head?, e.registration.history.lastContentHash = none
  holdsNoFloat : ∀ e ∈ episodes, ∀ page ∈ Call.pages (e.ending services).log,
    page.2.success = true → Json.HoldsNoFloat (.object page.2.data)
  digests : ∀ e ∈ episodes, ∀ other ∈ episodes, ∀ content ∈ e.content? services,
    ∀ others ∈ other.content? services,
      Sha256.ofText content.canonical = Sha256.ofText others.canonical →
        content.canonical = others.canonical

/-- What a round of a site makes of its content, after some earlier ones. -/
structure TellsNews (services : ScheduleServices σ) (view : σ → Register) (siteId : String)
    (earlier : List (Episode σ)) (e : Episode σ) : Prop where
  reported : ∃ summary, (e.ending services).round.job.results = some summary ∧
    (summary.newContentFound = true ↔ e.BringsNews services earlier)
  announced : e.BringsNews services earlier → e.registration.notifications.onNewContent = true →
    (e.news services).length = 1
  silent : ¬ (e.BringsNews services earlier ∧ e.registration.notifications.onNewContent = true) →
    e.news services = []
  remembered : ∃ history, (e.ending services).stored? view siteId = some history ∧
    history.lastContentHash = (latest? services (earlier ++ [e])).map Json.digest

theorem latest?_concat (services : ScheduleServices σ) (earlier : List (Episode σ))
    (e : Episode σ) :
    latest? services (earlier ++ [e]) = (e.content? services).or (latest? services earlier) := by
  simp only [latest?, List.filterMap_append, List.getLast?_append]
  cases hcontent : e.content? services <;> simp [hcontent]

/-- The latest content was brought by one of the rounds. -/
theorem exists_of_mem_latest? {episodes : List (Episode σ)} {content : Json}
    (hlatest : content ∈ latest? services episodes) :
    ∃ e ∈ episodes, content ∈ e.content? services :=
  List.mem_filterMap.mp (List.mem_of_getLast? hlatest)

/-- A complete round remembers its content, or else what was remembered before. -/
theorem IsComplete.exists_stored? (hstore : services.KeepsRegister view)
    (he : e.IsComplete services view siteId) :
    ∃ history, (e.ending services).stored? view siteId = some history ∧
      history.lastContentHash =
        ((e.content? services).map Json.digest).or e.registration.history.lastContentHash := by
  obtain ⟨p, -, hhash, -, hstored⟩ := he.exists_proceedings hstore
  exact ⟨_, hstored, by rw [Proceedings.bookkeeping, hhash]⟩

variable {episodes earlier later : List (Episode σ)}

/-- Each round of a history finds the digest of the latest content before it. -/
theorem IsHistory.lastContentHash_eq (hstore : services.KeepsRegister view)
    (hhistory : IsHistory services view siteId episodes)
    (hsplit : episodes = earlier ++ e :: later) :
    e.registration.history.lastContentHash = (latest? services earlier).map Json.digest := by
  induction earlier using List.reverseRecOn generalizing e later with
  | nil =>
      subst hsplit
      exact hhistory.fresh e rfl
  | append_singleton before previous ih =>
      rw [List.append_assoc, List.singleton_append] at hsplit
      have hprevious := hhistory.complete previous (hsplit ▸ by simp)
      have he := hhistory.complete e (hsplit ▸ by simp)
      obtain ⟨history, hstored, hremembered⟩ := hprevious.exists_stored? hstore
      have hlink : (view e.world).history? siteId = some history := by
        have hchain := hhistory.follows
        rw [hsplit, List.isChain_append_cons_cons] at hchain
        exact hchain.2.1.trans hstored
      have hsame : e.registration.history = history := by
        simpa [Register.history?, he.launched] using hlink
      rw [hsame, hremembered, ih hsplit, latest?_concat]
      cases previous.content? services <;> rfl

/-- Contents of a history have one digest exactly if they are alike. -/
theorem IsHistory.digest_eq_iff (hhistory : IsHistory services view siteId episodes)
    {other : Episode σ} (he : e ∈ episodes) (hother : other ∈ episodes) {content others : Json}
    (hcontent : content ∈ e.content? services) (hothers : others ∈ other.content? services) :
    content.digest = others.digest ↔ Json.Alike content others := by
  have hfirst := Call.holdsNoFloat_of_content? (hhistory.holdsNoFloat e he) hcontent
  have hsecond := Call.holdsNoFloat_of_content? (hhistory.holdsNoFloat other hother) hothers
  rw [← Json.canonical_eq_iff_alike hfirst hsecond]
  constructor
  · exact hhistory.digests e he other hother content hcontent others hothers
  · intro hcanonical
    rw [Json.digest, Json.digest, hcanonical]

/-- Comparing digests a round finds out whether it brings news. -/
theorem IsHistory.isNews_iff (hstore : services.KeepsRegister view)
    (hhistory : IsHistory services view siteId episodes)
    (hsplit : episodes = earlier ++ e :: later) {p : Proceedings}
    (hhash : PageVisit.hash? p.visits = (e.content? services).map Json.digest) :
    p.isNews e.registration = true ↔ e.BringsNews services earlier := by
  rw [Proceedings.isNews, hhash, hhistory.lastContentHash_eq hstore hsplit, BringsNews]
  cases hcontent : e.content? services with
  | none => simp
  | some content =>
      cases hlatest : latest? services earlier with
      | none => simp
      | some previous =>
          obtain ⟨other, hother, hprevious⟩ := exists_of_mem_latest? hlatest
          have hdigest : content.digest = previous.digest ↔ Json.Alike content previous :=
            hhistory.digest_eq_iff (hsplit ▸ by simp) (hsplit ▸ List.mem_append_left _ hother)
              hcontent hprevious
          simpa using not_congr (eq_comm.trans hdigest)

/-- Along a history of rounds of one site a round reports new content exactly if it has brought any,
and other content than the latest round before it that has brought any; it sends one notice then, if
that is wanted, and none otherwise; and the register remembers the digest of the latest content
there was. -/
theorem IsHistory.tellsNews (hstore : services.KeepsRegister view)
    (hhistory : IsHistory services view siteId episodes)
    (hsplit : episodes = earlier ++ e :: later) : e.TellsNews services view siteId earlier := by
  obtain ⟨p, hresults, hhash, hnotices, -⟩ :=
    (hhistory.complete e (hsplit ▸ by simp)).exists_proceedings hstore
  have hnews := hhistory.isNews_iff hstore hsplit hhash
  have hlength : (e.news services).length =
      if p.isNews e.registration && e.registration.notifications.onNewContent then 1 else 0 := by
    rw [hnotices, p.length_announcement?]
  refine ⟨⟨_, hresults, hnews⟩, fun hbrings hwanted => ?_, fun hnot => ?_, ?_⟩
  · rw [hlength, hnews.mpr hbrings, hwanted]
    rfl
  · rw [← List.length_eq_zero_iff, hlength, if_neg]
    rwa [Bool.and_eq_true, hnews]
  · obtain ⟨history, hstored, hremembered⟩ :=
      (hhistory.complete e (hsplit ▸ by simp)).exists_stored? hstore
    refine ⟨history, hstored, ?_⟩
    rw [hremembered, hhistory.lastContentHash_eq hstore hsplit, latest?_concat]
    cases e.content? services <;> rfl

end Episode

/-! ## A site that comes and goes -/

namespace Rehearsal.Backstage

/-- A round of a site of two pages, some of which cannot be scraped. -/
def visit (failing : List String) (b : Backstage) : Episode Backstage where
  world := { b with failing }
  registration := (b.register.get? "events").getD default
  job := ⟨0⟩
  launchedAt := ⟨0, 0⟩
  turns _ := {}
  steps := 11

/-- What a round leaves behind. -/
def afterVisit (e : Episode Backstage) : Backstage := (e.ending ordinary).around.world.2

/-- Two pages, nothing on record. -/
def twoPages : Backstage where
  register := [{
    site := { id := "events", domain := "example.com" }
    targetUrls := ["http://a", "http://b"] }]
  scraping := { world := {} }

def firstVisit : Episode Backstage := visit [] twoPages
def secondVisit : Episode Backstage := visit ["http://b"] (afterVisit firstVisit)

/-- Two pages, then one. -/
def visits : List (Episode Backstage) := [firstVisit, secondVisit]

/-- Of a rehearsed page only its title is scraped. -/
theorem holdsNoFloat_of_titles {pages : List (String × ScrapeResult)}
    (htitles : (pages.all fun page => page.2.data.all fun member =>
      member.2 matches .string _) = true) :
    ∀ page ∈ pages, page.2.success = true → Json.HoldsNoFloat (.object page.2.data) := by
  intro page hpage _
  refine .object fun member hmember => ?_
  have htext := List.all_eq_true.mp (List.all_eq_true.mp htitles page hpage) member hmember
  split at htext
  · rename_i text hvalue
    exact hvalue ▸ .string text
  · cases htext

theorem isHistory_visits : Episode.IsHistory ordinary Backstage.register "events" visits := by
  have hchecked : ∀ e ∈ visits, e.world.register.get? "events" = some e.registration ∧
      (e.ending ordinary).round.stepsLeft = 1 ∧
      (∀ outcome ∈ (e.ending ordinary).log.filterMap Call.written?, outcome = .ok true) ∧
      ((Call.pages (e.ending ordinary).log).all fun page => page.2.data.all fun member =>
        member.2 matches .string _) = true := by
    decide +kernel
  refine ⟨fun e he => ?_, ?_, by decide +kernel, fun e he => ?_, by decide +kernel⟩
  · obtain ⟨hlaunched, hsteps, hwritten, -⟩ := hchecked e he
    refine ⟨hlaunched, ?_, Hearing.leaving_of_stepsLeft hsteps, hwritten⟩
    simp only [visits, List.mem_cons, List.not_mem_nil, or_false] at he
    rcases he with rfl | rfl <;> exact fun n _ => rfl
  · simp only [visits, List.isChain_cons_cons]
    exact ⟨rfl, .singleton _⟩
  · obtain ⟨-, -, -, htitles⟩ := hchecked e he
    exact holdsNoFloat_of_titles htitles

/-- The second of two rounds finds one page fewer than the first. -/
theorem tellsNews_of_visits :
    Episode.IsHistory ordinary Backstage.register "events" visits ∧
      secondVisit.TellsNews ordinary Backstage.register "events" [firstVisit] :=
  ⟨isHistory_visits, isHistory_visits.tellsNews (keepsRegister {} ⟨0, 0⟩) rfl⟩

end Rehearsal.Backstage

end SiteWatch
