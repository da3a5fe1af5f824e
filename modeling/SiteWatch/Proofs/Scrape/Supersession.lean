/-
# The last success for an address

A success that is newer than what is kept for its address takes its place, if it has a life at all.
One without a life leaves the older one where it is, and later requests are still answered by it. So
the last success has the last word exactly where, from it on, some success for the address was kept.
-/

import SiteWatch.Proofs.Scrape.Transparency

namespace SiteWatch

variable {σ F : Type} {ttlMs : Nat}

/-! ## Reuses and where they come from -/

namespace Answer

/-- Whether an answer is a success and no reuse of another one. -/
def isNew (answer : Answer) : Bool :=
  answer.result.success && !answer.result.metadata.cacheUsed

/-- An answer is a reuse of what some dealings have left on record for its address, which lives. -/
def ShowsFrom (ttlMs : Nat) (log : List Dealing) (served : Answer) : Prop :=
  ∃ origin, OnRecord ttlMs log origin ∧ origin.request.url = served.request.url ∧
    served.moment < origin.diesAt ttlMs ∧ served.result = ScrapeService.reused origin.result

theorem isKept_iff {answer : Answer} :
    answer.isKept ttlMs = true ↔ answer.isNew = true ∧ answer.lifeMs ttlMs ≠ 0 := by
  rw [isKept, ← isNew, Bool.and_eq_true, bne_iff_ne]

end Answer

/-- What two stretches of dealings leave on record is what the second does, and what it has not
displaced of what the first does. -/
theorem onRecord_append {before after : List Dealing} {answer : Answer} :
    OnRecord ttlMs (before ++ after) answer ↔ OnRecord ttlMs after answer ∨
      OnRecord ttlMs before answer ∧
        ∀ dealing ∈ after, dealing.displaces ttlMs answer.request.url = false := by
  constructor
  · rintro ⟨hkept, earlier, later, hsplit, hlasts⟩
    rcases List.append_eq_append_iff.mp hsplit with ⟨middle, rfl, hafter⟩ | ⟨middle, rfl, hlater⟩
    · exact .inl ⟨hkept, middle, later, hafter, hlasts⟩
    · cases middle with
      | nil => exact .inl ⟨hkept, [], later, hlater.symm, hlasts⟩
      | cons first middle =>
          obtain ⟨rfl, rfl⟩ := List.cons_eq_cons.mp hlater
          have hmiddle : ∀ dealing ∈ middle,
              dealing.displaces ttlMs answer.request.url = false :=
            fun dealing hdealing => hlasts dealing (List.mem_append_left _ hdealing)
          exact .inr ⟨⟨hkept, earlier, middle, rfl, hmiddle⟩,
            fun dealing hdealing => hlasts dealing (List.mem_append_right _ hdealing)⟩
  · rintro (⟨hkept, earlier, later, rfl, hlasts⟩ | ⟨⟨hkept, earlier, later, rfl, hlasts⟩, hafter⟩)
    · exact ⟨hkept, before ++ earlier, later, (List.append_assoc ..).symm, hlasts⟩
    · refine ⟨hkept, earlier, later ++ after, by simp, fun dealing hdealing => ?_⟩
      rcases List.mem_append.mp hdealing with hlater | hlast
      · exact hlasts dealing hlater
      · exact hafter dealing hlast

/-! ## A success and a later reuse -/

/-- Among some dealings there is a success, and later a reuse for the same address. -/
structure ServedAfter (log before : List Dealing) (written : Answer) (between : List Dealing)
    (served : Answer) : Prop where
  split : ∃ after, log =
    before ++ .answered written :: between ++ .answered served :: after
  isNew : written.isNew = true
  cacheUsed : served.result.metadata.cacheUsed = true
  url_eq : served.request.url = written.request.url

/-- No reuse shows what was there before the last success for its address. -/
def LastWriterWins (ttlMs : Nat) (log : List Dealing) : Prop :=
  ∀ before written between served, ServedAfter log before written between served →
    served.ShowsFrom ttlMs (.answered written :: between)

/-- From a success on, some success for its address was kept: it or a later one. -/
def RenewedFrom (ttlMs : Nat) (written : Answer) (between : List Dealing) : Prop :=
  ∃ kept, .answered kept ∈ .answered written :: between ∧
    kept.request.url = written.request.url ∧ kept.isKept ttlMs = true

namespace ServedAfter

variable {log before between : List Dealing} {written served : Answer}

/-- A reuse that shows what was on record before a success and what came later shows the one or the
other: the latter where the success or a later one was kept, and the former elsewhere. -/
theorem showsFrom_cases (hserved : ServedAfter log before written between served)
    (hshows : served.ShowsFrom ttlMs (before ++ .answered written :: between)) :
    (RenewedFrom ttlMs written between ∧
      served.ShowsFrom ttlMs (.answered written :: between)) ∨
    (¬ RenewedFrom ttlMs written between ∧ served.ShowsFrom ttlMs before) := by
  obtain ⟨origin, honRecord, hurl, hrest⟩ := hshows
  rcases onRecord_append.mp honRecord with hlater | ⟨hearlier, hlasts⟩
  · exact .inl ⟨⟨origin, hlater.mem, hurl.trans hserved.url_eq, hlater.isKept⟩,
      origin, hlater, hurl, hrest⟩
  · refine .inr ⟨?_, origin, hearlier, hurl, hrest⟩
    rintro ⟨kept, hkept, hsame, hisKept⟩
    have hdisplaces : (Dealing.answered kept).displaces ttlMs origin.request.url = true := by
      simp [Dealing.displaces, hisKept, hsame, hurl, hserved.url_eq]
    cases (hlasts _ hkept).symm.trans hdisplaces

/-- What a stretch of dealings leaves on record for an address was kept there. -/
theorem renewedFrom_of_showsFrom (hserved : ServedAfter log before written between served)
    (hshows : served.ShowsFrom ttlMs (.answered written :: between)) :
    RenewedFrom ttlMs written between := by
  obtain ⟨origin, honRecord, hurl, -⟩ := hshows
  exact ⟨origin, honRecord.mem, hurl.trans hserved.url_eq, honRecord.isKept⟩

end ServedAfter

/-! ## Services in use -/

/-- A dealing in a list with one more at the end is that one, or was in the list before. -/
theorem concat_eq_append_cons {log before after : List Dealing} {last dealing : Dealing}
    (hsplit : log ++ [last] = before ++ dealing :: after) :
    (log = before ∧ last = dealing) ∨ ∃ earlier, log = before ++ dealing :: earlier := by
  rcases List.eq_nil_or_concat after with rfl | ⟨earlier, other, rfl⟩
  · obtain ⟨hbefore, hlast⟩ := List.append_inj' hsplit rfl
    exact .inl ⟨hbefore, List.singleton_inj.mp hlast⟩
  · rw [List.concat_eq_append, ← List.cons_append, ← List.append_assoc] at hsplit
    exact .inr ⟨earlier, (List.append_inj' hsplit rfl).1⟩

namespace ScrapeService

/-- The answers to requests in a row, when nothing else goes on. -/
def answers? (service : ScrapeService σ F) : List ScrapeRequest → Nat → Scraping σ →
    Option (List Answer × Scraping σ)
  | [], _, s => some ([], s)
  | request :: rest, clock, s =>
    ((service.scrape request).run none clock s).bind fun (result, later, t) =>
    (service.answers? rest later t).bind fun (answers, u) =>
      some ({ request, result, moment := service.uptimeMs t.world } :: answers, u)

/-- Every request gets one answer. -/
theorem map_request_answers? {service : ScrapeService σ F} {requests : List ScrapeRequest}
    {answers : List Answer} {clock : Nat} {s t : Scraping σ}
    (hanswers : service.answers? requests clock s = some (answers, t)) :
    answers.map Answer.request = requests := by
  induction requests generalizing clock s answers with
  | nil =>
      cases hanswers
      rfl
  | cons request rest ih =>
      obtain ⟨⟨result, later, u⟩, -, hrest⟩ := Option.bind_eq_some_iff.mp hanswers
      obtain ⟨⟨others, v⟩, hothers, hsame⟩ := Option.bind_eq_some_iff.mp hrest
      cases hsame
      exact congrArg (request :: ·) (ih hothers)

end ScrapeService

namespace HasDealt

variable {service : ScrapeService σ F} {log : List Dealing} {s : Scraping σ}

-- Of scrapes, only what they can end with is used.
attribute [local irreducible] ScrapeService.scrape ScrapeService.scrapeAnew

/-- Every reuse shows what was on record when it was given. -/
theorem showsFrom (hdealt : HasDealt service ttlMs log s) {before after : List Dealing}
    {served : Answer} (hsplit : log = before ++ .answered served :: after)
    (hused : served.result.metadata.cacheUsed = true) : served.ShowsFrom ttlMs before := by
  induction hdealt generalizing after with
  | opened world => simp at hsplit
  | idled hdealt world ih => exact ih hsplit
  | invalidated hdealt url ih =>
      rcases concat_eq_append_cons hsplit with ⟨-, hlast⟩ | ⟨earlier, hearlier⟩
      · cases hlast
      · exact ih hearlier
  | cleared hdealt ih =>
      rcases concat_eq_append_cons hsplit with ⟨-, hlast⟩ | ⟨earlier, hearlier⟩
      · cases hlast
      · exact ih hearlier
  | @answered log s t hdealt request result hends ih =>
      rcases concat_eq_append_cons hsplit with ⟨rfl, hlast⟩ | ⟨earlier, hearlier⟩
      · cases hlast
        rcases service.canEnd_scrape request hends with ⟨kept, -, hliving, rfl, rfl⟩ | hcarried
        · obtain ⟨origin, honRecord, hurl, rfl, hlives⟩ :=
            hdealt.holds.onRecord_of_living? hliving
          exact ⟨origin, honRecord, hurl, hlives, rfl⟩
        · cases (service.scrapeAnew_cases request hcarried).1.symm.trans hused
      · exact ih hearlier

/-- To answer requests in a row is to deal with them one after another. -/
theorem answers {requests : List ScrapeRequest} {answers : List Answer} {clock : Nat}
    {t : Scraping σ} (hdealt : HasDealt service ttlMs log s)
    (hanswers : service.answers? requests clock s = some (answers, t)) :
    HasDealt service ttlMs (log ++ answers.map .answered) t := by
  induction requests generalizing log clock s answers with
  | nil =>
      cases hanswers
      simpa using hdealt
  | cons request rest ih =>
      obtain ⟨⟨result, later, u⟩, hfirst, hrest⟩ := Option.bind_eq_some_iff.mp hanswers
      obtain ⟨⟨others, v⟩, hothers, hsame⟩ := Option.bind_eq_some_iff.mp hrest
      cases hsame
      have hlater := ih (hdealt.answered (Scraping.canEnd_of_run hfirst)) hothers
      simpa using hlater

/-- Whether the last success for an address has the last word. It has exactly where, from it on,
some success for the address was kept, so at all times if every success has a life. Elsewhere every
reuse that comes later shows what was there before. -/
theorem lastWriterWins_iff (hdealt : HasDealt service ttlMs log s) :
    (LastWriterWins ttlMs log ↔ ∀ before written between served,
      ServedAfter log before written between served → RenewedFrom ttlMs written between) ∧
    (∀ before written between served, ServedAfter log before written between served →
      ¬ RenewedFrom ttlMs written between → served.ShowsFrom ttlMs before) ∧
    ((∀ written, .answered written ∈ log → written.isNew = true → written.lifeMs ttlMs ≠ 0) →
      LastWriterWins ttlMs log) := by
  have hcases {before between : List Dealing} {written served : Answer}
      (hserved : ServedAfter log before written between served) :
      (RenewedFrom ttlMs written between ∧
        served.ShowsFrom ttlMs (.answered written :: between)) ∨
      (¬ RenewedFrom ttlMs written between ∧ served.ShowsFrom ttlMs before) := by
    obtain ⟨after, hsplit⟩ := hserved.split
    exact hserved.showsFrom_cases (hdealt.showsFrom hsplit hserved.cacheUsed)
  have hwins (hrenewed : ∀ before written between served,
      ServedAfter log before written between served → RenewedFrom ttlMs written between) :
      LastWriterWins ttlMs log := by
    intro before written between served hserved
    rcases hcases hserved with ⟨-, hshows⟩ | ⟨hstale, -⟩
    · exact hshows
    · exact absurd (hrenewed _ _ _ _ hserved) hstale
  refine ⟨⟨fun hlast before written between served hserved => ?_, hwins⟩, ?_, fun hlives => ?_⟩
  · exact hserved.renewedFrom_of_showsFrom (hlast _ _ _ _ hserved)
  · intro before written between served hserved hstale
    rcases hcases hserved with ⟨hrenewed, -⟩ | ⟨-, hshows⟩
    · exact absurd hrenewed hstale
    · exact hshows
  · refine hwins fun before written between served hserved => ?_
    have hwritten : .answered written ∈ log := by
      obtain ⟨after, rfl⟩ := hserved.split
      simp
    have hkept : written.isKept ttlMs = true :=
      Answer.isKept_iff.mpr ⟨hserved.isNew, hlives written hwritten hserved.isNew⟩
    exact ⟨written, List.mem_cons_self, rfl, hkept⟩

/-! The page with a title and a subtitle is asked for its title, then for its subtitle with kept
results ruled out, and then for its subtitle again. -/

/-- Three requests in a row. The second says how long its result is to live. -/
def titledPage.threeRequests (cacheTtlSecs : Option Nat) : List ScrapeRequest :=
  [request "title" "h1",
    { request "subtitle" "h2" with options := { useCache := false, cacheTtlSecs } },
    request "subtitle" "h2"]

/-- The three requests are answered, the last one by a reuse, after a new success in between. -/
theorem exists_threeAnswers (cacheTtlSecs : Option Nat) (names : List String)
    (hruns : (titledPage.answers? (titledPage.threeRequests cacheTtlSecs) 0
      { cache := { ttlMs := defaultTtlMs }, world := {} }).any (fun ended =>
        match ended.1 with
        | [_, written, served] =>
          written.isNew && served.result.metadata.cacheUsed &&
            served.result.data.map Prod.fst == names
        | _ => false) = true) :
    ∃ (first written served : Answer) (s : Scraping Rehearsal.Stage),
      [first, written, served].map Answer.request = titledPage.threeRequests cacheTtlSecs ∧
      HasDealt titledPage defaultTtlMs ([first, written, served].map .answered) s ∧
      ServedAfter ([first, written, served].map .answered) [.answered first] written [] served ∧
      served.result.data.map Prod.fst = names := by
  obtain ⟨⟨answers, s⟩, hanswers, hchecks⟩ := (Option.any_eq_true _ _).mp hruns
  have hdealt : HasDealt titledPage defaultTtlMs (answers.map .answered) s :=
    (HasDealt.opened _).answers hanswers
  have hrequests := ScrapeService.map_request_answers? hanswers
  split at hchecks
  · rename_i first written served hsplit
    cases hsplit
    simp only [Bool.and_eq_true, beq_iff_eq] at hchecks
    obtain ⟨⟨hnew, hused⟩, hnames⟩ := hchecks
    have hurls : served.request.url = written.request.url := by
      simp only [List.map_cons, titledPage.threeRequests, List.cons.injEq] at hrequests
      rw [hrequests.2.1, hrequests.2.2.1]
    exact ⟨first, written, served, s, hrequests, hdealt, ⟨⟨[], rfl⟩, hnew, hused, hurls⟩, hnames⟩
  · cases hchecks

/-- With some life for what the second request brings, the third one is answered by that. -/
theorem lastWriterWins_of_titledPage : ∃ log s before written between served,
    HasDealt titledPage defaultTtlMs log s ∧
      ServedAfter log before written between served ∧
      served.result.data.map Prod.fst = ["subtitle"] ∧ LastWriterWins defaultTtlMs log := by
  obtain ⟨first, written, served, s, hrequests, hdealt, hserved, hnames⟩ :=
    exists_threeAnswers (some 60) ["subtitle"] (by decide +kernel)
  refine ⟨_, s, _, written, [], served, hdealt, hserved, hnames,
    (lastWriterWins_iff hdealt).2.2 fun answer hanswer _ => ?_⟩
  have hrequest : answer.request ∈ titledPage.threeRequests (some 60) := by
    rw [← hrequests]
    simp only [List.mem_map, Dealing.answered.injEq, exists_eq_right] at hanswer
    exact List.mem_map_of_mem hanswer
  have hlives : ∀ request ∈ titledPage.threeRequests (some 60),
      min (request.options.cacheTtlMs.getD defaultTtlMs) Cache.maxTtlMs ≠ 0 := by
    decide
  exact hlives _ hrequest

/-- With no life for what the second request brings, the third one is answered by what the first
one brought. -/
theorem exists_not_lastWriterWins : ∃ log s before written between served,
    HasDealt titledPage defaultTtlMs log s ∧
      ServedAfter log before written between served ∧
      served.result.data.map Prod.fst = ["title"] ∧ ¬ LastWriterWins defaultTtlMs log := by
  obtain ⟨first, written, served, s, hrequests, hdealt, hserved, hnames⟩ :=
    exists_threeAnswers (some 0) ["title"] (by decide +kernel)
  refine ⟨_, s, _, written, [], served, hdealt, hserved, hnames, fun hlast => ?_⟩
  have hlife : written.lifeMs defaultTtlMs = 0 := by
    simp only [List.map_cons, titledPage.threeRequests, List.cons.injEq] at hrequests
    rw [Answer.lifeMs, hrequests.2.1]
    rfl
  obtain ⟨kept, hkept, -, hisKept⟩ := hserved.renewedFrom_of_showsFrom (hlast _ _ _ _ hserved)
  cases List.mem_singleton.mp hkept
  exact (Answer.isKept_iff.mp hisKept).2 hlife

end HasDealt

end SiteWatch
