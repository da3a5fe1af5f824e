/-
# Kept results and their record

A service that answers one request after another, forgets results when it is told to, and lets time
pass in between. Its dealings so far are a list, and what is on record for an address can be read
off that list alone: the last success that was no reuse and had a life, unless something later
forgot it. The cache is never more than that record, and where there was room for everything and the
clock has not gone back it lacks only what has died. So an answer is a reuse of what is on record,
and what is on record and lives is reused.
-/

import Mathlib.Data.List.Nodup
import SiteWatch.Proofs.Scrape.Stages
import SiteWatch.Proofs.Tables
import SiteWatch.Rehearsal.Service

namespace SiteWatch

variable {σ F : Type}

/-! ## Dealings and what is on record -/

/-- An answer to a request. -/
structure Answer where
  request : ScrapeRequest
  result : ScrapeResult
  /-- The uptime of the service when the answer was given, in milliseconds. -/
  moment : Nat

namespace Answer

/-- How long the result lives, where a service has a life of its own for results. -/
def lifeMs (ttlMs : Nat) (answer : Answer) : Nat :=
  min (answer.request.options.cacheTtlMs.getD ttlMs) Cache.maxTtlMs

/-- The first moment at which the result is dead. -/
def diesAt (ttlMs : Nat) (answer : Answer) : Nat := answer.moment + answer.lifeMs ttlMs

/-- Whether an answer is a success, no reuse of another one, and has a life. -/
def isKept (ttlMs : Nat) (answer : Answer) : Bool :=
  answer.result.success && !answer.result.metadata.cacheUsed && answer.lifeMs ttlMs != 0

/-- The answer as it is held for its address. -/
def entry (ttlMs : Nat) (answer : Answer) : String × CacheEntry :=
  (answer.request.url, ⟨answer.result, answer.diesAt ttlMs⟩)

end Answer

/-- Something that concerns the kept results of a service. -/
inductive Dealing where
  | answered (answer : Answer)
  | invalidated (url : String)
  | cleared

namespace Dealing

/-- Whether a dealing ends what was on record for an address. -/
def displaces (ttlMs : Nat) (url : String) : Dealing → Bool
  | answered answer => answer.request.url == url && answer.isKept ttlMs
  | invalidated other => other == url
  | cleared => true

/-- The answer that a dealing puts on record. -/
def kept? (ttlMs : Nat) : Dealing → Option Answer
  | answered answer => if answer.isKept ttlMs then some answer else none
  | invalidated _ | cleared => none

/-- Whether a request was answered by a kept result. -/
def isReuse : Dealing → Bool
  | answered answer => answer.result.metadata.cacheUsed
  | invalidated _ | cleared => false

/-- Whether a request was answered that allows kept results. -/
def looksUp : Dealing → Bool
  | answered answer => answer.request.options.useCache
  | invalidated _ | cleared => false

end Dealing

/-- An answer is on record for its address: it was kept, and nothing later has displaced it. -/
structure OnRecord (ttlMs : Nat) (log : List Dealing) (answer : Answer) : Prop where
  isKept : answer.isKept ttlMs = true
  lasts : ∃ before after, log = before ++ .answered answer :: after ∧
    ∀ dealing ∈ after, dealing.displaces ttlMs answer.request.url = false

namespace Dealing

/-- The record after one more dealing. -/
def enter (ttlMs : Nat) (record : List Answer) (dealing : Dealing) : List Answer :=
  (dealing.kept? ttlMs).toList ++ record.filter (!dealing.displaces ttlMs ·.request.url)

/-- All answers that are on record. -/
def record (ttlMs : Nat) (log : List Dealing) : List Answer := log.foldl (enter ttlMs) []

/-- Never more answers were on record than a cache holds. -/
def HasRoom (ttlMs : Nat) (log : List Dealing) : Prop :=
  ∀ before, before <+: log → (record ttlMs before).length ≤ Cache.capacity

variable {ttlMs : Nat} {log : List Dealing}

theorem record_concat (log : List Dealing) (dealing : Dealing) :
    record ttlMs (log ++ [dealing]) = enter ttlMs (record ttlMs log) dealing :=
  List.foldl_concat ..

theorem kept?_eq_some {dealing : Dealing} {answer : Answer} :
    dealing.kept? ttlMs = some answer ↔
      dealing = .answered answer ∧ answer.isKept ttlMs = true := by
  cases dealing with
  | answered other =>
      simp only [kept?, Option.ite_none_right_eq_some, Option.some.injEq,
        answered.injEq]
      constructor
      · rintro ⟨hkept, rfl⟩
        exact ⟨rfl, hkept⟩
      · rintro ⟨rfl, hkept⟩
        exact ⟨hkept, rfl⟩
  | invalidated url | cleared => simp [kept?]

/-- The record holds what is on record. -/
theorem mem_record {answer : Answer} : answer ∈ record ttlMs log ↔ OnRecord ttlMs log answer := by
  induction log using List.reverseRecOn with
  | nil =>
      refine iff_of_false (by simp [record]) fun honRecord => ?_
      obtain ⟨before, after, hlog, -⟩ := honRecord.lasts
      simp at hlog
  | append_singleton log dealing ih =>
      rw [record_concat, enter, List.mem_append, List.mem_filter, ih, Option.mem_toList,
        kept?_eq_some]
      constructor
      · rintro (⟨rfl, hkept⟩ | ⟨⟨hkept, before, after, rfl, hafter⟩, hlasts⟩)
        · exact ⟨hkept, log, [], rfl, by simp⟩
        · refine ⟨hkept, before, after ++ [dealing], by simp, fun other hother => ?_⟩
          rcases List.mem_append.mp hother with hother | hother
          · exact hafter other hother
          · rw [List.mem_singleton.mp hother]
            simpa using hlasts
      · rintro ⟨hkept, before, after, hlog, hafter⟩
        rcases List.eq_nil_or_concat after with rfl | ⟨earlier, last, rfl⟩
        · obtain ⟨rfl, hlast⟩ := List.append_inj' hlog rfl
          exact .inl ⟨List.singleton_inj.mp hlast, hkept⟩
        · rw [List.concat_eq_append] at hlog hafter
          rw [← List.cons_append, ← List.append_assoc] at hlog
          obtain ⟨rfl, hlast⟩ := List.append_inj' hlog rfl
          cases hlast
          refine .inr ⟨⟨hkept, before, earlier, rfl, fun other hother => ?_⟩, ?_⟩
          · exact hafter other (List.mem_append_left _ hother)
          · simpa using hafter dealing (by simp)

end Dealing

/-! ## The cache and the record -/

theorem Dealing.HasRoom.of_concat {ttlMs : Nat} {log : List Dealing} {dealing : Dealing}
    (hroom : HasRoom ttlMs (log ++ [dealing])) : HasRoom ttlMs log :=
  fun before hbefore => hroom before (hbefore.trans (List.prefix_append log [dealing]))

namespace Cache

/-- A cache holds nothing but what is on record, and not more than it may. -/
structure Holds (ttlMs : Nat) (log : List Dealing) (cache : Cache) : Prop where
  ttlMs_eq : cache.ttlMs = ttlMs
  entries : cache.entries.Sublist ((Dealing.record ttlMs log).map (Answer.entry ttlMs))
  length_le : cache.entries.length ≤ capacity
  /-- What is on record but not held has died, if there was always room. -/
  complete : Dealing.HasRoom ttlMs log → ∀ answer ∈ Dealing.record ttlMs log,
    answer.entry ttlMs ∈ cache.entries ∨
      ∃ later, .answered later ∈ log ∧ answer.diesAt ttlMs ≤ later.moment

variable {ttlMs : Nat} {log : List Dealing} {cache : Cache}

theorem holds_nil (ttlMs : Nat) : Holds ttlMs [] { ttlMs } where
  ttlMs_eq := rfl
  entries := List.Sublist.slnil
  length_le := Nat.zero_le _
  complete := by simp [Dealing.record]

/-- What holds after a dealing that lets go of some entries and takes up no new one. -/
theorem Holds.filter {cache later : Cache} (hholds : Holds ttlMs log cache) (dealing : Dealing)
    (hkept : dealing.kept? ttlMs = none) (httl : later.ttlMs = cache.ttlMs)
    (hentries : later.entries = cache.entries.filter (!dealing.displaces ttlMs ·.1)) :
    Holds ttlMs (log ++ [dealing]) later where
  ttlMs_eq := httl.trans hholds.ttlMs_eq
  entries := by
    rw [Dealing.record_concat, Dealing.enter, hkept, hentries]
    have hfilter := hholds.entries.filter (!dealing.displaces ttlMs ·.1)
    rwa [List.filter_map] at hfilter
  length_le := by
    rw [hentries]
    exact (List.length_filter_le _ _).trans hholds.length_le
  complete := by
    intro hroom answer hanswer
    rw [Dealing.record_concat, Dealing.enter, hkept] at hanswer
    obtain ⟨hanswer, hlasts⟩ := List.mem_filter.mp hanswer
    rcases hholds.complete hroom.of_concat answer hanswer with hheld | ⟨later, hlater, hdead⟩
    · left
      rw [hentries]
      exact List.mem_filter.mpr ⟨hheld, hlasts⟩
    · exact .inr ⟨later, List.mem_append_left _ hlater, hdead⟩

theorem Holds.invalidate (hholds : Holds ttlMs log cache) (url : String) :
    Holds ttlMs (log ++ [.invalidated url]) (cache.invalidate url) := by
  refine hholds.filter (.invalidated url) rfl rfl ?_
  refine List.filter_congr fun entry _ => ?_
  simp [Dealing.displaces, bne, BEq.comm]

theorem Holds.clear (hholds : Holds ttlMs log cache) :
    Holds ttlMs (log ++ [.cleared]) cache.clear := by
  refine hholds.filter .cleared rfl rfl ?_
  simp [Cache.clear, Dealing.displaces]

/-- An answer that is not kept leaves everything as it is. -/
theorem Holds.answered (hholds : Holds ttlMs log cache) {answer : Answer}
    (hkept : answer.isKept ttlMs = false) {later : Cache} (httl : later.ttlMs = cache.ttlMs)
    (hentries : later.entries = cache.entries) :
    Holds ttlMs (log ++ [.answered answer]) later := by
  refine hholds.filter (.answered answer) ?_ httl ?_
  · simp [Dealing.kept?, hkept]
  · simp [Dealing.displaces, hkept, hentries]

/-- A cache after a sweep: it has counted as before, and only what has died is thrown out. -/
structure SweptFrom (cache : Cache) (now : Nat) (swept : Cache) : Prop where
  ttlMs_eq : swept.ttlMs = cache.ttlMs
  hits_eq : swept.hits = cache.hits
  misses_eq : swept.misses = cache.misses
  sublist : swept.entries.Sublist cache.entries
  mem_or_dead : ∀ entry ∈ cache.entries, entry ∈ swept.entries ∨ entry.2.diesAt ≤ now

theorem sweptFrom_sweep (cache : Cache) (now : Nat) : SweptFrom cache now (cache.sweep now) := by
  unfold sweep
  split
  · exact ⟨rfl, rfl, rfl, List.Sublist.refl _, fun _ => .inl⟩
  · refine ⟨rfl, rfl, rfl, List.filter_sublist, fun entry hentry => ?_⟩
    by_cases hlives : now < entry.2.diesAt
    · exact .inl (List.mem_filter.mpr ⟨hentry, by simpa using hlives⟩)
    · exact .inr (Nat.not_lt.mp hlives)

/-- What becomes of a cache when a result with a life is to be kept. The sweep is hidden: to compare
fields of it, the kernel would compute rounds. -/
theorem exists_sweptFrom_of_insert {now : Nat} {url : String} {result : ScrapeResult}
    {asked : Option Nat} (hlives : cache.lifeMs asked ≠ 0) : ∃ swept, SweptFrom cache now swept ∧
      cache.insert now url result asked =
        if (without url swept.entries).length ≥ capacity then swept
        else { swept with entries :=
          (url, ⟨result, now + cache.lifeMs asked⟩) :: without url swept.entries } :=
  ⟨cache.sweep now, sweptFrom_sweep cache now, if_neg hlives⟩

/-- The entries for other addresses, after a sweep, are on record for them. -/
theorem Holds.without_sublist (hholds : Holds ttlMs log cache) {now : Nat} {swept : Cache}
    (hswept : SweptFrom cache now swept) (url : String) :
    (without url swept.entries).Sublist
      (((Dealing.record ttlMs log).filter (·.request.url != url)).map (Answer.entry ttlMs)) := by
  have hfilter := (hswept.sublist.trans hholds.entries).filter (·.1 != url)
  rwa [List.filter_map] at hfilter

/-- Where the other addresses fill a cache, there is no entry for this one. -/
theorem without_eq_self {url : String} {entries : List (String × CacheEntry)}
    (hlength : entries.length ≤ capacity) (hfull : (without url entries).length ≥ capacity) :
    without url entries = entries :=
  List.filter_sublist.eq_of_length_le (hlength.trans hfull)

/-- An answer that is kept takes the place of the one before it. -/
theorem Holds.insert (hholds : Holds ttlMs log cache) {answer : Answer}
    (hkept : answer.isKept ttlMs = true) :
    Holds ttlMs (log ++ [.answered answer])
      (cache.insert answer.moment answer.request.url answer.result
        answer.request.options.cacheTtlMs) := by
  have hlife : cache.lifeMs answer.request.options.cacheTtlMs = answer.lifeMs ttlMs := by
    rw [Cache.lifeMs, Answer.lifeMs, hholds.ttlMs_eq]
  have hlives : answer.lifeMs ttlMs ≠ 0 := by
    simp only [Answer.isKept, Bool.and_eq_true, bne_iff_ne] at hkept
    exact hkept.2
  have hrecord : Dealing.record ttlMs (log ++ [.answered answer]) =
      answer :: (Dealing.record ttlMs log).filter (·.request.url != answer.request.url) := by
    rw [Dealing.record_concat, Dealing.enter, Dealing.kept?_eq_some.mpr ⟨rfl, hkept⟩]
    refine congrArg (answer :: ·) (List.filter_congr fun other _ => ?_)
    simp [Dealing.displaces, hkept, bne, BEq.comm]
  obtain ⟨swept, hswept, hinsert⟩ := exists_sweptFrom_of_insert (hlife ▸ hlives)
  rw [hinsert, hlife]
  have hothers := hholds.without_sublist hswept answer.request.url
  have httl : swept.ttlMs = ttlMs := hswept.ttlMs_eq.trans hholds.ttlMs_eq
  have hlength : swept.entries.length ≤ capacity :=
    hswept.sublist.length_le.trans hholds.length_le
  split
  · rename_i hfull
    refine ⟨httl, ?_, hlength, fun hroom => absurd hfull ?_⟩
    · rw [hrecord, ← without_eq_self hlength hfull]
      exact hothers.cons _
    · have hrecorded := hroom _ (List.prefix_refl _)
      rw [hrecord, List.length_cons] at hrecorded
      have hheld := hothers.length_le
      rw [List.length_map] at hheld
      omega
  · rename_i hfree
    refine ⟨httl, ?_, ?_, fun hroom other hother => ?_⟩
    · rw [hrecord]
      exact hothers.cons_cons _
    · rw [List.length_cons]
      exact Nat.not_le.mp hfree
    · rw [hrecord] at hother
      rcases List.mem_cons.mp hother with rfl | hother
      · exact .inl List.mem_cons_self
      obtain ⟨hother, hurl⟩ := List.mem_filter.mp hother
      rcases hholds.complete hroom.of_concat other hother with hheld | ⟨later, hlater, hdead⟩
      · rcases hswept.mem_or_dead _ hheld with hheld | hdead
        · left
          exact List.mem_cons_of_mem _ (List.mem_filter.mpr ⟨hheld, hurl⟩)
        · exact .inr ⟨answer, by simp, hdead⟩
      · exact .inr ⟨later, List.mem_append_left _ hlater, hdead⟩

/-- An answer that is no reuse is kept where it went well and has a life. -/
theorem Holds.answer (hholds : Holds ttlMs log cache) {answer : Answer}
    (hcacheUsed : answer.result.metadata.cacheUsed = false) {misses : Nat} {later : Cache}
    (hlater : later = if answer.result.success then
      Cache.insert { cache with misses } answer.moment answer.request.url answer.result
        answer.request.options.cacheTtlMs
      else { cache with misses }) : Holds ttlMs (log ++ [.answered answer]) later := by
  have hlooked : Holds ttlMs log { cache with misses } := { hholds with }
  subst hlater
  cases hkept : answer.isKept ttlMs with
  | true =>
      have hsuccess : answer.result.success = true := by
        simp only [Answer.isKept, Bool.and_eq_true] at hkept
        exact hkept.1.1
      rw [if_pos hsuccess]
      exact hlooked.insert hkept
  | false =>
      split
      · rename_i hsuccess
        have hlife : lifeMs { cache with misses } answer.request.options.cacheTtlMs = 0 := by
          have hlife : answer.lifeMs ttlMs = 0 := by
            simpa [Answer.isKept, hsuccess, hcacheUsed] using hkept
          rwa [← hholds.ttlMs_eq] at hlife
        rw [Cache.insert, if_pos hlife]
        exact hholds.answered hkept rfl rfl
      · exact hholds.answered hkept rfl rfl

/-- What a look-up finds is on record and lives. -/
theorem Holds.onRecord_of_living? (hholds : Holds ttlMs log cache) {now : Nat} {url : String}
    {result : ScrapeResult} (hliving : cache.living? now url = some result) :
    ∃ answer, OnRecord ttlMs log answer ∧ answer.request.url = url ∧ answer.result = result ∧
      now < answer.diesAt ttlMs := by
  unfold living? at hliving
  split at hliving
  · rename_i entry hlookup
    split at hliving
    · rename_i hlives
      cases hliving
      obtain ⟨answer, hanswer, hsame⟩ :=
        List.mem_map.mp (hholds.entries.subset (mem_of_lookup hlookup))
      cases hsame
      exact ⟨answer, Dealing.mem_record.mp hanswer, rfl, rfl, hlives⟩
    · cases hliving
  · cases hliving

end Cache

/-! ## One request -/

namespace Noted

/-- The note that a kept result was used. -/
def cacheUsed (noted : Noted σ) : Bool := noted.1.cacheUsed

theorem keeps_cacheUsed_attempt {α : Type} (attempt : Attempt σ α) :
    Attempt.Keeps cacheUsed (Noted.attempt attempt) :=
  keeps_notes_attempt ScrapeMetadata.cacheUsed attempt

end Noted

/-- Others leave the kept results of a service alone while it works on a request. -/
abbrev Scraping.Undisturbed : Meantime (Scraping σ) := Meantime.leaving Scraping.cache

/-- Work that runs by itself is not disturbed. -/
theorem Scraping.canEnd_of_run {α : Type} {work : Activity (Scraping σ) α} {cancelAt : Option Nat}
    {clock later : Nat} {s t : Scraping σ} {value : α}
    (hrun : work.run cancelAt clock s = some (value, later, t)) :
    work.CanEnd Scraping.Undisturbed value t s :=
  Activity.canEnd_of_run (fun _ _ _ _ hwake => ⟨hwake, rfl⟩) hrun

namespace ScrapeService

open Noted

variable (service : ScrapeService σ F) (request : ScrapeRequest)

/-- A request that is carried out does not note that it used a kept result. -/
theorem keeps_cacheUsed_fetch : Attempt.Keeps cacheUsed (service.fetch request) := by
  have happrove : Attempt.Keeps cacheUsed (service.approve request) :=
    service.keeps_notes_approve request (fun _ _ => rfl) fun _ _ => rfl
  refine Attempt.keeps_bind happrove fun visit => ?_
  refine Attempt.keeps_bind (keeps_cacheUsed_attempt _) fun drawn => ?_
  refine Attempt.keeps_bind (keeps_cacheUsed_attempt _) fun _ => ?_
  exact (service.keeps_ofStages_browse visit).comp Prod.fst

-- Nothing below depends on what the work for a request is; unfolded, it would swamp the unifier.
attribute [local irreducible] fetch

/-- Carrying a request out comes to an outcome in the world, whatever the kept results are. -/
theorem canEnd_scrapeAnew {result : ScrapeResult} {s t : Scraping σ} :
    (service.scrapeAnew request).CanEnd Scraping.Undisturbed result t s ↔
      ∃ outcome notes world,
        (Activity.withNotes {} (service.fetch request).run).CanEnd (Meantime.leaving fun _ => ())
          (outcome, notes) world s.world ∧
        result = resultOf request outcome { notes with
            processingTimeMs := service.uptimeMs world - service.uptimeMs s.world }
          (service.now world) ∧
        t = service.keep request result { s with world } := by
  constructor
  · intro hends
    obtain ⟨began, u, ⟨hbegan, hu⟩, hafter⟩ := Activity.canEnd_bind.mp hends
    obtain ⟨⟨outcome, notes⟩, v, hfetch, hresult⟩ := Activity.canEnd_bind.mp hafter
    clear hends hafter
    have hcache : v.cache = s.cache := by
      have hkeeps : (onWorld (Activity.withNotes {} (service.fetch request).run)).Keeps
          Scraping.cache := by
        refine Activity.keeps_within_of_apart ?_ _
        exact fun _ _ => rfl
      rw [hkeeps.view_eq (fun _ _ _ _ _ hmeantime => hmeantime.2) hfetch, ← hu]
    have hworld : u.world = s.world := by rw [← hu]
    obtain ⟨rfl, rfl⟩ := hresult
    refine ⟨outcome, notes, v.world, ?_, ?_, ?_⟩
    · rw [← hworld]
      refine hfetch.of_within ?_ fun _ _ => rfl
      rintro pause wake elapsed s t ⟨hwake, -⟩
      exact ⟨by cases wake <;> exact hwake, rfl⟩
    · exact congrArg (fun began => resultOf request outcome { notes with
        processingTimeMs := service.uptimeMs v.world - began } (service.now v.world)) hbegan.symm
    · rw [← hcache]
  · rintro ⟨outcome, notes, world, hfetch, rfl, rfl⟩
    have hcarried : (onWorld (Activity.withNotes {} (service.fetch request).run)).CanEnd
        Scraping.Undisturbed (outcome, notes) { s with world } s := by
      refine Activity.CanEnd.within Scraping.world (fun world s => { s with world }) ?_ ?_ ?_ ?_
        hfetch
      · exact fun _ _ => rfl
      · exact fun _ _ _ => rfl
      · exact fun _ => rfl
      · rintro pause wake elapsed t u ⟨hwake, -⟩
        exact ⟨by cases wake <;> exact hwake, rfl⟩
    refine Activity.canEnd_bind.mpr ⟨service.uptimeMs s.world, s, ⟨rfl, rfl⟩, ?_⟩
    exact Activity.canEnd_bind.mpr ⟨(outcome, notes), { s with world }, hcarried, rfl, rfl⟩

-- The law above is all that is used of it.
attribute [local irreducible] scrapeAnew

/-- What a request that is carried out does to the kept results. -/
theorem scrapeAnew_cases {result : ScrapeResult} {s t : Scraping σ}
    (hends : (service.scrapeAnew request).CanEnd Scraping.Undisturbed result t s) :
    result.metadata.cacheUsed = false ∧
      t.cache = if result.success then
        s.cache.insert (service.uptimeMs t.world) request.url result request.options.cacheTtlMs
      else s.cache := by
  obtain ⟨outcome, notes, world, hfetch, rfl, rfl⟩ := (service.canEnd_scrapeAnew request).mp hends
  have hnoted : (service.fetch request).run.CanEnd (fun _ _ _ s t => t.1 = s.1) outcome
      (notes, world) ({}, s.world) := by
    refine Activity.CanEnd.of_withNotes ?_ hfetch
    exact fun _ _ _ _ _ _ _ => rfl
  have hcacheUsed : notes.cacheUsed = false :=
    (service.keeps_cacheUsed_fetch request).view_eq
      (fun _ _ _ _ _ hsame => congrArg ScrapeMetadata.cacheUsed hsame) hnoted
  refine ⟨?_, ?_⟩
  · cases outcome <;> exact hcacheUsed
  · rw [world_keep, keep]
    split <;> rfl

/-- What lives in the cache is the answer at once, to be counted and nothing else. -/
theorem advance_scrape_of_living {service : ScrapeService σ F} {request : ScrapeRequest}
    {s : Scraping σ} {kept : ScrapeResult} (huse : request.options.useCache = true)
    (hliving : s.cache.living? (service.uptimeMs s.world) request.url = some kept) :
    (service.scrape request).advance s =
      (.done (reused kept), { s with cache := { s.cache with hits := s.cache.hits + 1 } }) := by
  have hget : s.cache.get (service.uptimeMs s.world) request.url =
      (some kept, { s.cache with hits := s.cache.hits + 1 }) := by
    rw [Cache.get, hliving]
  unfold scrape
  rw [if_pos huse]
  simp only [Activity.step, Activity.bind, Activity.advance, hget]

/-- A request is answered by what lives in the cache, or carried out. -/
theorem canEnd_scrape {result : ScrapeResult} {s t : Scraping σ}
    (hends : (service.scrape request).CanEnd Scraping.Undisturbed result t s) :
    (∃ kept, request.options.useCache = true ∧
      s.cache.living? (service.uptimeMs s.world) request.url = some kept ∧
      result = reused kept ∧ t = { s with cache := { s.cache with hits := s.cache.hits + 1 } }) ∨
    (service.scrapeAnew request).CanEnd Scraping.Undisturbed result t { s with cache :=
      { s.cache with misses := s.cache.misses + if request.options.useCache then 1 else 0 } } := by
  cases huse : request.options.useCache with
  | false =>
      right
      unfold scrape at hends
      rwa [if_neg (by simp [huse])] at hends
  | true =>
      cases hliving : s.cache.living? (service.uptimeMs s.world) request.url with
      | some kept =>
          left
          have hdone := Activity.canEnd_advance.mpr hends
          rw [advance_scrape_of_living huse hliving] at hdone
          exact ⟨kept, rfl, rfl, hdone.1.symm, hdone.2.symm⟩
      | none =>
          right
          have hget : s.cache.get (service.uptimeMs s.world) request.url =
              (none, { s.cache with misses := s.cache.misses + 1 }) := by
            rw [Cache.get, hliving]
          unfold scrape at hends
          rw [if_pos huse] at hends
          obtain ⟨found, u, ⟨hfound, hu⟩, hends⟩ := Activity.canEnd_bind.mp hends
          simp only [hget] at hfound hu
          subst hfound hu
          exact hends

end ScrapeService

/-! ## A service in use -/

-- From here on scrapes are known only by what they end with and do to the cache.
attribute [local irreducible] ScrapeService.scrape ScrapeService.scrapeAnew

/-- A service with an empty cache has been in use: one after another it has answered requests and
has forgotten results, and in between the world has changed and time has passed. -/
inductive HasDealt (service : ScrapeService σ F) (ttlMs : Nat) :
    List Dealing → Scraping σ → Prop where
  | opened (world : σ) : HasDealt service ttlMs [] { cache := { ttlMs }, world }
  | idled {log : List Dealing} {s : Scraping σ} (hdealt : HasDealt service ttlMs log s)
      (world : σ) :
      HasDealt service ttlMs log { s with world }
  | answered {log : List Dealing} {s t : Scraping σ} (hdealt : HasDealt service ttlMs log s)
      {request : ScrapeRequest} {result : ScrapeResult}
      (hends : (service.scrape request).CanEnd Scraping.Undisturbed result t s) :
      HasDealt service ttlMs
        (log ++ [.answered { request, result, moment := service.uptimeMs t.world }]) t
  | invalidated {log : List Dealing} {s : Scraping σ} (hdealt : HasDealt service ttlMs log s)
      (url : String) :
      HasDealt service ttlMs (log ++ [.invalidated url])
        { s with cache := s.cache.invalidate url }
  | cleared {log : List Dealing} {s : Scraping σ} (hdealt : HasDealt service ttlMs log s) :
      HasDealt service ttlMs (log ++ [.cleared]) { s with cache := s.cache.clear }

/-- A cache has counted the answers that were reuses, and the requests that allowed them. -/
structure Cache.Counts (log : List Dealing) (cache : Cache) : Prop where
  hits : cache.hits = log.countP (·.isReuse)
  lookUps : cache.hits + cache.misses = log.countP (·.looksUp)

theorem Cache.Counts.concat {log : List Dealing} {cache later : Cache} (hcounts : Counts log cache)
    {dealing : Dealing} (hhits : later.hits = cache.hits + if dealing.isReuse then 1 else 0)
    (hlookUps : later.hits + later.misses =
      cache.hits + cache.misses + if dealing.looksUp then 1 else 0) :
    Counts (log ++ [dealing]) later where
  hits := by rw [hhits, hcounts.hits, List.countP_append, List.countP_singleton]
  lookUps := by rw [hlookUps, hcounts.lookUps, List.countP_append, List.countP_singleton]

/-- To keep a result is no look-up. -/
theorem Cache.insert_counts (cache : Cache) (now : Nat) (url : String) (result : ScrapeResult)
    (asked : Option Nat) : (cache.insert now url result asked).hits = cache.hits ∧
      (cache.insert now url result asked).misses = cache.misses := by
  by_cases hlife : cache.lifeMs asked = 0
  · rw [insert, if_pos hlife]
    exact ⟨rfl, rfl⟩
  · obtain ⟨swept, hswept, hinsert⟩ := exists_sweptFrom_of_insert hlife
    rw [hinsert]
    split <;> exact ⟨hswept.hits_eq, hswept.misses_eq⟩

namespace HasDealt

variable {service : ScrapeService σ F} {ttlMs : Nat} {log : List Dealing} {s : Scraping σ}

/-- The cache holds what is on record. -/
theorem holds (hdealt : HasDealt service ttlMs log s) : Cache.Holds ttlMs log s.cache := by
  induction hdealt with
  | opened world => exact Cache.holds_nil ttlMs
  | idled hdealt world ih => exact ih
  | invalidated hdealt url ih => exact ih.invalidate url
  | cleared hdealt ih => exact ih.clear
  | @answered log s t hdealt request result hends ih =>
      rcases service.canEnd_scrape request hends with ⟨kept, huse, hliving, rfl, rfl⟩ | hanew
      · refine ih.answered ?_ rfl rfl
        simp [Answer.isKept, ScrapeService.reused]
      · obtain ⟨hcacheUsed, hcache⟩ := service.scrapeAnew_cases request hanew
        exact ih.answer hcacheUsed hcache

/-- The cache has counted what was asked of it. -/
theorem counts (hdealt : HasDealt service ttlMs log s) : Cache.Counts log s.cache := by
  induction hdealt with
  | opened world => exact ⟨rfl, rfl⟩
  | idled hdealt world ih => exact ih
  | invalidated hdealt url ih => exact ih.concat rfl rfl
  | cleared hdealt ih => exact ih.concat rfl rfl
  | @answered log s t hdealt request result hends ih =>
      rcases service.canEnd_scrape request hends with ⟨kept, huse, hliving, rfl, rfl⟩ | hanew
      · refine ih.concat rfl ?_
        simp [Dealing.looksUp, huse]
        omega
      · obtain ⟨hcacheUsed, hcache⟩ := service.scrapeAnew_cases request hanew
        have hcounted : t.cache.hits = s.cache.hits ∧ t.cache.misses =
            s.cache.misses + if request.options.useCache then 1 else 0 := by
          split at hcache
          · rw [hcache]
            exact Cache.insert_counts _ _ _ _ _
          · rw [hcache]
            exact ⟨rfl, rfl⟩
        refine ih.concat ?_ ?_
        · simpa [Dealing.isReuse, hcacheUsed] using hcounted.1
        · rw [hcounted.1, hcounted.2, Nat.add_assoc]
          rfl

end HasDealt

end SiteWatch
