/-
# Inquiries about robots rules

One check of an address after another, while time passes and the network does as it likes. Each check
is an inquiry, with the traffic that it caused. What an inquiry finds out is up to the earlier ones
about its origin alone: if the last of them that fetched anything came to a certain outcome less than an
hour ago, that outcome is used again and nothing is sent; otherwise the rules of the origin are fetched,
once. The invariant is that the rules that are kept for an origin are those that the last fetch there
has brought, as long as they can be used again. That the texts of different origins are different keeps
the origins apart.
-/

import SiteWatch.Proofs.Tables
import SiteWatch.Proofs.Url.Origins
import SiteWatch.Proofs.Web.Traffic
import SiteWatch.Rehearsal.Network
import SiteWatch.Robots.Policy

namespace SiteWatch

namespace Robots

open Heard (IsCourse lastReply?)

variable {ν : Type}

/-! ## What may happen in the meantime -/

/-- Others leave the known rules alone, and time does not go back. -/
def Meanwhile (s t : Online ν) : Prop := t.rules = s.rules ∧ s.uptimeMs ≤ t.uptimeMs

/-- Waits end as they may. -/
def passing : Meantime (Online ν) :=
  fun pause wake elapsed s t => pause.endsBy wake elapsed t = true ∧ Meanwhile s t

/-- Waits end as they may, and nobody tampers with the notes. -/
def passingNoted : Meantime (Online (ν × List Heard)) :=
  fun pause wake elapsed s t => passing pause wake elapsed s t ∧ t.network.2 = s.network.2

/-! ## Inquiries -/

/-- A check, and what came of it. -/
structure Inquiry where
  url : String
  page : Url
  status : RobotsStatus
  traffic : List Heard
  /-- The uptime of the service when the check began and when it ended, in milliseconds. -/
  begunAt : Nat
  endedAt : Nat

namespace Inquiry

/-- The origin was asked, and answered with a document that could be read. -/
def BringsRules (i : Inquiry) (text : String) : Prop :=
  ∃ reply, lastReply? i.traffic = some reply ∧ (200 ≤ reply.status ∧ reply.status < 300) ∧
    reply.body = some text

/-- The origin was asked, and put the blame on the request, but for the number of requests. -/
def FindsNone (i : Inquiry) : Prop :=
  ∃ reply, lastReply? i.traffic = some reply ∧ (400 ≤ reply.status ∧ reply.status < 500) ∧
    reply.status ≠ 429

/-- The outcome can be used again. -/
def IsCertain (i : Inquiry) : Prop := (∃ text, i.BringsRules text) ∨ i.FindsNone

/-- Whether anything was sent. -/
def fetches (i : Inquiry) : Bool := !i.traffic.isEmpty

/-- The last of some inquiries that fetched anything. -/
def latest? (earlier : List Inquiry) : Option Inquiry := (earlier.filter fetches).getLast?

/-- The inquiries about an origin. -/
def about (origin : Url.Origin) (log : List Inquiry) : List Inquiry :=
  log.filter (·.page.origin == origin)

/-- What an inquiry found out is what the origin answered to an inquiry. -/
structure IsDecidedBy (i source : Inquiry) : Prop where
  permits_iff : i.status.permits = false ↔
    ∃ text, source.BringsRules text ∧ permits text agentName i.url = false
  allowed_iff : i.status = .allowed ↔
    ∃ text, source.BringsRules text ∧ permits text agentName i.url = true
  notFound_iff : i.status = .notFound ↔ source.FindsNone
  unavailable_iff : i.status = .unavailable ↔ ¬ source.IsCertain

/-- The request for the rules of a page's origin. -/
def request (page : Url) : WebRequest where
  url := {
    scheme := page.scheme
    host := page.host
    port := page.port
    path := .absolute ["robots.txt"] }
  agent := fetchAgent

/-- An inquiry after earlier ones about its origin. -/
structure IsSettled (earlier : List Inquiry) (i : Inquiry) : Prop where
  reuses : ∀ source, latest? earlier = some source → source.IsCertain →
    i.begunAt < source.endedAt + keptMs → i.traffic = [] ∧ i.IsDecidedBy source
  fetches : (∀ source, latest? earlier = some source → source.IsCertain →
    source.endedAt + keptMs ≤ i.begunAt) → IsCourse (request i.page) i.traffic ∧ i.IsDecidedBy i

end Inquiry

/-- Some checks of pages, one after another, beginning without any rules. -/
inductive HasAsked (network : Network ν) : List Inquiry → Online ν → Prop where
  | opened {online : Online ν} (hnone : online.rules = []) : HasAsked network [] online
  | passed {log : List Inquiry} {s t : Online ν} (hasked : HasAsked network log s)
      (hpassed : Meanwhile s t) : HasAsked network log t
  | asked {log : List Inquiry} {s t : Online ν} {url : String} {page : Url} {status : RobotsStatus}
      {traffic : List Heard} (hasked : HasAsked network log s) (hparse : Url.parse url = .ok page)
      (hweb : page.isWeb = true)
      (hends : (check network.noting url).CanEnd passingNoted status (t.noted traffic) (s.noted [])) :
      HasAsked network (log ++ [{
        url, page, status, traffic, begunAt := s.uptimeMs, endedAt := t.uptimeMs }]) t

/-! ## Outcomes -/

theorem ofReply_eq_document {reply : WebReply} {text : String} :
    Fetched.ofReply reply = .document text ↔
      (200 ≤ reply.status ∧ reply.status < 300) ∧ reply.body = some text := by
  rw [Fetched.ofReply]
  split
  · rename_i hsuccess
    have hrange : 200 ≤ reply.status ∧ reply.status < 300 := by
      simpa [WebReply.isSuccess] using hsuccess
    cases reply.body <;> simp [hrange]
  · rename_i hfailure
    have hrange : ¬ (200 ≤ reply.status ∧ reply.status < 300) := by
      simpa [WebReply.isSuccess] using hfailure
    constructor
    · split <;> exact nofun
    · exact fun hreply => absurd hreply.1 hrange

theorem ofReply_eq_missing {reply : WebReply} :
    Fetched.ofReply reply = .missing ↔
      (400 ≤ reply.status ∧ reply.status < 500) ∧ reply.status ≠ 429 := by
  rw [Fetched.ofReply]
  split
  · rename_i hsuccess
    have hrange : 200 ≤ reply.status ∧ reply.status < 300 := by
      simpa [WebReply.isSuccess] using hsuccess
    constructor
    · split <;> exact nofun
    · omega
  · by_cases hblame : reply.blamesRequest = true ∧ reply.status ≠ 429
    · rw [if_pos hblame]
      simpa [WebReply.blamesRequest] using hblame
    · rw [if_neg hblame]
      simpa [WebReply.blamesRequest] using hblame

/-- A reply that redirects says nothing about rules. -/
theorem ofReply_of_redirected {request next : WebRequest} {reply : WebReply}
    (hnext : request.redirected? reply = some next) : Fetched.ofReply reply = .unavailable := by
  have hstatus := WebRequest.status_of_redirected hnext
  cases hfetched : Fetched.ofReply reply with
  | document text => have := (ofReply_eq_document.mp hfetched).1; omega
  | missing => have := (ofReply_eq_missing.mp hfetched).1; omega
  | unavailable => rfl

/-- What traffic says about the rules of an origin. -/
def fetchedOf (traffic : List Heard) : Fetched :=
  match lastReply? traffic with
  | some reply => .ofReply reply
  | none => .unavailable

/-- How traffic came out is all that a fetch goes by. -/
theorem fetchedOf_of_cameOut {traffic : List Heard} {result : Except FetchFault (Url × WebReply)} :
    Heard.CameOut traffic result →
      (match result with
        | .ok (_, reply) => Fetched.ofReply reply
        | .error _ => .unavailable) = fetchedOf traffic := by
  intro hcame
  cases result with
  | ok answer => rw [fetchedOf, show lastReply? traffic = some answer.2 from hcame]
  | error fault =>
      cases hlast : lastReply? traffic with
      | none => rw [fetchedOf, hlast]
      | some reply =>
          obtain ⟨request, next, hnext⟩ := hcame reply hlast
          rw [fetchedOf, hlast]
          exact (ofReply_of_redirected hnext).symm

namespace Inquiry

variable {i source : Inquiry}

theorem fetchedOf_eq_document {text : String} :
    fetchedOf i.traffic = .document text ↔ i.BringsRules text := by
  rw [fetchedOf, BringsRules]
  cases lastReply? i.traffic with
  | none => simp
  | some reply => simp [ofReply_eq_document]

theorem fetchedOf_eq_missing : fetchedOf i.traffic = .missing ↔ i.FindsNone := by
  rw [fetchedOf, FindsNone]
  cases lastReply? i.traffic with
  | none => simp
  | some reply => simp [ofReply_eq_missing]

theorem isCertain_iff : i.IsCertain ↔ (fetchedOf i.traffic).isCertain = true := by
  simp only [IsCertain, ← fetchedOf_eq_document, ← fetchedOf_eq_missing]
  cases fetchedOf i.traffic <;> simp [Fetched.isCertain]

theorem isDecidedBy_of_evaluate
    (hstatus : i.status = evaluate (fetchedOf source.traffic) agentName i.url) :
    i.IsDecidedBy source := by
  constructor <;>
    simp only [isCertain_iff, ← fetchedOf_eq_document, ← fetchedOf_eq_missing, hstatus]
  all_goals cases fetchedOf source.traffic with
    | document text =>
        cases hpermits : permits text agentName i.url <;>
          simp [evaluate, hpermits, RobotsStatus.permits, Fetched.isCertain]
    | missing | unavailable => simp [evaluate, RobotsStatus.permits, Fetched.isCertain]

end Inquiry

/-! ## One check -/

theorem ofUrl_documentUrl {page : Url} (hpage : page.IsPage) :
    WebRequest.ofUrl .get (documentUrl page) fetchAgent = .ok (Inquiry.request page) := by
  obtain ⟨host, hhost, hempty, -⟩ := hpage.host
  have hknown : (documentUrl page).withoutCredentials.hostText?.isNone = false := by
    have hsame : (documentUrl page).withoutCredentials.host = some host := hhost
    simp [Url.hostText?, hsame, hempty]
  have hagent : WebRequest.isHeadText fetchAgent = true := by decide +kernel
  have hweb : (documentUrl page).withoutCredentials.isWeb = true := hpage.web
  simp only [WebRequest.ofUrl, hknown, hagent, hweb]
  rfl

theorem run_askUrl (network : Network ν) {page : Url} (hpage : page.IsPage) :
    (network.askUrl limitMs fetchAgent (documentUrl page)).run =
      (network.send limitMs (Inquiry.request page)).run := by
  unfold Network.askUrl
  rw [ofUrl_documentUrl hpage]
  rfl

theorem check_eq (network : Network ν) {url : String} {page : Url}
    (hparse : Url.parse url = .ok page) (hpage : page.IsPage) :
    check network url = (rulesOf network page.originText (documentUrl page)).bind fun fetched =>
      .done (evaluate fetched agentName url) := by
  simp only [check, hparse, Except.toOption, documentUrl?_eq hpage]

/-- A fetch is a course of the request for the rules, and goes by what was heard last. -/
theorem of_canEnd_fetch {network : Network ν} {page : Url} (hpage : page.IsPage) {fetched : Fetched}
    {s : Online ν} {t : Online (ν × List Heard)}
    (hends : (fetch network.noting (documentUrl page)).CanEnd passingNoted fetched t (s.noted [])) :
    IsCourse (Inquiry.request page) t.network.2 ∧ fetched = fetchedOf t.network.2 ∧
      Meanwhile s t.plain := by
  obtain ⟨result, u, hasked, rfl, rfl⟩ := Activity.canEnd_bind.mp hends
  rw [run_askUrl network.noting hpage] at hasked
  have hmeanwhile : Meanwhile s u.plain := by
    have hkeeps : (Online.onNetwork (network.noting.send limitMs (Inquiry.request page)).run).Keeps
        fun online => (online.rules, online.uptimeMs) := by
      refine Activity.keeps_within_of_apart ?_ _
      exact fun _ _ => rfl
    refine hkeeps.relates
      (R := fun (x y : List (String × KnownRules) × Nat) => y.1 = x.1 ∧ x.2 ≤ y.2) ?_ ?_ ?_ hasked
    · exact fun x => ⟨rfl, Nat.le_refl x.2⟩
    · exact fun hxy hyz => ⟨hyz.1.trans hxy.1, Nat.le_trans hxy.2 hyz.2⟩
    · exact fun _ _ _ _ _ hamid => hamid.1.2
  have hinner : (network.noting.send limitMs (Inquiry.request page)).run.CanEnd
      (.leaving Prod.snd) result u.network (s.network, []) :=
    Online.of_canEnd_onNetwork (fun _ _ _ _ _ hmid => ⟨hmid.1.1, hmid.2⟩) hasked
  obtain ⟨traffic, htraffic, hcourse, hcame⟩ := network.hasEnded_of_send hinner
  have htraffic : u.network.2 = traffic := htraffic
  rw [htraffic]
  exact ⟨hcourse, fetchedOf_of_cameOut hcame, hmeanwhile⟩

theorem rulesOf_eq (network : Network ν) (origin : String) (document : Url) :
    rulesOf network origin document = .act id fun online =>
      match known? origin online with
      | some fetched => .done fetched
      | none => (fetch network document).bind fun fetched =>
        (Activity.modify (keep origin fetched)).bind fun _ => .done fetched := rfl

theorem network_keep (origin : String) (fetched : Fetched) (online : Online ν) :
    (keep origin fetched online).network = online.network := by
  unfold keep
  split <;> rfl

theorem uptimeMs_keep (origin : String) (fetched : Fetched) (online : Online ν) :
    (keep origin fetched online).uptimeMs = online.uptimeMs := by
  unfold keep
  split <;> rfl

theorem plain_keep (origin : String) (fetched : Fetched) (online : Online (ν × List Heard)) :
    (keep origin fetched online).plain = keep origin fetched online.plain := by
  unfold keep
  split <;> rfl

/-- The rules of an origin are those that are kept, and then nothing happens; or else they are those
that a fetch brings, and are kept. -/
theorem of_canEnd_rulesOf {network : Network ν} {page : Url} (hpage : page.IsPage)
    {fetched : Fetched} {s t : Online ν} {traffic : List Heard}
    (hends : (rulesOf network.noting page.originText (documentUrl page)).CanEnd passingNoted fetched
      (t.noted traffic) (s.noted [])) :
    (known? page.originText s = some fetched ∧ traffic = [] ∧ t = s) ∨
    (known? page.originText s = none ∧ IsCourse (Inquiry.request page) traffic ∧
      fetched = fetchedOf traffic ∧ ∃ u, Meanwhile s u ∧ t = keep page.originText fetched u) := by
  simp only [rulesOf_eq, Activity.CanEnd] at hends
  cases hknown : known? page.originText (s.noted []) with
  | some kept =>
      rw [hknown] at hends
      obtain ⟨rfl, hsame⟩ := hends
      have hnothing : [] = traffic := congrArg (·.network.2) hsame
      exact .inl ⟨hknown, hnothing.symm, (congrArg Online.plain hsame).symm⟩
  | none =>
      rw [hknown] at hends
      obtain ⟨answer, u, hfetch, rfl, hkept⟩ := Activity.canEnd_bind.mp hends
      obtain ⟨hcourse, hfetched, hmeanwhile⟩ := of_canEnd_fetch hpage hfetch
      have htraffic : u.network.2 = traffic := by
        rw [← network_keep page.originText answer u, hkept]
        rfl
      rw [htraffic] at hcourse hfetched
      have hplain : t = keep page.originText answer u.plain := by
        rw [← plain_keep, hkept]
        rfl
      exact .inr ⟨hknown, hcourse, hfetched, u.plain, hmeanwhile, hplain⟩

/-- A check is decided by the rules that are kept, or by what is fetched. -/
theorem of_canEnd_check {network : Network ν} {url : String} {page : Url}
    (hparse : Url.parse url = .ok page) (hpage : page.IsPage) {status : RobotsStatus}
    {s t : Online ν} {traffic : List Heard}
    (hends : (check network.noting url).CanEnd passingNoted status (t.noted traffic) (s.noted [])) :
    (∃ fetched, known? page.originText s = some fetched ∧
      status = evaluate fetched agentName url ∧ traffic = [] ∧ t = s) ∨
    (known? page.originText s = none ∧ IsCourse (Inquiry.request page) traffic ∧
      status = evaluate (fetchedOf traffic) agentName url ∧
      ∃ u, Meanwhile s u ∧ t = keep page.originText (fetchedOf traffic) u) := by
  rw [check_eq network.noting hparse hpage] at hends
  obtain ⟨fetched, u, hrules, rfl, rfl⟩ := Activity.canEnd_bind.mp hends
  rcases of_canEnd_rulesOf hpage hrules with
    ⟨hknown, hnothing, hsame⟩ | ⟨hnone, hcourse, rfl, hkept⟩
  · exact .inl ⟨fetched, hknown, rfl, hnothing, hsame⟩
  · exact .inr ⟨hnone, hcourse, rfl, hkept⟩

/-! ## Checks without notes -/

theorem shadows_fetch (network : Network ν) (document : Url) :
    Activity.Shadows Online.plain (fetch network.noting document) (fetch network document) := by
  refine Activity.Shadows.bind ?_ fun _ => .done _
  apply (network.shadows_askUrl limitMs fetchAgent document).within
  · exact fun _ => rfl
  · exact fun _ _ => rfl
  · exact fun _ => rfl

theorem shadows_rulesOf (network : Network ν) (origin : String) (document : Url) :
    Activity.Shadows Online.plain (rulesOf network.noting origin document)
      (rulesOf network origin document) := by
  rw [rulesOf_eq, rulesOf_eq]
  refine .act (fun _ => rfl) fun online => ?_
  have hsame : known? origin online = known? origin online.plain := rfl
  rw [hsame]
  cases known? origin online.plain with
  | some fetched => exact .done fetched
  | none =>
      refine (shadows_fetch network document).bind fun fetched => ?_
      exact .act (plain_keep origin fetched) fun _ => .done fetched

theorem shadows_check (network : Network ν) (url : String) :
    Activity.Shadows Online.plain (check network.noting url) (check network url) := by
  unfold check
  cases (Url.parse url).toOption with
  | none => exact .done _
  | some page =>
      dsimp only
      cases documentUrl? page with
      | none => exact .done _
      | some document => exact (shadows_rulesOf network _ document).bind fun _ => .done _

/-- Every check has its traffic. -/
theorem canEnd_check_iff {network : Network ν} {url : String} {status : RobotsStatus}
    {s t : Online ν} :
    (check network url).CanEnd passing status t s ↔ ∃ traffic,
      (check network.noting url).CanEnd passingNoted status (t.noted traffic) (s.noted []) := by
  refine Online.canEnd_iff_noted ?_ ?_ (shadows_check network url)
  · rintro pause wake elapsed v w ⟨⟨hwake, hmeanwhile⟩, -⟩
    exact ⟨by cases wake <;> exact hwake, hmeanwhile⟩
  · rintro pause wake elapsed v w ⟨hwake, hmeanwhile⟩
    exact ⟨⟨by cases wake <;> exact hwake, hmeanwhile⟩, rfl⟩

theorem isSome_run_fetch (network : Network ν) (document : Url) (cancelAt : Option Nat)
    (clock : Nat) (s : Online ν) : ((fetch network document).run cancelAt clock s).isSome := by
  refine Activity.isSome_run_bind ?_ fun _ _ _ => rfl
  rw [Online.onNetwork, Activity.run_within, Option.isSome_map]
  · unfold Network.askUrl
    cases WebRequest.ofUrl .get document fetchAgent with
    | error fault => rfl
    | ok request => exact Activity.isSome_run_orLate ..
  · exact fun _ _ => rfl
  · exact fun _ _ _ => rfl
  · exact fun _ => rfl

/-- A check comes to an end, for what it waits for has a deadline. -/
theorem isSome_run_check (network : Network ν) (url : String) (cancelAt : Option Nat) (clock : Nat)
    (s : Online ν) : ((check network url).run cancelAt clock s).isSome := by
  unfold check
  cases (Url.parse url).toOption with
  | none => rfl
  | some page =>
      dsimp only
      cases documentUrl? page with
      | none => rfl
      | some document =>
          refine Activity.isSome_run_bind ?_ fun _ _ _ => rfl
          rw [rulesOf_eq, Activity.run]
          cases known? page.originText s with
          | some fetched => rfl
          | none =>
              refine Activity.isSome_run_bind ?_ fun _ _ _ => rfl
              exact isSome_run_fetch network document cancelAt clock s

/-! ## What is known -/

/-- The rules of an origin that are kept at a time. -/
def knownAt? (origin : String) (now : Nat) (online : Online ν) : Option Fetched :=
  known? origin { online with uptimeMs := now }

theorem knownAt?_of_meanwhile {origin : String} {now : Nat} {s t : Online ν}
    (hmeanwhile : Meanwhile s t) : knownAt? origin now t = knownAt? origin now s := by
  simp only [knownAt?, known?, hmeanwhile.1]

theorem knownAt?_eq_none_of_le {origin : String} {online : Online ν} {now later : Nat}
    (hlater : now ≤ later) (hnone : knownAt? origin now online = none) :
    knownAt? origin later online = none := by
  simp only [knownAt?, known?] at hnone ⊢
  cases hrules : online.rules.lookup origin with
  | none => rfl
  | some rules =>
      simp only [hrules, ite_eq_right_iff, reduceCtorEq, imp_false, Nat.not_lt] at hnone ⊢
      omega

/-- What is kept for one origin is nothing to another one. -/
theorem knownAt?_keep_of_ne {origin other : String} (hother : other ≠ origin) (fetched : Fetched)
    (now : Nat) (online : Online ν) :
    knownAt? other now (keep origin fetched online) = knownAt? other now online := by
  rw [keep]
  split
  · simp only [knownAt?, known?, lookup_cons_filter_ne hother]
  · rfl

theorem knownAt?_keep_self (origin : String) {fetched : Fetched}
    (hcertain : fetched.isCertain = true) (now : Nat) (online : Online ν) :
    knownAt? origin now (keep origin fetched online) =
      if now < online.uptimeMs + keptMs then some fetched else none := by
  rw [keep, if_pos hcertain]
  simp only [knownAt?, known?, List.lookup_cons_self]

theorem keep_of_uncertain (origin : String) {fetched : Fetched}
    (huncertain : fetched.isCertain = false) (online : Online ν) :
    keep origin fetched online = online := by
  rw [keep, huncertain]
  rfl

/-! ## What is remembered -/

namespace Inquiry

/-- What can be used again of earlier inquiries. -/
def recalled? (now : Nat) (earlier : List Inquiry) : Option Fetched :=
  match latest? earlier with
  | some source =>
    if (fetchedOf source.traffic).isCertain ∧ now < source.endedAt + keptMs then
      some (fetchedOf source.traffic)
    else none
  | none => none

variable {i : Inquiry} {earlier : List Inquiry}

theorem latest?_concat_of_fetches (hfetches : i.fetches = true) :
    latest? (earlier ++ [i]) = some i := by
  simp [latest?, List.filter_append, hfetches]

theorem latest?_concat_of_not_fetches (hnothing : i.fetches = false) :
    latest? (earlier ++ [i]) = latest? earlier := by
  simp [latest?, List.filter_append, hnothing]

theorem about_concat_self : about i.page.origin (earlier ++ [i]) =
    about i.page.origin earlier ++ [i] := by
  simp [about, List.filter_append]

theorem about_concat_of_ne {origin : Url.Origin} (hother : origin ≠ i.page.origin) :
    about origin (earlier ++ [i]) = about origin earlier := by
  simp [about, List.filter_append, hother.symm]

end Inquiry

open Inquiry (recalled? about latest?)

/-- At any time from now on, what is kept for an origin is what can be used again of the inquiries
about it. -/
def Remembers (log : List Inquiry) (online : Online ν) : Prop :=
  ∀ page : Url, page.IsPage → ∀ now, online.uptimeMs ≤ now →
    knownAt? page.originText now online = recalled? now (about page.origin log)

namespace Remembers

variable {log : List Inquiry} {s t : Online ν}

theorem of_meanwhile (hremembers : Remembers log s) (hmeanwhile : Meanwhile s t) :
    Remembers log t := by
  intro page hpage now hnow
  rw [knownAt?_of_meanwhile hmeanwhile]
  exact hremembers page hpage now (Nat.le_trans hmeanwhile.2 hnow)

theorem of_reuse (hremembers : Remembers log s) {i : Inquiry} (hnothing : i.fetches = false) :
    Remembers (log ++ [i]) s := by
  intro page hpage now hnow
  rw [hremembers page hpage now hnow]
  by_cases horigin : page.origin = i.page.origin
  · rw [horigin, Inquiry.about_concat_self, recalled?, recalled?,
      Inquiry.latest?_concat_of_not_fetches hnothing]
  · rw [Inquiry.about_concat_of_ne horigin]

/-- What a fetch brings replaces what was kept for the origin, which had run out. -/
theorem of_fetch (hremembers : Remembers log s) {i : Inquiry} (hpage : i.page.IsPage)
    (hnone : known? i.page.originText s = none) (hfetches : i.fetches = true)
    (hmeanwhile : Meanwhile s t) (hended : i.endedAt = t.uptimeMs) :
    Remembers (log ++ [i]) (keep i.page.originText (fetchedOf i.traffic) t) := by
  intro page hother now hnow
  rw [uptimeMs_keep] at hnow
  by_cases horigin : page.origin = i.page.origin
  · have htext : page.originText = i.page.originText := (hother.originText_inj hpage).mpr horigin
    rw [horigin, htext, Inquiry.about_concat_self, recalled?,
      Inquiry.latest?_concat_of_fetches hfetches]
    cases hcertain : (fetchedOf i.traffic).isCertain with
    | true =>
        rw [knownAt?_keep_self _ hcertain, ← hended]
        simp [hcertain]
    | false =>
        -- Nothing is kept; and what had been kept had run out when the check began.
        rw [keep_of_uncertain _ hcertain]
        have hbegun : knownAt? i.page.originText s.uptimeMs t = none := by
          rw [knownAt?_of_meanwhile hmeanwhile]
          exact hnone
        rw [knownAt?_eq_none_of_le (Nat.le_trans hmeanwhile.2 hnow) hbegun]
        simp [hcertain]
  · have htext : page.originText ≠ i.page.originText := fun hsame =>
      horigin ((hother.originText_inj hpage).mp hsame)
    rw [knownAt?_keep_of_ne htext, Inquiry.about_concat_of_ne horigin]
    exact hremembers.of_meanwhile hmeanwhile page hother now hnow

end Remembers

namespace Inquiry

variable {i : Inquiry} {earlier : List Inquiry} {now : Nat}

theorem recalled?_eq_some {fetched : Fetched} :
    recalled? now earlier = some fetched ↔ ∃ source, latest? earlier = some source ∧
      source.IsCertain ∧ now < source.endedAt + keptMs ∧ fetchedOf source.traffic = fetched := by
  rw [recalled?]
  cases latest? earlier with
  | none => simp
  | some source => simp [isCertain_iff, and_assoc]

theorem recalled?_eq_none :
    recalled? now earlier = none ↔ ∀ source, latest? earlier = some source → source.IsCertain →
      source.endedAt + keptMs ≤ now := by
  rw [recalled?]
  cases latest? earlier with
  | none => simp
  | some source => simp [isCertain_iff]

/-- A check that finds rules kept is decided by the inquiry that fetched them. -/
theorem isSettled_of_reuse {fetched : Fetched}
    (hrecalled : recalled? i.begunAt earlier = some fetched) (hnothing : i.traffic = [])
    (hstatus : i.status = evaluate fetched agentName i.url) :
    i.IsSettled earlier := by
  obtain ⟨kept, hkept, hcertain, hfresh, rfl⟩ := recalled?_eq_some.mp hrecalled
  constructor
  · intro source hsource _ _
    cases hkept.symm.trans hsource
    exact ⟨hnothing, isDecidedBy_of_evaluate hstatus⟩
  · intro hgone
    exact absurd hfresh (Nat.not_lt.mpr (hgone kept hkept hcertain))

/-- A check that finds none kept is decided by what it fetches itself. -/
theorem isSettled_of_fetch (hnone : recalled? i.begunAt earlier = none)
    (hcourse : IsCourse (request i.page) i.traffic)
    (hstatus : i.status = evaluate (fetchedOf i.traffic) agentName i.url) : i.IsSettled earlier := by
  constructor
  · intro source hsource hcertain hfresh
    exact absurd hfresh (Nat.not_lt.mpr (recalled?_eq_none.mp hnone source hsource hcertain))
  · exact fun _ => ⟨hcourse, isDecidedBy_of_evaluate hstatus⟩

end Inquiry

namespace HasAsked

variable {network : Network ν} {log : List Inquiry} {s : Online ν}

theorem remembers (hasked : HasAsked network log s) : Remembers log s := by
  induction hasked with
  | opened hnone =>
      intro page hpage now hnow
      simp [knownAt?, known?, hnone, recalled?, about, latest?]
  | passed _ hpassed ih => exact ih.of_meanwhile hpassed
  | @asked log s t url page status traffic _ hparse hweb hends ih =>
      have hpage := Url.isPage_of_parse hparse hweb
      rcases of_canEnd_check hparse hpage hends with
        ⟨fetched, hknown, hstatus, rfl, rfl⟩ | ⟨hnone, hcourse, hstatus, u, hmeanwhile, rfl⟩
      · exact ih.of_reuse rfl
      · refine ih.of_fetch hpage hnone ?_ hmeanwhile (uptimeMs_keep ..)
        simpa [Inquiry.fetches] using hcourse.ne_nil

/-- Every check is settled by the inquiries about its origin so far. -/
theorem isSettled (hasked : HasAsked network log s) {before : List Inquiry} {i : Inquiry}
    (hbefore : before ++ [i] <+: log) : i.IsSettled (about i.page.origin before) := by
  induction hasked with
  | opened hnone => simp at hbefore
  | passed _ hpassed ih => exact ih hbefore
  | @asked log s t url page status traffic hasked hparse hweb hends ih =>
      rcases List.prefix_concat_iff.mp hbefore with hlast | hearlier
      · -- The last check goes by what is remembered of those before it.
        obtain ⟨rfl, hi⟩ := List.append_inj' hlast rfl
        cases hi
        have hpage := Url.isPage_of_parse hparse hweb
        have hremembers := hasked.remembers page hpage s.uptimeMs (Nat.le_refl _)
        rcases of_canEnd_check hparse hpage hends with
          ⟨fetched, hknown, hstatus, hnothing, -⟩ | ⟨hnone, hcourse, hstatus, -⟩
        · exact Inquiry.isSettled_of_reuse (hremembers.symm.trans hknown) hnothing hstatus
        · exact Inquiry.isSettled_of_fetch (hremembers.symm.trans hnone) hcourse hstatus
      · exact ih hearlier

/-- Whatever was checked before, and whatever the network and the clock did: every check was settled
by the inquiries about its origin so far. And whatever page is checked next, the check can be gone on
with to an end, and every end of it makes the history longer by one inquiry. -/
theorem settles_checks (hasked : HasAsked network log s) :
    (∀ before i, before ++ [i] <+: log → i.IsSettled (about i.page.origin before)) ∧
    ∀ url page, Url.parse url = .ok page → page.isWeb = true →
      (∀ cancelAt clock, ((check network url).run cancelAt clock s).isSome) ∧
      ∀ status t, (check network url).CanEnd passing status t s → ∃ traffic,
        HasAsked network (log ++ [{
          url, page, status, traffic, begunAt := s.uptimeMs, endedAt := t.uptimeMs }]) t := by
  refine ⟨fun before i => hasked.isSettled, fun url page hparse hweb => ⟨?_, ?_⟩⟩
  · exact fun cancelAt clock => isSome_run_check network url cancelAt clock s
  · intro status t hends
    obtain ⟨traffic, hnoted⟩ := canEnd_check_iff.mp hends
    exact ⟨traffic, .asked hasked hparse hweb hnoted⟩

/-- Checks in a row, each some time after the one before, while nothing else goes on. -/
def row? (network : Network ν) : List (Nat × String) → Online ν → Option (List Inquiry × Online ν)
  | [], s => some ([], s)
  | (pauseMs, url) :: rest, s => do
    let page ← (Url.parse url).toOption.filter Url.isWeb
    let begunAt := s.uptimeMs + pauseMs
    let (status, _, t) ← (check network.noting url).run none 0
      ({ s with uptimeMs := begunAt }.noted [])
    let (log, last) ← row? network rest t.plain
    let traffic := t.network.2
    some ({ url, page, status, traffic, begunAt, endedAt := t.uptimeMs } :: log, last)

/-- Checks in a row are checks one after another. -/
theorem of_row? {checks : List (Nat × String)} {later : List Inquiry} {t : Online ν}
    (hasked : HasAsked network log s) (hrow : row? network checks s = some (later, t)) :
    HasAsked network (log ++ later) t := by
  induction checks generalizing log s later with
  | nil =>
      cases hrow
      rwa [List.append_nil]
  | cons next rest ih =>
      simp only [row?, Option.bind_eq_bind, Option.bind_eq_some_iff] at hrow
      obtain ⟨page, hpage, ⟨status, clock, u⟩, hrun, ⟨last, v⟩, hrest, hsame⟩ := hrow
      cases hsame
      obtain ⟨hparse, hweb⟩ := Option.filter_eq_some_iff.mp hpage
      have hpassed : Meanwhile s { s with uptimeMs := s.uptimeMs + next.1 } :=
        ⟨rfl, Nat.le_add_right ..⟩
      have hends : (check network.noting next.2).CanEnd passingNoted status
          (u.plain.noted u.network.2) ({ s with uptimeMs := s.uptimeMs + next.1 }.noted []) :=
        Activity.canEnd_of_run (fun _ _ _ t hwake => ⟨⟨hwake, rfl, Nat.le_refl _⟩, rfl⟩) hrun
      have hnext := (hasked.passed hpassed).asked (toOption_eq_some.mp hparse) hweb hends
      rw [List.append_cons]
      exact ih hnext hrest

end HasAsked

namespace Rehearsal

open HasAsked (row?)

/-- A network with a site that has rules at first, and later cannot say. -/
def network : Network SiteWatch.Rehearsal.NetworkLog :=
  SiteWatch.Rehearsal.NetworkScript.network [("http://example.com/robots.txt", [
    { reply := some { status := 200, body := some "User-agent: *\nDisallow: /private" },
      delayMs := 40 },
    { reply := some { status := 503 } }])]

/-- Checks of this site and of another one, within an hour and after it. -/
def checks : List (Nat × String) := [
  (0, "http://example.com/private/report"), (3599999, "http://example.com/private/report"),
  (0, "http://example.com/"), (0, "http://example.org/private"),
  (1, "http://example.com/private/report")]

/-- The rules are fetched, and used within the hour; they say nothing about another site, and nothing
after the hour. -/
theorem settles_checks_row :
    ∃ log t, row? network checks { network := {} } = some (log, t) ∧
      log.map (fun i => (i.status, i.fetches)) = [(.disallowed, true), (.disallowed, false),
        (.allowed, false), (.notFound, true), (.unavailable, true)] ∧
      ∀ before i, before ++ [i] <+: log → i.IsSettled (about i.page.origin before) := by
  have hoverview : (row? network checks { network := {} }).map
      (fun row => row.1.map fun i => (i.status, i.fetches)) = some [(.disallowed, true),
        (.disallowed, false), (.allowed, false), (.notFound, true), (.unavailable, true)] := by
    decide +kernel
  obtain ⟨⟨log, t⟩, hrow, hlog⟩ := Option.map_eq_some_iff.mp hoverview
  have hasked : HasAsked network ([] ++ log) t := (HasAsked.opened rfl).of_row? hrow
  exact ⟨log, t, hrow, hlog, hasked.settles_checks.1⟩

end Rehearsal

end Robots

end SiteWatch
