/-
# Fetches

A fetch of a document, told by what is heard on the network. A request goes out for the address, and after
it only what the replies redirect it to. If the last that is heard is a success whose text is whole, then
this text has been brought, from the address of the last request; and the fetch succeeds with exactly the
document that was brought. So a document is never the text of one reply under the address of another, and
a fetch that fails, whatever the reason, has brought nothing.

The frames of a document are fetched one after another, each by a fetch of its own.
-/

import SiteWatch.Proofs.Outcome
import SiteWatch.Proofs.Timing
import SiteWatch.Proofs.Web.Traffic
import SiteWatch.Web.StaticPage

namespace SiteWatch

/-! ## What traffic brings -/

namespace Heard

variable {traffic : List Heard}

/-- The request that was sent, if that is what was heard. -/
def request? : Heard → Option WebRequest
  | sent request => some request
  | received _ => none

/-- The request that was sent last. -/
def lastRequest? (traffic : List Heard) : Option WebRequest := (traffic.filterMap request?).getLast?

/-- The document that traffic has brought: the text of the reply that was heard last, if that is a
success and breaks off nowhere, from the address of the last request. -/
def document? (traffic : List Heard) : Option WebDocument := do
  let request ← lastRequest? traffic
  let reply ← lastReply? traffic
  let html ← reply.body
  if reply.isSuccess then some ⟨request.url, html⟩ else none

theorem document?_eq_some_iff {document : WebDocument} :
    document? traffic = some document ↔ ∃ request reply, lastRequest? traffic = some request ∧
      lastReply? traffic = some reply ∧ reply.isSuccess = true ∧ reply.body = some document.html ∧
      request.url = document.url := by
  simp only [document?, Option.bind_eq_bind, Option.bind_eq_some_iff, Option.ite_none_right_eq_some,
    Option.some.injEq]
  constructor
  · rintro ⟨request, hrequest, reply, hreply, html, hbody, hsuccess, rfl⟩
    exact ⟨request, reply, hrequest, hreply, hsuccess, hbody, rfl⟩
  · rintro ⟨request, reply, hrequest, hreply, hsuccess, hbody, hurl⟩
    exact ⟨request, hrequest, reply, hreply, document.html, hbody, hsuccess, by rw [hurl]⟩

theorem lastRequest?_exchange (before : List Heard) (request : WebRequest)
    (reply : Option WebReply) :
    lastRequest? (before ++ [.sent request, .received reply]) = some request := by
  have hlast : [sent request, received reply].filterMap request? = [request] := rfl
  rw [lastRequest?, List.filterMap_append, hlast, List.getLast?_concat]

theorem lastRequest?_append (before : List Heard) {request : WebRequest}
    (hcourse : IsCourse request traffic) :
    lastRequest? (before ++ traffic) = lastRequest? traffic := by
  have hsome : (traffic.filterMap request?).getLast?.isSome := by
    cases hcourse <;> simp [request?]
  rw [lastRequest?, List.filterMap_append, List.getLast?_append, Option.or_of_isSome hsome, lastRequest?]

end Heard

/-! ## Where an answer comes from -/

namespace Network

open Heard (IsCourse CameOut lastRequest?)

variable {ν : Type} (network : Network ν)

/-- An answer comes from the address that was asked last. -/
def ComesFrom (result : Except FetchFault (Url × WebReply)) (s : ν × List Heard) : Prop :=
  ∀ url reply, result = .ok (url, reply) → (lastRequest? s.2).map (·.url) = some url

theorem comesFrom_error (fault : FetchFault) (s : ν × List Heard) : ComesFrom (.error fault) s := by
  intro url reply hanswer
  cases hanswer

theorem abides_follow_comesFrom (left : Nat) (request : WebRequest) (s : ν × List Heard) :
    (network.noting.follow left request).run.Abides Spared (fun _ => True) ComesFrom s := by
  induction left using Nat.strongRecOn generalizing request s with
  | ind left ih =>
      rw [run_follow]
      have hexchange := (network.abides_exchange request s).mono (fun _ _ => trivial) fun _ _ ht => ht
      refine hexchange.bind fun reply t ht => ?_
      cases reply with
      | none => exact comesFrom_error _ t
      | some reply =>
          cases hnext : request.redirected? reply with
          | none =>
              simp only [hnext]
              rintro url answer ⟨⟩
              rw [ht, Heard.lastRequest?_exchange, Option.map_some]
          | some next =>
              simp only [hnext]
              cases left with
              | zero => exact comesFrom_error _ t
              | succ left =>
                  dsimp only
                  split
                  · exact ih left (Nat.lt_succ_self left) next t
                  · exact comesFrom_error _ t

/-- What is sent is one request and what it is redirected to, and an answer comes from the address that
was asked last. -/
theorem exists_traffic_of_send {limitMs : Nat} {request : WebRequest} {s t : ν × List Heard}
    {result : Except FetchFault (Url × WebReply)}
    (hends : (network.noting.send limitMs request).run.CanEnd (.leaving Prod.snd) result t s) :
    ∃ traffic, t.2 = s.2 ++ traffic ∧ IsCourse request traffic ∧ CameOut traffic result ∧
      ∀ url reply, result = .ok (url, reply) → (lastRequest? traffic).map (·.url) = some url := by
  obtain ⟨traffic, htraffic, hcourse, hcame⟩ := network.hasEnded_of_send hends
  have habides : (network.noting.send limitMs request).run.Abides Spared (fun _ => True) ComesFrom s :=
    (network.abides_follow_comesFrom maxRedirects request s).orLate fun t _ => comesFrom_error _ t
  have hfrom : ComesFrom result t := habides.of_canEnd (fun _ _ _ _ _ hspared => hspared.2) hends
  refine ⟨traffic, htraffic, hcourse, hcame, fun url reply hresult => ?_⟩
  rw [← Heard.lastRequest?_append s.2 hcourse, ← htraffic]
  exact hfrom url reply hresult

theorem shadows_ask (limitMs : Nat) (agent address : String) :
    Activity.Shadows Prod.fst (network.noting.ask limitMs agent address).run
      (network.ask limitMs agent address).run := by
  unfold ask
  cases WebRequest.ofAddress .get address agent with
  | error fault => exact .done _
  | ok request => exact network.shadows_send limitMs request

end Network

namespace Online

variable {ν : Type} {tab : Nat} {s t u : Online (ν × List Heard)}

/-- In the meantime this was heard, and a tab was left as it was. -/
structure Hears (tab : Nat) (traffic : List Heard) (s t : Online (ν × List Heard)) : Prop where
  heard : t.network.2 = s.network.2 ++ traffic
  spared : t.tabs[tab]? = s.tabs[tab]?

theorem Hears.refl (tab : Nat) (s : Online (ν × List Heard)) : Hears tab [] s s :=
  ⟨(List.append_nil _).symm, rfl⟩

theorem Hears.trans {first last : List Heard} (hfirst : Hears tab first s t)
    (hlast : Hears tab last t u) : Hears tab (first ++ last) s u where
  heard := by rw [hlast.heard, hfirst.heard, List.append_assoc]
  spared := hlast.spared.trans hfirst.spared

/-- Waits end as they may, and others leave the notes and a tab alone. -/
abbrev sparing (tab : Nat) : Meantime (Online (ν × List Heard)) :=
  .leaving fun online => (online.network.2, online.tabs[tab]?)

theorem halts_onNetwork {α : Type} {work : Activity ν α} (hwork : work.Halts) :
    (onNetwork work).Halts := by
  apply Activity.halts_within _ _ _ hwork
  · exact fun _ _ => rfl
  · exact fun _ _ _ => rfl
  · exact fun _ => rfl

end Online

/-! ## Fetches of documents -/

namespace StaticPage

open Heard (IsCourse CameOut lastReply? lastRequest? document? document?_eq_some_iff)
open Online (Hears sparing)

variable {ν : Type} (network : Network ν) {limitMs tab : Nat} {agent : String}

/-- A fetch of the document at an address, with the traffic that it caused. -/
structure Fetch where
  address : String
  traffic : List Heard
  result : Outcome WebDocument

/-- A fetch asks for the document at its address and goes where it is redirected to. It succeeds with
the document that was brought. -/
structure Fetch.IsSound (agent : String) (fetch : Fetch) : Prop where
  unsent : ∀ fault, WebRequest.ofAddress .get fetch.address agent = .error fault → fetch.traffic = []
  sent : ∀ request, WebRequest.ofAddress .get fetch.address agent = .ok request →
    IsCourse request fetch.traffic
  brings : ∀ document, fetch.result = .ok document ↔ document? fetch.traffic = some document
  fails : ∀ cause, fetch.result = .error cause → ∃ reason, cause = .networkFailed reason

/-- What an answer of the network comes to. -/
def conclude (address : String) : Except FetchFault (Url × WebReply) → Outcome WebDocument
  | .error fault => .error (failureOf address fault)
  | .ok (url, reply) => documentOf address url reply

theorem run_fetch (limitMs : Nat) (agent address : String) :
    (fetch network limitMs agent address).run =
      (Online.onNetwork (network.ask limitMs agent address).run).bind fun answer =>
        .done (conclude address answer) := by
  unfold fetch
  rw [Attempt.run_bind_ofActivity]
  congr 1
  funext answer
  cases answer <;> rfl

theorem networkFailed_of_conclude {address : String} {answer : Except FetchFault (Url × WebReply)}
    {cause : Failure} (hcause : conclude address answer = .error cause) :
    ∃ reason, cause = .networkFailed reason := by
  cases answer with
  | error fault =>
      cases hcause
      cases fault <;> exact ⟨_, rfl⟩
  | ok answer =>
      simp only [conclude, documentOf] at hcause
      split at hcause
      · cases hcause
        exact ⟨_, rfl⟩
      · split at hcause
        · cases hcause
        · cases hcause
          exact ⟨_, rfl⟩

theorem documentOf_eq_ok_iff {address : String} {url : Url} {reply : WebReply}
    {document : WebDocument} : documentOf address url reply = .ok document ↔
      reply.isSuccess = true ∧ reply.body = some document.html ∧ url = document.url := by
  unfold documentOf
  cases hsuccess : reply.isSuccess with
  | false => simp
  | true =>
      cases hbody : reply.body with
      | none => simp
      | some html =>
          obtain ⟨kept, text⟩ := document
          simp [and_comm]

/-- What the answer of the network comes to is the document that its traffic has brought. -/
theorem conclude_eq_ok_iff {address : String} {answer : Except FetchFault (Url × WebReply)}
    {traffic : List Heard} (hcame : CameOut traffic answer)
    (hfrom : ∀ url reply, answer = .ok (url, reply) → (lastRequest? traffic).map (·.url) = some url)
    (document : WebDocument) :
    conclude address answer = .ok document ↔ document? traffic = some document := by
  rw [document?_eq_some_iff]
  cases answer with
  | error fault =>
      refine ⟨nofun, ?_⟩
      rintro ⟨last, reply, -, hreply, hsuccess, -⟩
      obtain ⟨request, next, hnext⟩ := hcame reply hreply
      have hstatus := WebRequest.status_of_redirected hnext
      simp [WebReply.isSuccess] at hsuccess
      omega
  | ok answer =>
      obtain ⟨url, reply⟩ := answer
      obtain ⟨request, hrequest, hurl⟩ := Option.map_eq_some_iff.mp (hfrom url reply rfl)
      have hreply : lastReply? traffic = some reply := hcame
      rw [conclude, documentOf_eq_ok_iff, hrequest, hreply]
      constructor
      · rintro ⟨hsuccess, hbody, rfl⟩
        exact ⟨request, reply, rfl, rfl, hsuccess, hbody, hurl⟩
      · rintro ⟨_, _, ⟨⟩, ⟨⟩, hsuccess, hbody, hsame⟩
        exact ⟨hsuccess, hbody, hurl.symm.trans hsame⟩

/-- Whatever is fetched, its traffic tells what came of it. -/
theorem exists_fetch {address : String} {result : Outcome WebDocument} {s t : Online (ν × List Heard)}
    (hends : (fetch network.noting limitMs agent address).run.CanEnd (sparing tab) result t s) :
    ∃ traffic, Hears tab traffic s t ∧ Fetch.IsSound agent ⟨address, traffic, result⟩ := by
  rw [run_fetch] at hends
  obtain ⟨answer, u, hasked, rfl, rfl⟩ := Activity.canEnd_bind.mp hends
  have hspared : u.tabs[tab]? = s.tabs[tab]? := by
    have hkeeps : (Online.onNetwork (network.noting.ask limitMs agent address).run).Keeps
        fun online => online.tabs[tab]? := by
      refine Activity.keeps_within_of_apart ?_ _
      exact fun _ _ => rfl
    exact hkeeps.view_eq (fun _ _ _ _ _ hmid => congrArg Prod.snd hmid.2) hasked
  have hfails : ∀ cause, conclude address answer = .error cause →
      ∃ reason, cause = .networkFailed reason := fun cause => networkFailed_of_conclude
  have hinner := Online.of_canEnd_onNetwork
    (fun _ _ _ _ _ hmid => ⟨hmid.1, congrArg Prod.fst hmid.2⟩) hasked
  unfold Network.ask at hinner
  cases hrequest : WebRequest.ofAddress .get address agent with
  | error fault =>
      rw [hrequest] at hinner
      obtain ⟨rfl, hsame⟩ := hinner
      refine ⟨[], ⟨by rw [← hsame, List.append_nil], hspared⟩, fun _ _ => rfl, ?_, ?_, hfails⟩
      · exact fun request hok => nomatch hrequest.symm.trans hok
      · exact fun document => ⟨nofun, nofun⟩
  | ok request =>
      rw [hrequest] at hinner
      obtain ⟨traffic, htraffic, hcourse, hcame, hfrom⟩ := network.exists_traffic_of_send hinner
      refine ⟨traffic, ⟨htraffic, hspared⟩, ?_, ?_, conclude_eq_ok_iff hcame hfrom, hfails⟩
      · exact fun fault herror => nomatch hrequest.symm.trans herror
      · rintro other hok
        cases hrequest.symm.trans hok
        exact hcourse

theorem halts_fetch (limitMs : Nat) (agent address : String) :
    (fetch network limitMs agent address).run.Halts := by
  rw [run_fetch]
  refine Activity.halts_bind (Online.halts_onNetwork ?_) fun _ => Activity.halts_done _
  unfold Network.ask
  cases WebRequest.ofAddress .get address agent with
  | error fault => exact Activity.halts_done _
  | ok request => exact Activity.halts_orLate _ _ _

theorem shadows_fetch (limitMs : Nat) (agent address : String) :
    Activity.Shadows Online.plain (fetch network.noting limitMs agent address).run
      (fetch network limitMs agent address).run := by
  rw [run_fetch, run_fetch]
  refine Activity.Shadows.bind ?_ fun _ => .done _
  apply (network.shadows_ask limitMs agent address).within
  · exact fun _ => rfl
  · exact fun _ _ => rfl
  · exact fun _ => rfl

-- The laws above say all there is to say; unfolded, a fetch would swamp the unifier.
attribute [local irreducible] fetch

/-! ## Fetches of a frame -/

theorem run_fetchFrame (limitMs : Nat) (agent : String) (url : Url) :
    (fetchFrame network limitMs agent url).run =
      (fetch network limitMs agent url.text).run.bind fun result =>
        .done (result.map fun document => ⟨document, agent⟩) := by
  unfold fetchFrame
  exact Attempt.run_bind_pure _ _

/-- The frame that a selector names is fetched from the address that it has in the document. -/
theorem run_fetchFrameOf (limitMs : Nat) (agent : String) (document : WebDocument)
    (selector : String) :
    (fetchFrameOf network limitMs agent document selector).run =
      match Html.frameAddressOf document.html document.url selector with
      | .error cause => .done (.error cause)
      | .ok none => .done (.ok none)
      | .ok (some url) => (fetch network limitMs agent url.text).run.bind fun result =>
          .done (result.map fun document => some ⟨document, agent⟩) := by
  unfold fetchFrameOf
  cases Html.frameAddressOf document.html document.url selector with
  | error cause => rfl
  | ok found =>
      cases found with
      | none => rfl
      | some url =>
          have hframe : (do return some (← fetchFrame network limitMs agent url) :
              Attempt (Online ν) (Option StaticFrame)).run =
                (fetchFrame network limitMs agent url).run.bind fun frame => .done (frame.map some) :=
            Attempt.run_bind_pure _ _
          refine hframe.trans ?_
          rw [run_fetchFrame, Activity.bind_assoc]
          congr 1
          funext result
          cases result <;> rfl

/-- How a frame is fetched that may have been found, and then has an address. -/
def FetchesFrame (agent : String) (traffic : List Heard) (found : Outcome (Option Url))
    (outcome : Outcome (Option StaticFrame)) : Prop :=
  match found with
  | .error cause => traffic = [] ∧ outcome = .error cause
  | .ok none => traffic = [] ∧ outcome = .ok none
  | .ok (some url) => ∃ result, Fetch.IsSound agent ⟨url.text, traffic, result⟩ ∧
      outcome = result.map fun document => some ⟨document, agent⟩

theorem exists_fetchesFrame {document : WebDocument} {selector : String}
    {outcome : Outcome (Option StaticFrame)} {s t : Online (ν × List Heard)}
    (hends : (fetchFrameOf network.noting limitMs agent document selector).run.CanEnd (sparing tab)
      outcome t s) :
    ∃ traffic, Hears tab traffic s t ∧ FetchesFrame agent traffic
      (Html.frameAddressOf document.html document.url selector) outcome := by
  rw [run_fetchFrameOf] at hends
  cases hfound : Html.frameAddressOf document.html document.url selector with
  | error cause =>
      rw [hfound] at hends
      obtain ⟨rfl, rfl⟩ := hends
      exact ⟨[], .refl tab s, rfl, rfl⟩
  | ok found =>
      rw [hfound] at hends
      cases found with
      | none =>
          obtain ⟨rfl, rfl⟩ := hends
          exact ⟨[], .refl tab s, rfl, rfl⟩
      | some url =>
          obtain ⟨result, u, hfetch, rfl, rfl⟩ := Activity.canEnd_bind.mp hends
          obtain ⟨traffic, hears, hsound⟩ := exists_fetch network hfetch
          exact ⟨traffic, hears, result, hsound, rfl⟩

theorem halts_fetchFrameOf (limitMs : Nat) (agent : String) (document : WebDocument)
    (selector : String) : (fetchFrameOf network limitMs agent document selector).run.Halts := by
  rw [run_fetchFrameOf]
  split
  · exact Activity.halts_done _
  · exact Activity.halts_done _
  · exact Activity.halts_bind (halts_fetch network limitMs agent _) fun _ => Activity.halts_done _

theorem shadows_fetchFrameOf (limitMs : Nat) (agent : String) (document : WebDocument)
    (selector : String) :
    Activity.Shadows Online.plain (fetchFrameOf network.noting limitMs agent document selector).run
      (fetchFrameOf network limitMs agent document selector).run := by
  rw [run_fetchFrameOf, run_fetchFrameOf]
  split
  · exact .done _
  · exact .done _
  · exact (shadows_fetch network limitMs agent _).bind fun _ => .done _

/-! ## Fetches of all frames of a document -/

/-- Fetches of the documents at some addresses, one after another. -/
structure AreFetches (agent : String) (urls : List Url) (fetches : List Fetch) : Prop where
  addresses : fetches.map (·.address) = urls.map (·.text)
  sound : ∀ fetch ∈ fetches, fetch.IsSound agent

/-- The frames that fetches have come to. -/
def framesOf (agent : String) (fetches : List Fetch) : List StaticFrame :=
  (fetches.filterMap (·.result.toOption)).map fun document => ⟨document, agent⟩

/-- How all frames are fetched that have been found. -/
def FetchesFrames (agent : String) (traffic : List Heard) (found : Outcome (List Url))
    (outcome : Outcome (List StaticFrame)) : Prop :=
  match found with
  | .error cause => traffic = [] ∧ outcome = .error cause
  | .ok urls => ∃ fetches, AreFetches agent urls fetches ∧ traffic = fetches.flatMap (·.traffic) ∧
      outcome = .ok (framesOf agent fetches)

/-- Frames are fetched one after another; one that cannot be had is left out. -/
theorem fetchFrames_cons (limitMs : Nat) (agent : String) (url : Url) (rest : List Url) :
    fetchFrames network limitMs agent (url :: rest) =
      (fetch network limitMs agent url.text).run.bind fun result =>
        (fetchFrames network limitMs agent rest).bind fun frames =>
          .done ((result.toOption.map fun document => ⟨document, agent⟩).toList ++ frames) := by
  rw [fetchFrames, Attempt.ok?, run_fetchFrame, Activity.bind_assoc, Activity.bind_assoc]
  congr 1
  funext result
  cases result <;> rfl

/-- The frames of a document are those of the fetches that succeed, in their order. -/
theorem exists_fetches {urls : List Url} {frames : List StaticFrame} {s t : Online (ν × List Heard)}
    (hends : (fetchFrames network.noting limitMs agent urls).CanEnd (sparing tab) frames t s) :
    ∃ fetches, Hears tab (fetches.flatMap (·.traffic)) s t ∧ AreFetches agent urls fetches ∧
      frames = framesOf agent fetches := by
  induction urls generalizing s frames with
  | nil =>
      obtain ⟨rfl, rfl⟩ := hends
      exact ⟨[], .refl tab s, ⟨rfl, List.forall_mem_nil _⟩, rfl⟩
  | cons url rest ih =>
      rw [fetchFrames_cons] at hends
      obtain ⟨result, u, hfetch, hends⟩ := Activity.canEnd_bind.mp hends
      obtain ⟨later, v, hrest, hframes, hsame⟩ := Activity.canEnd_bind.mp hends
      subst hsame
      obtain ⟨traffic, hears, hsound⟩ := exists_fetch network hfetch
      obtain ⟨fetches, hlater, hfetches, rfl⟩ := ih hrest
      refine ⟨⟨url.text, traffic, result⟩ :: fetches, hears.trans hlater, ⟨?_, ?_⟩, ?_⟩
      · exact congrArg _ hfetches.addresses
      · exact List.forall_mem_cons.mpr ⟨hsound, hfetches.sound⟩
      · rw [← hframes]
        cases result <;> rfl

/-- All frames of a document are fetched, and that some cannot be had is not held against the others. -/
theorem exists_fetchesFrames {urls : List Url} {outcome : Outcome (List StaticFrame)}
    {s t : Online (ν × List Heard)}
    (hends : (Attempt.ofActivity (fetchFrames network.noting limitMs agent urls)).run.CanEnd
      (sparing tab) outcome t s) :
    ∃ traffic, Hears tab traffic s t ∧ FetchesFrames agent traffic (.ok urls) outcome := by
  obtain ⟨frames, u, hfetched, rfl, rfl⟩ := Activity.canEnd_bind.mp hends
  obtain ⟨fetches, hears, hfetches, rfl⟩ := exists_fetches network hfetched
  exact ⟨_, hears, fetches, hfetches, rfl, rfl⟩

theorem halts_fetchFrames (limitMs : Nat) (agent : String) (urls : List Url) :
    (fetchFrames network limitMs agent urls).Halts := by
  induction urls with
  | nil => exact Activity.halts_done _
  | cons url rest ih =>
      rw [fetchFrames_cons]
      refine Activity.halts_bind (halts_fetch network limitMs agent url.text) fun result => ?_
      exact Activity.halts_bind ih fun _ => Activity.halts_done _

theorem shadows_fetchFrames (limitMs : Nat) (agent : String) (urls : List Url) :
    Activity.Shadows Online.plain (fetchFrames network.noting limitMs agent urls)
      (fetchFrames network limitMs agent urls) := by
  induction urls with
  | nil => exact .done _
  | cons url rest ih =>
      rw [fetchFrames_cons, fetchFrames_cons]
      refine (shadows_fetch network limitMs agent url.text).bind fun result => ?_
      exact ih.bind fun _ => .done _

end StaticPage

end SiteWatch
