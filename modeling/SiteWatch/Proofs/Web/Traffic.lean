/-
# Traffic

A network with an ear to it: what is sent and what comes back is noted, and nothing else is changed.
Whoever asks for a document sends one request and then only what the replies redirect it to. A deadline
may cut this short, but only while a request waits for its reply; so the last reply, if it is the last
that was heard, tells how it all came out.
-/

import SiteWatch.Proofs.Execution
import SiteWatch.Web.Online

namespace SiteWatch

namespace Activity

variable {σ τ α β : Type}

/-! ## Work that abides by a law -/

/-- Whatever ends the waits of some work, and whatever of a certain kind others do to the state in the
meantime: the state obeys a law after every wait, and if the work ends, it ends like this. -/
def Abides (disturbs : σ → σ → Prop) (law : σ → Prop) (post : α → σ → Prop) :
    Activity σ α → σ → Prop
  | done value, s => post value s
  | act update next, s => (next s).Abides disturbs law post (update s)
  | wait _ next, s => ∀ wake elapsed t, disturbs s t →
      law t ∧ (next wake elapsed).Abides disturbs law post t

section

variable {disturbs : σ → σ → Prop} {law : σ → Prop} {post : α → σ → Prop} {s : σ}

theorem Abides.mono {weakerLaw : σ → Prop} {weaker : α → σ → Prop} {work : Activity σ α}
    (hwork : work.Abides disturbs law post s) (hlaw : ∀ t, law t → weakerLaw t)
    (hpost : ∀ a t, post a t → weaker a t) : work.Abides disturbs weakerLaw weaker s := by
  induction work generalizing s with
  | done value => exact hpost value s hwork
  | act update next ih => exact ih s hwork
  | wait pause next ih =>
      intro wake elapsed t ht
      obtain ⟨hlegal, hnext⟩ := hwork wake elapsed t ht
      exact ⟨hlaw t hlegal, ih wake elapsed hnext⟩

theorem Abides.bind {last : β → σ → Prop} {first : Activity σ α} {andThen : α → Activity σ β}
    (hfirst : first.Abides disturbs law post s)
    (hthen : ∀ a t, post a t → (andThen a).Abides disturbs law last t) :
    (first.bind andThen).Abides disturbs law last s := by
  induction first generalizing s with
  | done value => exact hthen value s hfirst
  | act update next ih => exact ih s hfirst
  | wait pause next ih =>
      intro wake elapsed t ht
      obtain ⟨hlegal, hnext⟩ := hfirst wake elapsed t ht
      exact ⟨hlegal, ih wake elapsed hnext⟩

/-- A deadline cuts work short where the law holds. -/
theorem Abides.orLate {late : α} {left : Nat} {work : Activity σ α}
    (hwork : work.Abides disturbs law post s) (hlate : ∀ t, law t → post late t) :
    (work.orLate late left).Abides disturbs law post s := by
  induction work generalizing left s with
  | done value => exact hwork
  | act update next ih => exact ih s hwork
  | wait pause next ih =>
      unfold Activity.orLate
      dsimp only
      split
      · intro wake elapsed t ht
        obtain ⟨hlegal, hnext⟩ := hwork wake elapsed t ht
        exact ⟨hlegal, ih wake elapsed hnext⟩
      · intro wake elapsed t ht
        obtain ⟨hlegal, hnext⟩ := hwork wake elapsed t ht
        refine ⟨hlegal, ?_⟩
        cases wake with
        | due => exact hlate t hlegal
        | ready | cancelled => exact ih _ elapsed hnext

/-- Work that leaves a part of the state alone abides by what this part says, where others leave it
alone too. -/
theorem Keeps.abides {view : σ → τ} (hdisturbs : ∀ s t, disturbs s t → view t = view s)
    {work : Activity σ α} (hwork : work.Keeps view) (hlaw : ∀ t, view t = view s → law t)
    (hpost : ∀ a t, view t = view s → post a t) : work.Abides disturbs law post s := by
  induction work generalizing s with
  | done value => exact hpost value s rfl
  | act update next ih =>
      refine ih s (hwork.2 s) ?_ ?_
      · rwa [hwork.1 s]
      · rwa [hwork.1 s]
  | wait pause next ih =>
      intro wake elapsed t ht
      have hview := hdisturbs s t ht
      refine ⟨hlaw t hview, ih wake elapsed (hwork wake elapsed) ?_ ?_⟩
      · rwa [hview]
      · rwa [hview]

/-- Work that abides by a law ends as it should. -/
theorem Abides.of_canEnd {meantime : Meantime σ}
    (hmeantime : ∀ pause wake elapsed s t, meantime pause wake elapsed s t → disturbs s t)
    {work : Activity σ α} (hwork : work.Abides disturbs law post s) {value : α} {t : σ}
    (hends : work.CanEnd meantime value t s) : post value t := by
  induction work generalizing s with
  | done answer =>
      obtain ⟨rfl, rfl⟩ := hends
      exact hwork
  | act update next ih => exact ih s hwork hends
  | wait pause next ih =>
      obtain ⟨wake, elapsed, u, hu, hends⟩ := hends
      exact ih wake elapsed (hwork wake elapsed u (hmeantime _ _ _ _ _ hu)).2 hends

end

/-! ## Work that does more on the side -/

/-- Work that does to a part of the state what other work does to it, and more to the rest. -/
inductive Shadows (get : τ → σ) : Activity τ α → Activity σ α → Prop where
  | done (value : α) : Shadows get (.done value) (.done value)
  | act {update : τ → τ} {plain : σ → σ} {next : τ → Activity τ α} {plainNext : σ → Activity σ α}
      (hupdate : ∀ t, get (update t) = plain (get t))
      (hnext : ∀ t, Shadows get (next t) (plainNext (get t))) :
      Shadows get (.act update next) (.act plain plainNext)
  | wait {pause : Pause σ} {next : Wake → Nat → Activity τ α} {plainNext : Wake → Nat → Activity σ α}
      (hnext : ∀ wake elapsed, Shadows get (next wake elapsed) (plainNext wake elapsed)) :
      Shadows get (.wait ⟨pause.after, fun t => pause.ready (get t), pause.heeds⟩ next)
        (.wait pause plainNext)
  | aside {update : τ → τ} {next : τ → Activity τ α} {plain : Activity σ α}
      (hupdate : ∀ t, get (update t) = get t) (hnext : ∀ t, Shadows get (next t) plain) :
      Shadows get (.act update next) plain

namespace Shadows

variable {get : τ → σ} {work : Activity τ α} {plain : Activity σ α}

theorem bind {andThen : α → Activity τ β} {plainThen : α → Activity σ β}
    (hwork : Shadows get work plain) (hthen : ∀ a, Shadows get (andThen a) (plainThen a)) :
    Shadows get (work.bind andThen) (plain.bind plainThen) := by
  induction hwork with
  | done value => exact hthen value
  | act hupdate _ ih => exact .act hupdate ih
  | wait _ ih => exact .wait ih
  | aside hupdate _ ih => exact .aside hupdate ih

/-- Something on the side in the end. -/
theorem bind_aside {andThen : α → Activity τ α} (hwork : Shadows get work plain)
    (hthen : ∀ a, Shadows get (andThen a) (.done a)) : Shadows get (work.bind andThen) plain := by
  induction hwork with
  | done value => exact hthen value
  | act hupdate _ ih => exact .act hupdate ih
  | wait _ ih => exact .wait ih
  | aside hupdate _ ih => exact .aside hupdate ih

theorem orLate (hwork : Shadows get work plain) (late : α) (left : Nat) :
    Shadows get (work.orLate late left) (plain.orLate late left) := by
  induction hwork generalizing left with
  | done value => exact .done value
  | act hupdate _ ih => exact .act hupdate fun t => ih t left
  | aside hupdate _ ih => exact .aside hupdate fun t => ih t left
  | @wait pause next plainNext hnext ih =>
      simp only [Activity.orLate]
      split
      · exact .wait fun wake elapsed => ih wake elapsed _
      · refine @wait _ _ _ get { pause with after := some left } _ _ fun wake elapsed => ?_
        cases wake with
        | due => exact .done late
        | ready | cancelled => exact ih _ elapsed _

/-- Work on a part of the state. -/
theorem of_within {set : σ → τ → τ} (hset : ∀ s t, get (set s t) = s) (plain : Activity σ α) :
    Shadows get (Activity.within get set plain) plain := by
  induction plain with
  | done value => exact .done value
  | act update next ih => exact .act (fun t => hset _ t) fun t => ih (get t)
  | wait pause next ih => exact .wait ih

theorem within {ρ π : Type} {outer : ρ → π} {inner : ρ → τ} {plainInner : π → σ}
    {set : τ → ρ → ρ} {plainSet : σ → π → π} (hinner : ∀ r, plainInner (outer r) = get (inner r))
    (hset : ∀ t r, outer (set t r) = plainSet (get t) (outer r)) (hwork : Shadows get work plain)
    (hget : ∀ r, plainSet (plainInner r) r = r) :
    Shadows outer (Activity.within inner set work) (Activity.within plainInner plainSet plain) := by
  induction hwork with
  | done value => exact .done value
  | @act update plain next plainNext hupdate _ ih =>
      refine .act (fun r => ?_) fun r => ?_
      · rw [hset, hupdate, hinner]
      · rw [hinner]
        exact ih (inner r)
  | @wait pause next plainNext _ ih =>
      have hready : (fun r => pause.ready (get (inner r))) =
          fun r => pause.ready (plainInner (outer r)) := funext fun r => by rw [hinner]
      simp only [Activity.within, hready]
      exact @wait _ _ _ outer ⟨pause.after, fun r => pause.ready (plainInner r), pause.heeds⟩ _ _ ih
  | aside hupdate _ ih =>
      refine .aside (fun r => ?_) fun r => ih (inner r)
      rw [hset, hupdate, ← hinner, hget]

/-- The executions of work are those of the work that does more on the side. -/
theorem canEnd_iff {outer : Meantime τ} {inner : Meantime σ}
    (houter : ∀ (pause : Pause σ) wake elapsed t u,
      outer ⟨pause.after, fun t => pause.ready (get t), pause.heeds⟩ wake elapsed t u →
        inner pause wake elapsed (get t) (get u))
    (hinner : ∀ (pause : Pause σ) wake elapsed t v, inner pause wake elapsed (get t) v →
      ∃ u, get u = v ∧
        outer ⟨pause.after, fun t => pause.ready (get t), pause.heeds⟩ wake elapsed t u)
    (hwork : Shadows get work plain) {value : α} {v : σ} {t : τ} :
    plain.CanEnd inner value v (get t) ↔
      ∃ u, get u = v ∧ work.CanEnd outer value u t := by
  induction hwork generalizing t with
  | done answer =>
      constructor
      · rintro ⟨rfl, rfl⟩
        exact ⟨t, rfl, rfl, rfl⟩
      · rintro ⟨u, rfl, rfl, rfl⟩
        exact ⟨rfl, rfl⟩
  | act hupdate _ ih =>
      simp only [CanEnd, ← hupdate]
      exact ih t
  | @wait pause next plainNext _ ih =>
      constructor
      · rintro ⟨wake, elapsed, w, hw, hends⟩
        obtain ⟨u, rfl, hu⟩ := hinner pause wake elapsed t w hw
        obtain ⟨last, hlast, hends⟩ := (ih wake elapsed).mp hends
        exact ⟨last, hlast, wake, elapsed, u, hu, hends⟩
      · rintro ⟨last, hlast, wake, elapsed, u, hu, hends⟩
        exact ⟨wake, elapsed, get u, houter pause wake elapsed t u hu,
          (ih wake elapsed).mpr ⟨last, hlast, hends⟩⟩
  | @aside update next plain hupdate _ ih =>
      simp only [CanEnd]
      rw [← hupdate t]
      exact ih t

end Shadows

end Activity

/-! ## What is heard -/

/-- What redirects is neither a success nor a refusal. -/
theorem WebRequest.status_of_redirected {request next : WebRequest} {reply : WebReply}
    (hnext : request.redirected? reply = some next) : 300 ≤ reply.status ∧ reply.status < 400 := by
  simp only [WebRequest.redirected?, Option.bind_eq_bind, Option.bind_eq_some_iff] at hnext
  obtain ⟨location, -, url, -, hnext⟩ := hnext
  split at hnext
  · rename_i hold
    simp at hold
    omega
  · split at hnext
    · rename_i hnew
      simp at hnew
      omega
    · cases hnext

/-- What can be noticed of the traffic on a network. -/
inductive Heard where
  | sent (request : WebRequest)
  /-- A reply came back, or it is certain that none will. -/
  | received (reply : Option WebReply)

namespace Heard

/-- The reply that was heard last, if it was the last that was heard. -/
def lastReply? (traffic : List Heard) : Option WebReply :=
  match traffic.getLast? with
  | some (received reply) => reply
  | _ => none

/-- A request, and what comes of it: nothing yet, a reply, or a reply that redirects it. -/
inductive IsCourse : WebRequest → List Heard → Prop where
  | sent (request : WebRequest) : IsCourse request [.sent request]
  | received (request : WebRequest) (reply : Option WebReply) :
      IsCourse request [.sent request, .received reply]
  | redirected {request next : WebRequest} {reply : WebReply} {rest : List Heard}
      (hnext : request.redirected? reply = some next) (hrest : IsCourse next rest) :
      IsCourse request (.sent request :: .received (some reply) :: rest)

theorem IsCourse.ne_nil {request : WebRequest} {traffic : List Heard}
    (hcourse : IsCourse request traffic) : traffic ≠ [] := by
  cases hcourse <;> simp

theorem lastReply?_append (before : List Heard) {traffic : List Heard} (htraffic : traffic ≠ []) :
    lastReply? (before ++ traffic) = lastReply? traffic := by
  have hlast := List.getLast?_eq_some_getLast htraffic
  rw [lastReply?, List.getLast?_append, hlast, Option.some_or, lastReply?, hlast]

/-- Whether traffic came out like this. A reply that comes to nothing is one that redirects. -/
def CameOut (traffic : List Heard) : Except FetchFault (Url × WebReply) → Prop
  | .ok (_, reply) => lastReply? traffic = some reply
  | .error _ => ∀ reply, lastReply? traffic = some reply →
      ∃ request next : WebRequest, request.redirected? reply = some next

theorem cameOut_append (before : List Heard) {traffic : List Heard} (htraffic : traffic ≠ [])
    {result : Except FetchFault (Url × WebReply)} :
    CameOut (before ++ traffic) result ↔ CameOut traffic result := by
  cases result <;> simp only [CameOut, lastReply?_append before htraffic]

end Heard

namespace Network

open Heard (IsCourse CameOut lastReply? lastReply?_append cameOut_append)

variable {ν : Type}

/-- Make a note. -/
def note (heard : Heard) (s : ν × List Heard) : ν × List Heard := (s.1, s.2 ++ [heard])

/-- The network, with notes of its traffic. -/
def noting (network : Network ν) : Network (ν × List Heard) where
  exchange request :=
    (Activity.modify (note (.sent request))).bind fun _ =>
      (Activity.within Prod.fst (fun inner s => (inner, s.2)) (network.exchange request)).bind
        fun reply => (Activity.modify (note (.received reply))).bind fun _ => .done reply

/-- Others leave the notes alone. -/
def Spared (s t : ν × List Heard) : Prop := t.2 = s.2

/-- A request has no reply yet. -/
def IsPending (request : WebRequest) (heard : List Heard) (s : ν × List Heard) : Prop :=
  ∃ traffic, s.2 = heard ++ traffic ∧ IsCourse request traffic ∧ lastReply? traffic = none

/-- A request came out like this. -/
def HasEnded (request : WebRequest) (heard : List Heard)
    (result : Except FetchFault (Url × WebReply)) (s : ν × List Heard) : Prop :=
  ∃ traffic, s.2 = heard ++ traffic ∧ IsCourse request traffic ∧ CameOut traffic result

theorem IsPending.hasEnded {request : WebRequest} {heard : List Heard} {s : ν × List Heard}
    (hpending : IsPending request heard s) (fault : FetchFault) :
    HasEnded request heard (.error fault) s := by
  obtain ⟨traffic, hheard, hcourse, hnone⟩ := hpending
  refine ⟨traffic, hheard, hcourse, fun reply hreply => ?_⟩
  rw [hnone] at hreply
  cases hreply

variable (network : Network ν)

theorem abides_exchange (request : WebRequest) (s : ν × List Heard) :
    (network.noting.exchange request).Abides Spared
      (fun t => t.2 = s.2 ++ [.sent request])
      (fun reply t => t.2 = s.2 ++ [.sent request, .received reply]) s := by
  have hkeeps : (Activity.within Prod.fst (fun inner (s : ν × List Heard) => (inner, s.2))
      (network.exchange request)).Keeps Prod.snd := by
    apply Activity.keeps_within_of_apart
    exact fun _ _ => rfl
  have hinner : (Activity.within Prod.fst (fun inner (s : ν × List Heard) => (inner, s.2))
      (network.exchange request)).Abides Spared (fun t => t.2 = s.2 ++ [.sent request])
      (fun _ t => t.2 = s.2 ++ [.sent request]) (note (.sent request) s) :=
    hkeeps.abides (fun _ _ hspared => hspared) (fun _ ht => ht) fun _ _ ht => ht
  refine hinner.bind fun reply t ht => ?_
  change t.2 ++ [_] = _
  rw [ht, List.append_assoc]
  rfl

theorem run_follow (left : Nat) (request : WebRequest) :
    (network.follow left request).run = (network.exchange request).bind fun reply =>
      match reply with
      | none => .done (.error (.unanswered request.url))
      | some reply =>
        match request.redirected? reply, left with
        | none, _ => .done (.ok (request.url, reply))
        | some _, 0 => .done (.error (.astray request.url))
        | some next, left + 1 =>
          if next.url.isWeb then (network.follow left next).run
          else .done (.error (.unusable (some next.url))) := by
  have hlift : ∀ {α β : Type} (work : Activity ν α) (andThen : α → Fetching ν β),
      (ExceptT.lift work >>= andThen).run = work.bind fun a => (andThen a).run :=
    fun work andThen => Activity.bind_assoc work _ _
  rw [follow, hlift]
  congr 1
  funext reply
  cases reply with
  | none => rfl
  | some reply =>
      dsimp only
      cases request.redirected? reply with
      | none => rfl
      | some next =>
          cases left with
          | zero => rfl
          | succ left =>
              dsimp only
              split <;> rfl

section

variable {request next : WebRequest} {heard : List Heard} {s t : ν × List Heard}

/-- A request ends with its reply. -/
theorem hasEnded_received (reply : Option WebReply)
    (ht : t.2 = heard ++ [.sent request, .received reply])
    {result : Except FetchFault (Url × WebReply)}
    (hresult : CameOut [.sent request, .received reply] result) :
    HasEnded request heard result t :=
  ⟨_, ht, .received request reply, hresult⟩

/-- What a redirected request is up to is what the request is up to. -/
theorem exists_course_redirected {reply : WebReply} (hnext : request.redirected? reply = some next)
    (ht : t.2 = heard ++ [.sent request, .received (some reply)]) {P : List Heard → Prop}
    (hP : ∀ rest, rest ≠ [] → P rest → P (.sent request :: .received (some reply) :: rest))
    (hcourse : ∃ rest, s.2 = t.2 ++ rest ∧ IsCourse next rest ∧ P rest) :
    ∃ traffic, s.2 = heard ++ traffic ∧ IsCourse request traffic ∧ P traffic := by
  obtain ⟨rest, hrest, hcourse, hp⟩ := hcourse
  refine ⟨_, ?_, .redirected hnext hcourse, hP rest hcourse.ne_nil hp⟩
  rw [hrest, ht, List.append_assoc]
  rfl

end

theorem abides_follow (left : Nat) (request : WebRequest) (s : ν × List Heard) :
    (network.noting.follow left request).run.Abides Spared (IsPending request s.2)
      (HasEnded request s.2) s := by
  have hexchange := fun request s => (network.abides_exchange request s).mono
    (fun t ht => (⟨_, ht, .sent request, rfl⟩ : IsPending request s.2 t)) fun _ _ ht => ht
  induction left using Nat.strongRecOn generalizing request s with
  | ind left ih =>
      rw [run_follow]
      refine (hexchange request s).bind fun reply t ht => ?_
      cases reply with
      | none =>
          refine hasEnded_received none ht ?_
          exact fun _ hreply => nomatch hreply
      | some reply =>
          cases hnext : request.redirected? reply with
          | none =>
              simp only [hnext]
              exact hasEnded_received (some reply) ht rfl
          | some next =>
              have hfault : ∀ fault,
                  CameOut [.sent request, .received (some reply)] (.error fault) := by
                rintro fault _ ⟨⟩
                exact ⟨request, next, hnext⟩
              simp only [hnext]
              cases left with
              | zero => exact hasEnded_received (some reply) ht (hfault _)
              | succ left =>
                  dsimp only
                  split
                  · apply (ih left (Nat.lt_succ_self left) next t).mono
                    · exact fun u => exists_course_redirected hnext ht fun rest hrest =>
                        (lastReply?_append [.sent request, .received (some reply)] hrest).trans
                    · exact fun result u => exists_course_redirected hnext ht fun rest hrest =>
                        (cameOut_append [.sent request, .received (some reply)] hrest).mpr
                  · exact hasEnded_received (some reply) ht (hfault _)

/-- What is sent is one request, and what its replies redirect it to. -/
theorem hasEnded_of_send {limitMs : Nat} {request : WebRequest} {s t : ν × List Heard}
    {result : Except FetchFault (Url × WebReply)}
    (hends : (network.noting.send limitMs request).run.CanEnd (.leaving Prod.snd) result t s) :
    HasEnded request s.2 result t := by
  have habides : (network.noting.send limitMs request).run.Abides Spared
      (IsPending request s.2) (HasEnded request s.2) s :=
    (network.abides_follow maxRedirects request s).orLate fun _ hpending =>
      hpending.hasEnded (.late request.url)
  exact habides.of_canEnd (fun _ _ _ _ _ hspared => hspared.2) hends

/-! ## Notes change nothing -/

theorem shadows_exchange (request : WebRequest) :
    Activity.Shadows Prod.fst (network.noting.exchange request) (network.exchange request) := by
  refine .aside (fun _ => rfl) fun _ => ?_
  apply Activity.Shadows.bind_aside
  · apply Activity.Shadows.of_within
    exact fun _ _ => rfl
  · exact fun reply => .aside (fun _ => rfl) fun _ => .done reply

theorem shadows_follow (left : Nat) (request : WebRequest) :
    Activity.Shadows Prod.fst (network.noting.follow left request).run
      (network.follow left request).run := by
  induction left using Nat.strongRecOn generalizing request with
  | ind left ih =>
      rw [run_follow, run_follow]
      refine (network.shadows_exchange request).bind fun reply => ?_
      cases reply with
      | none => exact .done _
      | some reply =>
          cases hnext : request.redirected? reply with
          | none =>
              simp only [hnext]
              exact .done _
          | some next =>
              simp only [hnext]
              cases left with
              | zero => exact .done _
              | succ left =>
                  dsimp only
                  split
                  · exact ih left (Nat.lt_succ_self left) next
                  · exact .done _

theorem shadows_send (limitMs : Nat) (request : WebRequest) :
    Activity.Shadows Prod.fst (network.noting.send limitMs request).run
      (network.send limitMs request).run :=
  (network.shadows_follow maxRedirects request).orLate _ limitMs

theorem shadows_askUrl (limitMs : Nat) (agent : String) (url : Url) :
    Activity.Shadows Prod.fst (network.noting.askUrl limitMs agent url).run
      (network.askUrl limitMs agent url).run := by
  unfold askUrl
  cases WebRequest.ofUrl .get url agent with
  | error fault => exact .done _
  | ok request => exact network.shadows_send limitMs request

end Network

/-! ## A machine with notes of its traffic -/

namespace Online

variable {ν α : Type}

/-- The machine on a network with notes of its traffic. -/
def noted (heard : List Heard) (online : Online ν) : Online (ν × List Heard) where
  network := (online.network, heard)
  files := online.files
  tabs := online.tabs
  rules := online.rules
  sites := online.sites
  now := online.now
  uptimeMs := online.uptimeMs

/-- The machine, without the notes. -/
def plain (online : Online (ν × List Heard)) : Online ν where
  network := online.network.1
  files := online.files
  tabs := online.tabs
  rules := online.rules
  sites := online.sites
  now := online.now
  uptimeMs := online.uptimeMs

/-- Work on the network alone is executed on the network alone. -/
theorem of_canEnd_onNetwork {meantime : Meantime (Online (ν × List Heard))}
    (hmeantime : ∀ pause wake elapsed s t, meantime pause wake elapsed s t →
      pause.endsBy wake elapsed t = true ∧ t.network.2 = s.network.2)
    {work : Activity (ν × List Heard) α} {value : α} {s t : Online (ν × List Heard)}
    (hends : (onNetwork work).CanEnd meantime value t s) :
    work.CanEnd (.leaving Prod.snd) value t.network s.network := by
  refine hends.of_within ?_ fun _ _ => rfl
  intro pause wake elapsed v w hmid
  obtain ⟨hwake, hspared⟩ := hmeantime _ _ _ _ _ hmid
  exact ⟨by cases wake <;> exact hwake, hspared⟩

/-- The executions of work are those of the work with notes of its traffic, where nobody else makes
notes. -/
theorem canEnd_iff_noted {outer : Meantime (Online (ν × List Heard))} {inner : Meantime (Online ν)}
    (houter : ∀ (pause : Pause (Online ν)) wake elapsed v w,
      outer ⟨pause.after, fun v => pause.ready v.plain, pause.heeds⟩ wake elapsed v w →
        inner pause wake elapsed v.plain w.plain)
    (hinner : ∀ (pause : Pause (Online ν)) wake elapsed v w, inner pause wake elapsed v.plain w →
      outer ⟨pause.after, fun v => pause.ready v.plain, pause.heeds⟩ wake elapsed v
        (w.noted v.network.2))
    {work : Activity (Online (ν × List Heard)) α} {plainWork : Activity (Online ν) α}
    (hwork : Activity.Shadows plain work plainWork) {value : α} {s t : Online ν} :
    plainWork.CanEnd inner value t s ↔
      ∃ traffic, work.CanEnd outer value (t.noted traffic) (s.noted []) := by
  have hiff : plainWork.CanEnd inner value t (s.noted []).plain ↔
      ∃ u : Online (ν × List Heard), u.plain = t ∧ work.CanEnd outer value u (s.noted []) := by
    refine hwork.canEnd_iff houter ?_
    exact fun pause wake elapsed v w hmid => ⟨w.noted v.network.2, rfl, hinner _ _ _ _ _ hmid⟩
  refine hiff.trans ?_
  constructor
  · rintro ⟨u, rfl, hends⟩
    exact ⟨u.network.2, hends⟩
  · rintro ⟨traffic, hends⟩
    exact ⟨t.noted traffic, rfl, hends⟩

end Online

namespace Attempt

/-- Attempts one after another, each of which does more on the side. -/
theorem shadows_bind {σ τ α β : Type} {get : τ → σ} {first : Attempt τ α} {plainFirst : Attempt σ α}
    {andThen : α → Attempt τ β} {plainThen : α → Attempt σ β}
    (hfirst : Activity.Shadows get first.run plainFirst.run)
    (hthen : ∀ a, Activity.Shadows get (andThen a).run (plainThen a).run) :
    Activity.Shadows get (first >>= andThen).run (plainFirst >>= plainThen).run := by
  refine Activity.Shadows.bind hfirst fun outcome => ?_
  cases outcome with
  | error cause => exact .done _
  | ok a => exact hthen a

end Attempt

end SiteWatch
