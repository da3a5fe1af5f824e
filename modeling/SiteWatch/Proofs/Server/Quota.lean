/-
# The first minute under a quota

A bucket is kept as the moment at which it is full again, and by this it is a bucket of tokens: a request
is granted if there is a token, which it takes, and every period one comes back.

Each request that is granted puts off by a period the moment at which the bucket is full, and no request
is granted that would put it more than a whole bucket behind the request. So a client that starts with a
full bucket is granted at most the bucket and a token for every period that ends within its time, and
exactly that many if it empties the bucket at once and then asks whenever a token is back. For a quota of
so many requests a minute, told on its first minute, this is less than twice as many if a minute can be
divided by their number. If it cannot, the period is cut to whole milliseconds, tokens come back too
early, and there are more.
-/

import Mathlib.Order.Bounds.Defs
import SiteWatch.Proofs.Tables
import SiteWatch.Server.Api

namespace SiteWatch

namespace Quota

variable {quota : Quota} {bucket after : Bucket} {now start window rate : Nat} {times : List Nat}

/-- A quota of requests a minute has a period unless there are too few or too many of them. -/
theorem perMinute_eq_ok_iff :
    perMinute rate = .ok quota ↔ 1 ≤ rate ∧ rate ≤ 60000 ∧ quota = ⟨60000 / rate, rate⟩ := by
  have hperiod : 60000 / rate = 0 ↔ rate = 0 ∨ 60000 < rate := Nat.div_eq_zero_iff
  unfold perMinute
  split
  · simp only [reduceCtorEq, false_iff]
    omega
  · simp only [hperiod]
    split
    · simp only [reduceCtorEq, false_iff]
      omega
    · rw [Except.ok.injEq, eq_comm]
      exact ⟨fun hquota => ⟨by omega, by omega, hquota⟩, fun hquota => hquota.2.2⟩

/-- The same quota on a clock that counts so many ticks in a millisecond. -/
def inTicks (ticks : Nat) (quota : Quota) : Quota := ⟨quota.periodMs * ticks, quota.burst⟩

/-! ## Tokens -/

/-- How many tokens are in a bucket. -/
def tokens (quota : Quota) (now : Nat) (bucket : Bucket) : Nat :=
  (now + quota.burst * quota.periodMs - max now bucket.fullAtMs) / quota.periodMs

theorem take?_eq_some_iff :
    quota.take? now bucket = some after ↔
      max now bucket.fullAtMs + quota.periodMs ≤ now + quota.burst * quota.periodMs ∧
        after = ⟨max now bucket.fullAtMs + quota.periodMs⟩ := by
  rw [take?, Option.ite_none_right_eq_some, Option.some.injEq, eq_comm (b := after)]
  rfl

/-- The buckets of a quota are buckets of tokens. -/
structure HoldsTokens (quota : Quota) : Prop where
  full {now : Nat} {bucket : Bucket} : bucket.fullAtMs ≤ now →
    quota.tokens now bucket = quota.burst
  refused_iff {now : Nat} {bucket : Bucket} :
    quota.take? now bucket = none ↔ quota.tokens now bucket = 0
  /-- A request that is granted takes a token, and the bucket is full again in time. -/
  granted {now : Nat} {bucket after : Bucket} : quota.take? now bucket = some after →
    quota.tokens now bucket = quota.tokens now after + 1 ∧
      after.fullAtMs ≤ now + quota.burst * quota.periodMs
  /-- In a period one token comes back, if there is room for it. -/
  returned {now : Nat} {bucket : Bucket} : bucket.fullAtMs ≤ now + quota.burst * quota.periodMs →
    quota.tokens (now + quota.periodMs) bucket = min quota.burst (quota.tokens now bucket + 1)

theorem holdsTokens (hperiod : 0 < quota.periodMs) : quota.HoldsTokens where
  full hfull := by
    rw [tokens, Nat.max_eq_left hfull, Nat.add_sub_cancel_left, Nat.mul_div_cancel _ hperiod]
  refused_iff {now bucket} := by
    rw [take?, fullAfter, tokens, Nat.div_eq_zero_iff_lt hperiod, ite_eq_right_iff]
    simp only [reduceCtorEq, imp_false]
    omega
  granted {now bucket after} htake := by
    obtain ⟨hroom, rfl⟩ := take?_eq_some_iff.mp htake
    refine ⟨?_, hroom⟩
    simp only [tokens]
    rw [← Nat.add_div_right _ hperiod]
    congr 1
    omega
  returned {now bucket} hproper := by
    have hlater : quota.tokens now bucket + 1 =
        (now + quota.burst * quota.periodMs - max now bucket.fullAtMs + quota.periodMs) /
          quota.periodMs := (Nat.add_div_right _ hperiod).symm
    rw [hlater, tokens]
    by_cases hfull : bucket.fullAtMs ≤ now + quota.periodMs
    · -- The bucket is full by then, if it was not before.
      have hburst : quota.burst ≤ (now + quota.burst * quota.periodMs - max now bucket.fullAtMs +
          quota.periodMs) / quota.periodMs := by
        rw [Nat.le_div_iff_mul_le hperiod]
        omega
      rw [Nat.max_eq_left hfull, Nat.add_sub_cancel_left, Nat.mul_div_cancel _ hperiod,
        Nat.min_eq_left hburst]
    · have hsame : now + quota.periodMs + quota.burst * quota.periodMs -
          max (now + quota.periodMs) bucket.fullAtMs =
            now + quota.burst * quota.periodMs - max now bucket.fullAtMs + quota.periodMs := by
        omega
      rw [hsame, eq_comm, Nat.min_eq_right]
      refine Nat.div_le_of_le_mul ?_
      rw [Nat.mul_comm quota.periodMs]
      omega

/-! ## What is granted to a client -/

/-- The moments at which requests are granted, of requests at these moments. -/
def granted (quota : Quota) : Bucket → List Nat → List Nat
  | _, [] => []
  | bucket, now :: times =>
    match quota.take? now bucket with
    | some bucket => now :: quota.granted bucket times
    | none => quota.granted bucket times

theorem granted_cons_of_some (htake : quota.take? now bucket = some after) :
    quota.granted bucket (now :: times) = now :: quota.granted after times := by
  rw [granted, htake]

theorem granted_cons_of_none (htake : quota.take? now bucket = none) :
    quota.granted bucket (now :: times) = quota.granted bucket times := by
  rw [granted, htake]

/-- Of the requests of a client, so many are granted within a time from a moment on, for one sequence
of requests after it. -/
def Grants (quota : Quota) (bucket : Bucket) (start window count : Nat) : Prop :=
  ∃ times : List Nat, times.Pairwise (· ≤ ·) ∧ (∀ time ∈ times, start ≤ time) ∧
    (quota.granted bucket times).countP (· < start + window) = count

/-- Requests that are granted put off, by a period each, the moment at which the bucket is full, and
none puts it off by more than a whole bucket. In which order the requests come is nothing to this. -/
theorem countP_granted_mul_le (quota : Quota) (bucket : Bucket) (window : Nat)
    (hstart : ∀ time ∈ times, start ≤ time) :
    (quota.granted bucket times).countP (· < start + window) * quota.periodMs +
        max start bucket.fullAtMs ≤
      max (max start bucket.fullAtMs) (start + (window - 1) + quota.burst * quota.periodMs) := by
  induction times generalizing bucket with
  | nil =>
      rw [granted, List.countP_nil, Nat.zero_mul, Nat.zero_add]
      exact Nat.le_max_left _ _
  | cons now times ih =>
      obtain ⟨hnow, hstart⟩ := List.forall_mem_cons.mp hstart
      cases htake : quota.take? now bucket with
      | none =>
          rw [granted_cons_of_none htake]
          exact ih bucket hstart
      | some after =>
          obtain ⟨hroom, rfl⟩ := take?_eq_some_iff.mp htake
          have hlater := ih ⟨max now bucket.fullAtMs + quota.periodMs⟩ hstart
          rw [granted_cons_of_some htake, List.countP_cons, Nat.add_mul]
          simp only [decide_eq_true_eq] at hlater ⊢
          split
          · rw [Nat.one_mul]
            omega
          · rw [Nat.zero_mul]
            omega

/-- A client that starts with a full bucket is granted at most the bucket and a token for each period
that ends within the time. -/
theorem countP_granted_le (hperiod : 0 < quota.periodMs) (hfull : bucket.fullAtMs ≤ start)
    (hstart : ∀ time ∈ times, start ≤ time) :
    (quota.granted bucket times).countP (· < start + window) ≤
      quota.burst + (window - 1) / quota.periodMs := by
  have hle := countP_granted_mul_le quota bucket window hstart
  rw [Nat.add_comm quota.burst, ← Nat.add_mul_div_right _ _ hperiod,
    Nat.le_div_iff_mul_le hperiod]
  omega

/-- A client that asks at once for what is in a bucket is granted it. -/
theorem exists_granted_replicate {used count : Nat}
    (hused : max start bucket.fullAtMs = start + used * quota.periodMs)
    (hcount : used + count ≤ quota.burst) :
    ∃ after : Bucket, max start after.fullAtMs = start + (used + count) * quota.periodMs ∧
      ∀ times, quota.granted bucket (List.replicate count start ++ times) =
        List.replicate count start ++ quota.granted after times := by
  induction count generalizing used bucket with
  | zero => exact ⟨bucket, hused, fun _ => rfl⟩
  | succ count ih =>
      have hroom : (used + 1) * quota.periodMs ≤ quota.burst * quota.periodMs :=
        Nat.mul_le_mul_right _ (by omega)
      have hnext : max start (start + used * quota.periodMs + quota.periodMs) =
          start + (used + 1) * quota.periodMs := by
        rw [Nat.add_mul]
        omega
      rw [Nat.add_mul, Nat.one_mul] at hroom
      have htake : quota.take? start bucket =
          some ⟨start + used * quota.periodMs + quota.periodMs⟩ :=
        take?_eq_some_iff.mpr ⟨by omega, by rw [hused]⟩
      obtain ⟨after, hafter, hgranted⟩ := ih hnext (by omega)
      refine ⟨after, by rw [hafter, Nat.add_assoc, Nat.add_comm 1], fun times => ?_⟩
      rw [List.replicate_succ, List.cons_append, granted_cons_of_some htake, hgranted]
      rfl

/-- The moments at which tokens are back, so many from one of them on, if the first was taken at the
start. -/
def returns (quota : Quota) (start index count : Nat) : List Nat :=
  (List.range' index count).map fun turn => start + turn * quota.periodMs

theorem returns_succ (index count : Nat) :
    quota.returns start index (count + 1) =
      (start + index * quota.periodMs) :: quota.returns start (index + 1) count := rfl

/-- A client that asks whenever a token is back is granted it. -/
theorem granted_returns {index count : Nat} (hburst : 0 < quota.burst)
    (hfull : bucket.fullAtMs ≤ start + (index + quota.burst) * quota.periodMs) :
    quota.granted bucket (quota.returns start (index + 1) count) =
      quota.returns start (index + 1) count := by
  induction count generalizing index bucket with
  | zero => rfl
  | succ count ih =>
      have hroom : 1 * quota.periodMs ≤ quota.burst * quota.periodMs :=
        Nat.mul_le_mul_right _ hburst
      rw [returns_succ]
      simp only [Nat.add_mul, Nat.one_mul] at hfull hroom
      have htake : quota.take? (start + (index + 1) * quota.periodMs) bucket =
          some ⟨max (start + (index + 1) * quota.periodMs) bucket.fullAtMs + quota.periodMs⟩ :=
        take?_eq_some_iff.mpr ⟨by rw [Nat.add_mul]; omega, rfl⟩
      rw [granted_cons_of_some htake, ih]
      simp only [Nat.add_mul, Nat.one_mul]
      omega

/-- The requests of a client that asks for the whole bucket at once and then whenever a token is back,
within a time from a moment on. -/
def rush (quota : Quota) (start window : Nat) : List Nat :=
  List.replicate quota.burst start ++ quota.returns start 1 ((window - 1) / quota.periodMs)

theorem within_of_mem_rush (hperiod : 0 < quota.periodMs) (hwindow : 0 < window) {time : Nat}
    (htime : time ∈ quota.rush start window) : start ≤ time ∧ time < start + window := by
  rcases List.mem_append.mp htime with hfirst | hlater
  · rw [List.eq_of_mem_replicate hfirst]
    omega
  · obtain ⟨turn, hturn, rfl⟩ := List.mem_map.mp hlater
    rw [List.mem_range'_1] at hturn
    have hends : turn * quota.periodMs ≤ window - 1 :=
      (Nat.le_div_iff_mul_le hperiod).mp (by omega)
    omega

theorem pairwise_rush : (quota.rush start window).Pairwise (· ≤ ·) := by
  refine List.pairwise_append.mpr ⟨List.pairwise_replicate.mpr (by simp),
    List.pairwise_map.mpr ?_, fun time htime later hlater => ?_⟩
  · exact List.pairwise_le_range'.imp fun hle =>
      Nat.add_le_add_left (Nat.mul_le_mul_right _ hle) _
  · obtain ⟨turn, -, rfl⟩ := List.mem_map.mp hlater
    rw [List.eq_of_mem_replicate htime]
    exact Nat.le_add_right _ _

/-- All of these requests are granted. -/
theorem granted_rush (hburst : 0 < quota.burst) (hfull : bucket.fullAtMs ≤ start) :
    quota.granted bucket (quota.rush start window) = quota.rush start window := by
  have hunused : max start bucket.fullAtMs = start + 0 * quota.periodMs := by omega
  obtain ⟨after, hafter, hgranted⟩ :=
    exists_granted_replicate hunused (Nat.le_of_eq (Nat.zero_add quota.burst))
  have hspent : after.fullAtMs ≤ start + (0 + quota.burst) * quota.periodMs := by omega
  rw [rush, hgranted, granted_returns hburst hspent]

/-- What is granted to a client that starts with a full bucket is at most, and may be, the bucket and a
token for each period that ends within the time. -/
theorem isGreatest_grants (hperiod : 0 < quota.periodMs) (hburst : 0 < quota.burst)
    (hwindow : 0 < window) (hfull : bucket.fullAtMs ≤ start) :
    IsGreatest {count | quota.Grants bucket start window count}
      (quota.burst + (window - 1) / quota.periodMs) := by
  constructor
  · refine ⟨quota.rush start window, pairwise_rush,
      fun time htime => (within_of_mem_rush hperiod hwindow htime).1, ?_⟩
    rw [granted_rush hburst hfull, List.countP_eq_length.mpr fun time htime =>
      decide_eq_true (within_of_mem_rush hperiod hwindow htime).2]
    simp [rush, returns]
  · rintro count ⟨times, -, hstart, rfl⟩
    exact countP_granted_le hperiod hfull hstart

end Quota

/-! ## Clients of a server -/

/-- A visit of a client to the path of scrapes, with the timeline of the server at that time. -/
structure ScrapeVisit (σ : Type) where
  client : String
  timeline : Timeline σ

namespace ApiServices

variable {σ : Type} (services : ApiServices σ)

/-- The moment of a visit. -/
def momentOf (visit : ScrapeVisit σ) : Nat :=
  services.uptimeMs visit.timeline.scheduler.around.world

/-- The visits that are let through, of visits one after another. -/
def admitted (services : ApiServices σ) :
    List (String × Bucket) → List (ScrapeVisit σ) → List (ScrapeVisit σ)
  | _, [] => []
  | buckets, visit :: visits =>
    match services.limit (some visit.client) ⟨visit.timeline, buckets⟩ with
    | .ok s => visit :: services.admitted s.buckets visits
    | .error _ => services.admitted buckets visits

theorem limit_of_none {visit : ScrapeVisit σ} {buckets : List (String × Bucket)}
    (htake : services.quota.take? (services.momentOf visit)
      ((buckets.lookup visit.client).getD {}) = none) :
    services.limit (some visit.client) ⟨visit.timeline, buckets⟩ =
      .error (.ofText 429 "Too Many Requests!") := by
  rw [momentOf] at htake
  simp only [limit, htake]

theorem limit_of_some {visit : ScrapeVisit σ} {buckets : List (String × Bucket)} {bucket : Bucket}
    (htake : services.quota.take? (services.momentOf visit)
      ((buckets.lookup visit.client).getD {}) = some bucket) :
    services.limit (some visit.client) ⟨visit.timeline, buckets⟩ =
      .ok ⟨visit.timeline, (visit.client, bucket) :: buckets.filter (·.1 != visit.client)⟩ := by
  rw [momentOf] at htake
  simp only [limit, htake]

/-- Of the visits of a client those are let through that a bucket of its own grants. -/
theorem momentOf_admitted (client : String) (visits : List (ScrapeVisit σ))
    (buckets : List (String × Bucket)) :
    ((services.admitted buckets visits).filter (·.client == client)).map services.momentOf =
      services.quota.granted ((buckets.lookup client).getD {})
        ((visits.filter (·.client == client)).map services.momentOf) := by
  induction visits generalizing buckets with
  | nil => rfl
  | cons visit visits ih =>
      rw [admitted]
      cases htake : services.quota.take? (services.momentOf visit)
        ((buckets.lookup visit.client).getD {}) with
      | none =>
          rw [services.limit_of_none htake]
          by_cases hclient : visit.client = client
          · subst hclient
            rw [List.filter_cons_of_pos (by simp), List.map_cons,
              Quota.granted_cons_of_none htake]
            exact ih buckets
          · rw [List.filter_cons_of_neg (by simpa using hclient)]
            exact ih buckets
      | some bucket =>
          rw [services.limit_of_some htake]
          by_cases hclient : visit.client = client
          · subst hclient
            simp only [List.filter_cons_of_pos, beq_self_eq_true, List.map_cons,
              Quota.granted_cons_of_some htake, ih, List.lookup_cons_self, Option.getD_some]
          · have hother : (visit.client == client) = false := by simpa using hclient
            simp only [List.filter_cons, hother, Bool.false_eq_true, if_false, ih,
              lookup_cons_filter_ne (Ne.symm hclient)]

end ApiServices

namespace Quota

/-! ## The first minute -/

variable {quota : Quota} {rate ticks : Nat}

/-- However fine the clock is, as many periods end within a minute. -/
theorem refills_inTicks (hticks : 0 < ticks) (period : Nat) :
    (60000 * ticks - 1) / (period * ticks) = 59999 / period := by
  rw [Nat.mul_comm period, ← Nat.div_div_eq_div_mul]
  congr 1
  exact (Nat.div_eq_iff hticks).mpr (by omega)

/-- The tokens that come back in a minute are fewer than the rate if it divides the minute, and only
then. -/
theorem add_refills_le_iff (hrate : 1 ≤ rate) (hmost : rate ≤ 60000) :
    rate + 59999 / (60000 / rate) ≤ 2 * rate - 1 ↔ rate ∣ 60000 := by
  have hperiod : 0 < 60000 / rate := Nat.div_pos hmost hrate
  have hcut : 60000 / rate * rate ≤ 60000 := Nat.div_mul_le_self 60000 rate
  calc
    rate + 59999 / (60000 / rate) ≤ 2 * rate - 1 ↔ 59999 / (60000 / rate) < rate := by omega
    _ ↔ 59999 < rate * (60000 / rate) := Nat.div_lt_iff_lt_mul hperiod
    _ ↔ 60000 / rate * rate = 60000 := by
      rw [Nat.mul_comm]
      omega
    _ ↔ rate ∣ 60000 := ⟨fun hwhole => hwhole ▸ Nat.dvd_mul_left .., Nat.div_mul_cancel⟩

/-- What a quota of so many requests a minute grants in the first minute of a client that starts with a
full bucket. It does not depend on how fine the clock is on which the requests are told. -/
structure TellsFirstMinute (rate : Nat) (quota : Quota) : Prop where
  holdsTokens {ticks : Nat} : 0 < ticks → (quota.inTicks ticks).HoldsTokens
  /-- To a server with this quota, clients are nothing to each other. -/
  ofClient {σ : Type} (services : ApiServices σ) (client : String)
    (visits : List (ScrapeVisit σ)) (buckets : List (String × Bucket)) :
    services.quota = quota →
      ((services.admitted buckets visits).filter (·.client == client)).map services.momentOf =
        quota.granted ((buckets.lookup client).getD {})
          ((visits.filter (·.client == client)).map services.momentOf)
  isGreatest {ticks start : Nat} {bucket : Bucket} : 0 < ticks → bucket.fullAtMs ≤ start →
    IsGreatest {count | (quota.inTicks ticks).Grants bucket start (60000 * ticks) count}
      (rate + 59999 / (60000 / rate))
  /-- It is always less than twice the rate exactly if the rate divides the minute. -/
  bound_iff {ticks start : Nat} {bucket : Bucket} : 0 < ticks → bucket.fullAtMs ≤ start →
    ((∀ count, (quota.inTicks ticks).Grants bucket start (60000 * ticks) count →
      count ≤ 2 * rate - 1) ↔ rate ∣ 60000)

theorem tellsFirstMinute (hquota : perMinute rate = .ok quota) : TellsFirstMinute rate quota := by
  obtain ⟨hrate, hmost, rfl⟩ := perMinute_eq_ok_iff.mp hquota
  have hperiod {ticks : Nat} (hticks : 0 < ticks) : 0 < 60000 / rate * ticks :=
    Nat.mul_pos (Nat.div_pos hmost hrate) hticks
  have hgreatest {ticks start : Nat} {bucket : Bucket} (hticks : 0 < ticks)
      (hfull : bucket.fullAtMs ≤ start) :
      IsGreatest
        {count | (inTicks ticks ⟨60000 / rate, rate⟩).Grants bucket start (60000 * ticks) count}
        (rate + 59999 / (60000 / rate)) := by
    rw [← refills_inTicks hticks]
    exact isGreatest_grants (hperiod hticks) hrate (by omega) hfull
  exact {
    holdsTokens := fun hticks => Quota.holdsTokens (hperiod hticks)
    ofClient := by
      intro σ services client visits buckets hquota
      rw [← hquota]
      exact services.momentOf_admitted client visits buckets
    isGreatest := hgreatest
    bound_iff := by
      intro ticks start bucket hticks hfull
      rw [← add_refills_le_iff hrate hmost]
      have hmax := hgreatest hticks hfull
      exact ⟨fun hbound => hbound _ hmax.1,
        fun hle count hcount => Nat.le_trans (hmax.2 hcount) hle⟩ }

end Quota

namespace Rehearsal

/-- Ten scrapes a minute divide the minute: at most nineteen in the first one. -/
theorem tenPerMinute_tellsFirstMinute :
    Quota.perMinute 10 = .ok ⟨6000, 10⟩ ∧
      IsGreatest {count | (Quota.inTicks 1 ⟨6000, 10⟩).Grants {} 0 (60000 * 1) count} 19 := by
  have hquota : Quota.perMinute 10 = .ok ⟨6000, 10⟩ := rfl
  exact ⟨hquota, (Quota.tellsFirstMinute hquota).isGreatest Nat.one_pos (Nat.le_refl 0)⟩

/-- Seven scrapes a minute do not divide it. Seven tokens that come back every 8571 ms are back before the
minute is over, so that fourteen requests are granted in it, which is not less than twice seven. -/
theorem sevenPerMinute_exceeds :
    ¬ ∀ quota, Quota.perMinute 7 = .ok quota → ∀ times : List Nat, times.Pairwise (· ≤ ·) →
      (quota.granted {} times).countP (· < 60000) ≤ 2 * 7 - 1 := by
  intro hbound
  have hrush := hbound ⟨8571, 7⟩ rfl
    [0, 0, 0, 0, 0, 0, 0, 8571, 17142, 25713, 34284, 42855, 51426, 59997] (by decide)
  revert hrush
  decide

end Rehearsal

end SiteWatch
