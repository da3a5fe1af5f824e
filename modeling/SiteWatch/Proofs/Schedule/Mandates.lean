/-
# Mandates outlast their bookkeeping

The counts of a bookkeeping grow, and a document may hold one that is too large to be read. But a
register that is read from a document has the mandates that it was written with, whatever has become
of the bookkeeping beside them.
-/

import SiteWatch.Proofs.Json.Rounding
import SiteWatch.Proofs.Store.Separation

namespace SiteWatch

open Json (ReadAs Record Writable)

/-! ## Registrations -/

namespace Registration

/-- The numbers of what an operator decides fit their types. -/
structure MandateFits (r : Registration) : Prop where
  site : r.site.Fits
  checkIntervalDays : r.checkIntervalDays < 2 ^ 32
  priority : -2147483648 ≤ r.priority ∧ r.priority ≤ 2147483647

theorem Fits.mandate {r : Registration} (hr : r.Fits) : r.MandateFits :=
  ⟨hr.site, hr.checkIntervalDays, hr.priority⟩

/-- Whether the numbers fit is decided by the mandate. -/
theorem MandateFits.congr {r q : Registration} (hr : r.MandateFits)
    (hmandate : r.mandate = q.mandate) : q.MandateFits := by
  simp only [mandate, Prod.mk.injEq] at hmandate
  obtain ⟨hsite, -, hdays, hpriority, -⟩ := hmandate
  exact ⟨hsite ▸ hr.site, hdays ▸ hr.checkIntervalDays, hpriority ▸ hr.priority⟩

theorem writable_toJson {r : Registration} (hr : r.MandateFits) (levels : Nat) :
    Writable (levels + 4) r.toJson := by
  have hpriority : Json.minInt ≤ r.priority := Int.le_trans (by decide) hr.priority.1
  have htime : ∀ o : Option Instant, Writable (levels + 3) (.ofOption (fun t => .string t.text) o) :=
    fun o => Json.Legible.writable (.ofOption fun _ _ => .string _)
  have htext : ∀ o : Option String, Writable (levels + 3) (.ofOption .string o) :=
    fun o => Json.Legible.writable (.ofOption fun _ _ => .string _)
  have hcount : ∀ n : Nat, Writable (levels + 3) (.ofNat n) := by
    intro n
    refine .int ?_
    simp only [Json.minInt]
    omega
  refine .object ?_
  simp only [Bookkeeping.members, List.forall_mem_append, List.forall_mem_cons, List.not_mem_nil,
    false_implies, implies_true, and_true]
  exact ⟨⟨(Site.legible_toJson hr.site levels).writable,
      Json.Legible.writable (.map fun _ _ => .string _), hcount _, .int hpriority,
      (r.notifications.legible_toJson _).writable⟩,
    htime _, htime _, htime _, hcount _, hcount _, htext _⟩

/-- A registration that is read has the mandate that was written. -/
theorem mandate_of_read {r read : Registration} (hr : r.MandateFits) {found : Json}
    (hfound : ReadAs r.toJson found) (hread : Registration.read found = .ok read) :
    read.mandate = r.mandate := by
  obtain ⟨members, rfl, -, hmembers⟩ := hfound.exists_get?
  have hmember : ∀ key value, Members.get? r.toJson.membersOf key = some value →
      Json.Legible 126 value → Members.get? members key = some value := by
    intro key value hvalue hlegible
    obtain ⟨other, hother, hsame⟩ := hmembers key value hvalue
    rw [hother, hlegible.eq_of_readAs hsame]
  have hsite : (Record.required "site" Site.read).Holds members r.site :=
    Record.holds_field (hmember _ _ rfl (Site.legible_toJson hr.site 123)) (Site.read_toJson hr.site)
  have htargets : (Record.defaulted "targetUrls" [] (Json.readList Json.readText)).Holds members
      r.targetUrls :=
    Record.holds_field (hmember _ _ rfl (.map fun _ _ => .string _))
      (Json.readList_map fun text _ => (Json.readText_string text).1)
  have hdays : (Record.defaulted "checkIntervalDays" 1 Json.readNat32).Holds members
      r.checkIntervalDays :=
    Record.holds_field (hmember _ _ rfl (.ofNat hr.checkIntervalDays (by decide)))
      (Json.readUnsigned_ofNat hr.checkIntervalDays _).1
  have hpriority : (Record.defaulted "priority" 0 Json.readInt32).Holds members r.priority := by
    refine Record.holds_field (hmember _ _ rfl (.int ?_ ?_)) ?_
    · exact Int.le_trans (by decide) hr.priority.1
    · exact Int.le_trans hr.priority.2 (by decide)
    · simp only [Json.readInt32, if_pos hr.priority]
  have hnotifications : (Record.defaulted "notifications" {} Preferences.read).Holds members
      r.notifications :=
    Record.holds_field (hmember _ _ rfl (r.notifications.legible_toJson _)) r.notifications.read_toJson
  have hfront := (hsite.map fun site targetUrls checkIntervalDays priority notifications history =>
    ({ site, targetUrls, checkIntervalDays, priority, notifications, history } : Registration)).seq
    htargets |>.seq hdays |>.seq hpriority |>.seq hnotifications
  obtain ⟨build, history, hbuild, -, rfl⟩ :=
    (Record.holds_of_readMembers hread : Registration.record.Holds members read).exists_of_seq
  obtain rfl := Except.ok.inj (hbuild.symm.trans hfront)
  rfl

end Registration

/-! ## Registers -/

namespace Register

/-- The mandates of a register fit. -/
def MandatesFit (register : Register) : Prop := ∀ r ∈ register, r.MandateFits

theorem Fits.mandates {register : Register} (hregister : register.Fits) : register.MandatesFit :=
  fun r hr => (hregister r hr).mandate

/-- The items of a list that is read as another are read one by one. -/
theorem map_mandate_of_mapM {register read : Register} (hregister : register.MandatesFit)
    {found : List Json} (hfound : List.Forall₂ ReadAs (register.map Registration.toJson) found)
    (hread : found.mapM Registration.read = .ok read) :
    read.map Registration.mandate = register.map Registration.mandate := by
  induction register generalizing found read with
  | nil =>
      cases hfound
      cases hread
      rfl
  | cons r rest ih =>
      rw [List.map_cons] at hfound
      obtain ⟨value, values, hvalue, hvalues, rfl⟩ := List.forall₂_cons_left_iff.mp hfound
      rw [List.mapM_cons] at hread
      simp only [bind_eq_ok] at hread
      obtain ⟨first, hfirst, others, hothers, hall⟩ := hread
      cases hall
      have hrest := ih (fun q hq => hregister q (List.mem_cons_of_mem _ hq)) hvalues hothers
      have hmandate := Registration.mandate_of_read (hregister r List.mem_cons_self) hvalue hfirst
      rw [List.map_cons, List.map_cons, hrest, hmandate]

/-- A register that is read from a document has the mandates that were written there. -/
theorem map_mandate_of_ofBytes {register read : Register} (hregister : register.MandatesFit)
    (hread : ofBytes register.document.toUTF8 = .ok read) :
    read.map Registration.mandate = register.map Registration.mandate := by
  have htext : String.fromUTF8? register.document.toUTF8 = some register.document :=
    dif_pos register.document.isValidUTF8
  have hwritable : Writable Json.maxDepth (.array (register.map Registration.toJson)) :=
    .array (List.forall_mem_map.mpr fun r hr =>
      Registration.writable_toJson (hregister r hr) 122)
  simp only [ofBytes, htext, ofDocument] at hread
  split at hread
  · cases hread
  · rename_i value hvalue
    have hfound := Json.readAs_of_read_pretty hwritable hvalue
    cases hfound with
    | array hitems =>
        simp only [Json.readList] at hread
        split at hread
        · cases hread
        · rename_i hmapM
          cases hread
          exact map_mandate_of_mapM hregister hitems hmapM

end Register

end SiteWatch
