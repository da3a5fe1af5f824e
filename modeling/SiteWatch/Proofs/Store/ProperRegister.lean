/-
# Registers in order

A register is in order when its ids differ, its intervals are at least a day and the pages that an
operator named lie within their sites. Whether it is says nothing about bookkeeping, so rounds cannot
disturb it; and since what is read from its document has the mandates that were written, order
survives from one process to the next, whatever the counts have grown to.
-/

import SiteWatch.Proofs.Schedule.Mandates
import SiteWatch.Proofs.Store.Contents
import SiteWatch.Site.Matching
import SiteWatch.Url.Parse

namespace SiteWatch

/-- The interval of a registration is at least a day, and every page that an operator named is that
of an address which the site covers. -/
structure Registration.IsProper (r : Registration) : Prop where
  checkIntervalDays : 1 ≤ r.checkIntervalDays
  targetUrls : ∀ address ∈ r.targetUrls, ∃ url, Url.parse address = .ok url ∧
    r.site.covers url = true

theorem Registration.IsProper.congr {r q : Registration} (hr : r.IsProper)
    (hmandate : r.mandate = q.mandate) : q.IsProper := by
  simp only [mandate, Prod.mk.injEq] at hmandate
  obtain ⟨hsite, htargets, hdays, -, -⟩ := hmandate
  exact ⟨hdays ▸ hr.checkIntervalDays, by rw [← hsite, ← htargets]; exact hr.targetUrls⟩

/-- Whether a site is switched on is no matter. -/
theorem Registration.IsProper.switch {r : Registration} (hr : r.IsProper) (enabled : Bool) :
    { r with site := { r.site with enabled } : Registration }.IsProper :=
  ⟨hr.checkIntervalDays, hr.targetUrls⟩

theorem Registration.MandateFits.switch {r : Registration} (hr : r.MandateFits) (enabled : Bool) :
    { r with site := { r.site with enabled } : Registration }.MandateFits :=
  ⟨⟨hr.site.instructions, hr.site.options, hr.site.updatedAt⟩, hr.checkIntervalDays, hr.priority⟩

namespace Register

/-- No two registrations share an id, and each is proper by itself. -/
structure IsProper (register : Register) : Prop where
  ids : (register.map Registration.id).Nodup
  entries : ∀ r ∈ register, r.IsProper

variable {register other : Register} {change : Registration → Registration} {id : String}

theorem isProper_nil : IsProper [] := ⟨by simp, by simp⟩

/-- Order is a matter of mandates. -/
theorem IsProper.congr (hregister : register.IsProper)
    (hmandates : register.map Registration.mandate = other.map Registration.mandate) :
    other.IsProper where
  ids := map_id_of_mandate hmandates ▸ hregister.ids
  entries := by
    intro q hq
    have hmem : q.mandate ∈ register.map Registration.mandate :=
      hmandates ▸ List.mem_map_of_mem hq
    obtain ⟨r, hr, hmandate⟩ := List.mem_map.mp hmem
    exact (hregister.entries r hr).congr hmandate

theorem MandatesFit.congr (hregister : register.MandatesFit)
    (hmandates : register.map Registration.mandate = other.map Registration.mandate) :
    other.MandatesFit := by
  intro q hq
  have hmem : q.mandate ∈ register.map Registration.mandate :=
    hmandates ▸ List.mem_map_of_mem hq
  obtain ⟨r, hr, hmandate⟩ := List.mem_map.mp hmem
  exact (hregister r hr).congr hmandate

/-! ## Changes to one registration -/

theorem forall_mem_amend {p : Registration → Prop} (hregister : ∀ r ∈ register, p r)
    (hchange : ∀ r, p r → p (change r)) : ∀ r ∈ register.amend change id, p r := by
  induction register with
  | nil => exact hregister
  | cons r rest ih =>
      obtain ⟨hr, hrest⟩ := List.forall_mem_cons.mp hregister
      rw [amend]
      split
      · exact List.forall_mem_cons.mpr ⟨hchange r hr, hrest⟩
      · exact List.forall_mem_cons.mpr ⟨hr, ih hrest⟩

theorem map_id_amend (hchange : ∀ r, r.id = id → (change r).id = id) :
    (register.amend change id).map Registration.id = register.map Registration.id := by
  induction register with
  | nil => rfl
  | cons r rest ih =>
      rw [amend]
      split
      · rename_i hid
        rw [List.map_cons, List.map_cons, hchange r (beq_iff_eq.mp hid), beq_iff_eq.mp hid]
      · rw [List.map_cons, List.map_cons, ih]

theorem IsProper.amend (hregister : register.IsProper)
    (hid : ∀ r, r.id = id → (change r).id = id) (hchange : ∀ r, r.IsProper → (change r).IsProper) :
    (register.amend change id).IsProper where
  ids := by
    rw [map_id_amend hid]
    exact hregister.ids
  entries := forall_mem_amend hregister.entries hchange

theorem IsProper.upsert (hregister : register.IsProper) {r : Registration} (hr : r.IsProper) :
    (register.upsert r).IsProper := by
  rw [Register.upsert]
  split
  · exact hregister.amend (fun _ _ => rfl) fun _ _ => hr
  · rename_i hnew
    refine ⟨?_, List.forall_mem_append.mpr ⟨hregister.entries, List.forall_mem_singleton.mpr hr⟩⟩
    rw [List.map_append, List.nodup_append]
    refine ⟨hregister.ids, by simp, ?_⟩
    intro own hown new hnew' hsame
    obtain ⟨q, hq, rfl⟩ := List.mem_map.mp hown
    rw [List.map_singleton, List.mem_singleton] at hnew'
    apply hnew
    rw [has, List.any_eq_true]
    exact ⟨q, hq, beq_iff_eq.mpr (hsame.trans hnew')⟩

theorem MandatesFit.upsert (hregister : register.MandatesFit) {r : Registration}
    (hr : r.MandateFits) : (register.upsert r).MandatesFit := by
  rw [Register.upsert]
  split
  · exact forall_mem_amend hregister fun _ _ => hr
  · exact List.forall_mem_append.mpr ⟨hregister, List.forall_mem_singleton.mpr hr⟩

theorem Fits.upsert (hregister : register.Fits) {r : Registration} (hr : r.Fits) :
    (register.upsert r).Fits := by
  rw [Register.upsert]
  split
  · exact forall_mem_amend hregister fun _ _ => hr
  · exact List.forall_mem_append.mpr ⟨hregister, List.forall_mem_singleton.mpr hr⟩

end Register

/-! ## Files in order -/

/-- The content of a file, if it has one, was written as that of a proper register. -/
def IsInOrder (content : Option ByteArray) : Prop :=
  ∀ bytes, content = some bytes → ∃ register : Register,
    bytes = register.document.toUTF8 ∧ register.IsProper ∧ register.MandatesFit

theorem isInOrder_of_spares {path : FilePath} {files after : Files}
    (hspares : Files.Spares path files after) (horder : IsInOrder (files.content? path)) :
    IsInOrder (after.content? path) := by
  rcases hspares with hsame | hgone
  · rwa [hsame]
  · simp [IsInOrder, hgone]

namespace RegisterFile

variable {file : RegisterFile} {files after : Files} {register : Register} {parent : FilePath}
  {name : String}

/-- What is read from a file in order is in order, and fits. -/
theorem isProper_of_read (horder : IsInOrder (files.content? (FilePath.ofText file.path)))
    (hread : file.read files = .ok register) : register.IsProper ∧ register.Fits := by
  refine ⟨?_, (read_eq_ok.mp hread).fits⟩
  simp only [read] at hread
  split at hread
  · rename_i bytes hbytes
    obtain ⟨written, rfl, hproper, hfit⟩ := horder bytes (Files.content?_of_read hbytes)
    exact hproper.congr (Register.map_mandate_of_ofBytes hfit hread).symm
  · cases hread
    exact Register.isProper_nil
  · cases hread

/-- A file stays in order when a proper register is written to it, or any register elsewhere. -/
theorem isInOrder_write (hpath : FilePath.ofText file.path = parent ++ [name]) {above : FilePath}
    (hown : above = parent → register.IsProper ∧ register.MandatesFit)
    (horder : IsInOrder (files.content? (above ++ [name]))) :
    IsInOrder ((file.write register files).2.content? (above ++ [name])) := by
  by_cases hsame : above = parent
  · subst hsame
    cases hwrite : file.write register files with
    | mk outcome after =>
        cases outcome with
        | ok =>
            have hcontent := content?_of_write hwrite
            rw [hpath] at hcontent
            rw [hcontent]
            rintro _ ⟨⟩
            exact ⟨register, rfl, hown rfl⟩
        | error cause => rwa [content?_of_write_error hpath hwrite]
  · exact isInOrder_of_spares (spares_write hpath hsame register files) horder

/-- A change that keeps proper registrations proper keeps files in order. -/
theorem isInOrder_amend (hpath : FilePath.ofText file.path = parent ++ [name]) {id : String}
    {change : Registration → Registration} (hid : ∀ r, (change r).id = r.id)
    (hproper : ∀ r, r.IsProper → (change r).IsProper)
    (hfit : ∀ r, r.MandateFits → (change r).MandateFits) {above : FilePath}
    (horder : IsInOrder (files.content? (above ++ [name]))) :
    IsInOrder ((file.amend id change files).2.content? (above ++ [name])) := by
  simp only [amend]
  split
  · exact horder
  · rename_i register hread
    split
    · apply isInOrder_write hpath _ horder
      rintro rfl
      rw [← hpath] at horder
      obtain ⟨hregister, hfits⟩ := isProper_of_read horder hread
      exact ⟨hregister.amend (fun r hr => (hid r).trans hr) hproper,
        Register.forall_mem_amend hfits.mandates hfit⟩
    · exact horder

/-- A proper registration that fits keeps files in order. -/
theorem isInOrder_upsert (hpath : FilePath.ofText file.path = parent ++ [name]) {r : Registration}
    (hr : r.IsProper) (hfit : r.MandateFits) {above : FilePath}
    (horder : IsInOrder (files.content? (above ++ [name]))) :
    IsInOrder ((file.upsert r files).2.content? (above ++ [name])) := by
  simp only [upsert]
  split
  · exact horder
  · rename_i register hread
    apply isInOrder_write hpath _ horder
    rintro rfl
    rw [← hpath] at horder
    obtain ⟨hregister, hfits⟩ := isProper_of_read horder hread
    exact ⟨hregister.upsert hr, hfits.mandates.upsert hfit⟩

/-! ## Requests that fail -/

/-- A change that fails, or that finds no registration, leaves the file as it is. -/
theorem content?_amend (hpath : FilePath.ofText file.path = parent ++ [name]) {id : String}
    {change : Registration → Registration} {outcome : Outcome Bool}
    (hamend : file.amend id change files = (outcome, after)) (hfailed : outcome ≠ .ok true) :
    after.content? (parent ++ [name]) = files.content? (parent ++ [name]) := by
  simp only [amend] at hamend
  split at hamend
  · cases hamend
    rfl
  · split at hamend
    · rename_i register hread hhas
      cases hwrite : file.write (register.amend change id) files with
      | mk written last =>
          rw [hwrite] at hamend
          cases hamend
          cases written with
          | ok => exact absurd rfl hfailed
          | error cause => exact content?_of_write_error hpath hwrite
    · cases hamend
      rfl

/-- A registration that cannot be written spares every file of the same name. -/
theorem spares_upsert (hpath : FilePath.ofText file.path = parent ++ [name]) {r : Registration}
    {cause : Failure} (hupsert : file.upsert r files = (.error cause, after)) (above : FilePath) :
    Files.Spares (above ++ [name]) files after := by
  simp only [upsert] at hupsert
  split at hupsert
  · cases hupsert
    exact .refl _ files
  · rename_i register _
    by_cases hsame : above = parent
    · subst hsame
      exact .inl (content?_of_write_error hpath hupsert)
    · have hspared := spares_write hpath hsame (register.upsert r) files
      rwa [hupsert] at hspared

theorem content?_upsert (hpath : FilePath.ofText file.path = parent ++ [name]) {r : Registration}
    {cause : Failure} (hupsert : file.upsert r files = (.error cause, after)) :
    after.content? (parent ++ [name]) = files.content? (parent ++ [name]) := by
  simp only [upsert] at hupsert
  split at hupsert
  · cases hupsert
    rfl
  · exact content?_of_write_error hpath hupsert

end RegisterFile

end SiteWatch
