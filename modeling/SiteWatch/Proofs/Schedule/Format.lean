/-
# Registrations as JSON

A registration whose numbers fit their types and whose moments can be shown is read back from its
JSON form, and so is a whole register from its document. And every register that is read fits.
-/

import SiteWatch.Proofs.Site.Format
import SiteWatch.Store.RegisterFile

namespace SiteWatch

open Json (Legible Record)

/-! ## Preferences -/

theorem Preferences.read_toJson (p : Preferences) : Preferences.read p.toJson = .ok p := by
  have hnews : (Record.defaulted "onNewContent" true Json.readBool).Holds p.toJson.membersOf
      p.onNewContent := Record.holds_field rfl rfl
  have herror : (Record.defaulted "onError" false Json.readBool).Holds p.toJson.membersOf
      p.onError := Record.holds_field rfl rfl
  have hall : Preferences.record.Holds p.toJson.membersOf p := (hnews.map _).seq herror
  exact hall.readMembers (by decide) (by simp [Json.membersOf, toJson])

theorem Preferences.legible_toJson (p : Preferences) (levels : Nat) :
    Legible (levels + 1) p.toJson := by
  refine .object ?_
  simp only [List.forall_mem_cons, List.not_mem_nil, false_implies, implies_true, and_true]
  exact ⟨.bool _, .bool _⟩

/-! ## Bookkeeping -/

/-- The numbers of a bookkeeping fit their types, and its moments can be shown. -/
structure Bookkeeping.Fits (b : Bookkeeping) : Prop where
  lastCheckedAt : ∀ t ∈ b.lastCheckedAt, t.IsShown
  nextCheckAt : ∀ t ∈ b.nextCheckAt, t.IsShown
  lastSuccessAt : ∀ t ∈ b.lastSuccessAt, t.IsShown
  consecutiveFailures : b.consecutiveFailures < 2 ^ 32
  totalRuns : b.totalRuns < 2 ^ 64

/-- A bookkeeping is read from any object whose members end with its own. -/
theorem Bookkeeping.holds_append {b : Bookkeeping} (hb : b.Fits) {before : Members}
    (hbefore : ∀ key ∈ b.members.map Prod.fst, before.get? key = none) :
    Bookkeeping.record.Holds (before ++ b.members) b := by
  have hown : ∀ key value, b.members.get? key = some value →
      Members.get? (before ++ b.members) key = some value := by
    intro key value hvalue
    have hkey := List.mem_map_of_mem (f := Prod.fst) (Members.mem_of_get? hvalue)
    rw [Members.get?_append, hbefore key hkey, Option.none_or, hvalue]
  have hinstant : ∀ key (o : Option Instant),
      b.members.get? key = some (.ofOption (fun t => .string t.text) o) →
      (∀ t ∈ o, t.IsShown) → (Record.optional key Json.readInstant).Holds (before ++ b.members) o :=
    fun key o hmember ho => Record.holds_field (hown key _ hmember)
      (Json.readOptional_ofOption fun t ht => (ho t ht).readsBack)
  have hchecked := hinstant "lastCheckedAt" _ rfl hb.lastCheckedAt
  have hnext := hinstant "nextCheckAt" _ rfl hb.nextCheckAt
  have hsuccess := hinstant "lastSuccessAt" _ rfl hb.lastSuccessAt
  have hfailures : (Record.defaulted "consecutiveFailures" 0 Json.readNat32).Holds
      (before ++ b.members) b.consecutiveFailures :=
    Record.holds_field (hown _ _ rfl) (Json.readUnsigned_ofNat hb.consecutiveFailures _).1
  have hruns : (Record.defaulted "totalRuns" 0 Json.readNat64).Holds (before ++ b.members)
      b.totalRuns :=
    Record.holds_field (hown _ _ rfl) (Json.readUnsigned_ofNat hb.totalRuns _).1
  have hhash : (Record.optional "lastContentHash" Json.readText).Holds (before ++ b.members)
      b.lastContentHash :=
    Record.holds_field (hown _ _ rfl)
      (Json.readOptional_ofOption fun text _ => Json.readText_string text)
  exact (hchecked.map _).seq hnext |>.seq hsuccess |>.seq hfailures |>.seq hruns |>.seq hhash

theorem Bookkeeping.gives_fits : Bookkeeping.record.Gives Bookkeeping.Fits := by
  refine .seq (.seq (.seq (.seq (.seq (.map
    (Record.gives_optional fun _ _ => isShown_of_readInstant) ?_)
    (Record.gives_optional fun _ _ => isShown_of_readInstant))
    (Record.gives_optional fun _ _ => isShown_of_readInstant))
    (Record.gives_defaulted (fun _ _ => Json.lt_of_readUnsigned) (by decide)))
    (Record.gives_defaulted (fun _ _ => Json.lt_of_readUnsigned) (by decide)))
    (Record.gives_true _)
  exact fun _ hchecked _ hnext _ hsuccess _ hfailures _ hruns _ _ =>
    ⟨hchecked, hnext, hsuccess, hfailures, hruns⟩

theorem Bookkeeping.legible_of_mem_members {b : Bookkeeping} (hb : b.Fits) (levels : Nat) :
    ∀ member ∈ b.members, Legible levels member.2 := by
  simp only [members, List.forall_mem_cons, List.not_mem_nil, false_implies, implies_true, and_true]
  exact ⟨.ofOption fun _ _ => .string _, .ofOption fun _ _ => .string _,
    .ofOption fun _ _ => .string _, .ofNat hb.consecutiveFailures (by decide),
    .ofNat hb.totalRuns (Nat.le_refl 64), .ofOption fun _ _ => .string _⟩

/-! ## Registrations -/

/-- The numbers of a registration fit their types, and its moments can be shown. -/
structure Registration.Fits (r : Registration) : Prop where
  site : r.site.Fits
  checkIntervalDays : r.checkIntervalDays < 2 ^ 32
  priority : -2147483648 ≤ r.priority ∧ r.priority ≤ 2147483647
  history : r.history.Fits

theorem Registration.read_toJson {r : Registration} (hr : r.Fits) :
    Registration.read r.toJson = .ok r := by
  have hsite : (Record.required "site" Site.read).Holds r.toJson.membersOf r.site :=
    Record.holds_field rfl (Site.read_toJson hr.site)
  have htargets : (Record.defaulted "targetUrls" [] (Json.readList Json.readText)).Holds
      r.toJson.membersOf r.targetUrls :=
    Record.holds_field rfl (Json.readList_map fun text _ => (Json.readText_string text).1)
  have hdays : (Record.defaulted "checkIntervalDays" 1 Json.readNat32).Holds r.toJson.membersOf
      r.checkIntervalDays :=
    Record.holds_field rfl (Json.readUnsigned_ofNat hr.checkIntervalDays _).1
  have hpriority : (Record.defaulted "priority" 0 Json.readInt32).Holds r.toJson.membersOf
      r.priority := Record.holds_field rfl (by simp only [Json.readInt32, if_pos hr.priority])
  have hnotifications : (Record.defaulted "notifications" {} Preferences.read).Holds
      r.toJson.membersOf r.notifications := Record.holds_field rfl r.notifications.read_toJson
  have hhistory : Bookkeeping.record.Holds r.toJson.membersOf r.history :=
    Bookkeeping.holds_append hr.history (by simp [Bookkeeping.members])
  have hall : Registration.record.Holds r.toJson.membersOf r :=
    (hsite.map _).seq htargets |>.seq hdays |>.seq hpriority |>.seq hnotifications
      |>.seq hhistory
  exact hall.readMembers (by decide) (by simp [Json.membersOf, toJson, Bookkeeping.members])

theorem Registration.fits_of_read {r : Registration} {value : Json}
    (hread : Registration.read value = .ok r) : r.Fits := by
  have hpriority : ∀ v n, Json.readInt32 v = .ok n → -2147483648 ≤ n ∧ n ≤ 2147483647 := by
    intro v n hn
    unfold Json.readInt32 at hn
    split at hn
    · split at hn
      · cases hn
        assumption
      · cases hn
    · cases hn
  refine Record.Gives.of_read ?_ hread
  refine .seq (.seq (.seq (.seq (.seq (.map
    (Record.gives_required fun _ _ => Site.fits_of_read) ?_) (Record.gives_true _))
    (Record.gives_defaulted (fun _ _ => Json.lt_of_readUnsigned) (by decide)))
    (Record.gives_defaulted hpriority (by decide))) (Record.gives_true _)) Bookkeeping.gives_fits
  exact fun _ hsite _ _ _ hdays _ hpriority _ _ _ hhistory => ⟨hsite, hdays, hpriority, hhistory⟩

theorem Registration.legible_toJson {r : Registration} (hr : r.Fits) (levels : Nat) :
    Legible (levels + 4) r.toJson := by
  refine .object ?_
  simp only [List.forall_mem_append, List.forall_mem_cons, List.not_mem_nil, false_implies,
    implies_true, and_true]
  refine ⟨⟨Site.legible_toJson hr.site levels, .map fun _ _ => .string _,
    .ofNat hr.checkIntervalDays (by decide), .int ?_ ?_, r.notifications.legible_toJson _⟩,
    Bookkeeping.legible_of_mem_members hr.history _⟩
  · exact Int.le_trans (by decide) hr.priority.1
  · exact Int.le_trans hr.priority.2 (by decide)

/-! ## Registers -/

namespace Register

/-- Every registration fits. -/
def Fits (register : Register) : Prop := ∀ r ∈ register, r.Fits

/-- A register is read back from its document. -/
theorem ofDocument_document {register : Register} (hregister : register.Fits) :
    ofDocument register.document = .ok register := by
  have hlegible : Legible Json.maxDepth (.array (register.map Registration.toJson)) :=
    .map fun r hr => Registration.legible_toJson (hregister r hr) 122
  have hitems : Json.readList Registration.read (.array (register.map Registration.toJson)) =
      .ok register := Json.readList_map fun r hr => Registration.read_toJson (hregister r hr)
  simp only [ofDocument, document, Json.read_pretty hlegible, hitems]

theorem ofBytes_toUTF8 {register : Register} (hregister : register.Fits) :
    ofBytes register.document.toUTF8 = .ok register := by
  have htext : String.fromUTF8? register.document.toUTF8 = some register.document :=
    dif_pos register.document.isValidUTF8
  simp only [ofBytes, htext, ofDocument_document hregister]

theorem fits_of_ofDocument {register : Register} {text : String}
    (hread : ofDocument text = .ok register) : register.Fits := by
  unfold ofDocument at hread
  split at hread
  · cases hread
  · split at hread
    · cases hread
    · rename_i hitems
      cases hread
      exact Json.forall_of_readList (fun _ _ => Registration.fits_of_read) hitems

/-- A register that is read from bytes fits. -/
theorem fits_of_ofBytes {register : Register} {bytes : ByteArray}
    (hread : ofBytes bytes = .ok register) : register.Fits := by
  unfold ofBytes at hread
  split at hread
  · cases hread
  · exact fits_of_ofDocument hread

end Register

end SiteWatch
