/-
# Results as JSON

A result whose numbers fit their types, whose moments can be shown and whose data a text can hold is
read back from its JSON form. A stored result adds members of its own to those of the result, and each
part is read back from what the other leaves.
-/

import SiteWatch.Proofs.Json.Canonical
import SiteWatch.Proofs.Site.Format
import SiteWatch.Store.StoredResult

namespace SiteWatch

open Json (Legible ReadsBackAs Record)

theorem RobotsStatus.readsBack (status : RobotsStatus) :
    ReadsBackAs RobotsStatus.read (fun status => .string status.word) status :=
  ⟨by cases status <;> rfl, by simp⟩

/-! ## Notes -/

/-- The numbers of the notes are numbers of 64 bits. -/
structure ScrapeMetadata.Fits (m : ScrapeMetadata) : Prop where
  processingTimeMs : m.processingTimeMs < 2 ^ 64
  instructionsExecuted : m.instructionsExecuted < 2 ^ 64
  extractorsRun : m.extractorsRun < 2 ^ 64
  framesProcessed : m.framesProcessed < 2 ^ 64
  memoryUsageBytes : ∀ bytes ∈ m.memoryUsageBytes, bytes < 2 ^ 64

namespace ScrapeMetadata

theorem nodup_keys (m : ScrapeMetadata) : (m.toJson.membersOf.map Prod.fst).Nodup := by
  cases hurl : m.finalUrl <;> cases hmemory : m.memoryUsageBytes <;>
    cases hstatus : m.robotsTxtStatus <;> cases hsite : m.siteId <;> cases hpicture : m.screenshot <;>
    simp [Json.membersOf, toJson, Json.member?, hurl, hmemory, hstatus, hsite, hpicture]

theorem read_toJson {m : ScrapeMetadata} (hm : m.Fits) : ScrapeMetadata.read m.toJson = .ok m := by
  have htime : (Record.required "processingTimeMs" Json.readNat64).Holds m.toJson.membersOf
      m.processingTimeMs := Record.holds_field rfl (Json.readUnsigned_ofNat hm.processingTimeMs _).1
  have hinstructions : (Record.required "instructionsExecuted" Json.readCount).Holds
      m.toJson.membersOf m.instructionsExecuted :=
    Record.holds_field rfl (Json.readUnsigned_ofNat hm.instructionsExecuted _).1
  have hextractors : (Record.required "extractorsRun" Json.readCount).Holds m.toJson.membersOf
      m.extractorsRun := Record.holds_field rfl (Json.readUnsigned_ofNat hm.extractorsRun _).1
  have hframes : (Record.required "framesProcessed" Json.readCount).Holds m.toJson.membersOf
      m.framesProcessed := Record.holds_field rfl (Json.readUnsigned_ofNat hm.framesProcessed _).1
  have hcache : (Record.required "cacheUsed" Json.readBool).Holds m.toJson.membersOf m.cacheUsed :=
    Record.holds_field rfl rfl
  have hurl : (Record.optional "finalUrl" Json.readText).Holds m.toJson.membersOf m.finalUrl :=
    Record.holds_optional (by simp [Json.membersOf, toJson]) fun text _ => Json.readText_string text
  have hmemory : (Record.optional "memoryUsageBytes" Json.readNat64).Holds m.toJson.membersOf
      m.memoryUsageBytes :=
    Record.holds_optional (by simp [Json.membersOf, toJson]) fun bytes hbytes =>
      Json.readUnsigned_ofNat (hm.memoryUsageBytes bytes hbytes) _
  have hchecked : (Record.required "robotsTxtChecked" Json.readBool).Holds m.toJson.membersOf
      m.robotsTxtChecked := Record.holds_field (by simp [Json.membersOf, toJson]) (Json.readBool_bool _).1
  have hstatus : (Record.optional "robotsTxtStatus" RobotsStatus.read).Holds m.toJson.membersOf
      m.robotsTxtStatus :=
    Record.holds_optional (by simp [Json.membersOf, toJson]) fun status _ => status.readsBack
  have hsite : (Record.optional "siteId" Json.readText).Holds m.toJson.membersOf m.siteId :=
    Record.holds_optional (by simp [Json.membersOf, toJson]) fun text _ => Json.readText_string text
  have hpicture : (Record.optional "screenshot" Json.readText).Holds m.toJson.membersOf
      m.screenshot :=
    Record.holds_optional (by simp [Json.membersOf, toJson]) fun text _ => Json.readText_string text
  have hall : ScrapeMetadata.record.Holds m.toJson.membersOf m :=
    (htime.map _).seq hinstructions |>.seq hextractors |>.seq hframes |>.seq hcache |>.seq hurl
      |>.seq hmemory |>.seq hchecked |>.seq hstatus |>.seq hsite |>.seq hpicture
  exact hall.readMembers (by decide) m.nodup_keys

theorem legible_toJson {m : ScrapeMetadata} (hm : m.Fits) (levels : Nat) :
    Legible (levels + 1) m.toJson := by
  refine .object ?_
  simp only [List.forall_mem_append, List.forall_mem_cons, List.not_mem_nil, false_implies,
    implies_true, and_true]
  have hbits := Nat.le_refl 64
  refine ⟨⟨⟨⟨⟨⟨⟨.ofNat hm.processingTimeMs hbits, .ofNat hm.instructionsExecuted hbits,
    .ofNat hm.extractorsRun hbits, .ofNat hm.framesProcessed hbits, .bool _⟩,
    Legible.of_mem_member? fun _ _ => .string _⟩,
    Legible.of_mem_member? fun bytes hbytes => .ofNat (hm.memoryUsageBytes bytes hbytes) hbits⟩,
    .bool _⟩, Legible.of_mem_member? fun _ _ => .string _⟩,
    Legible.of_mem_member? fun _ _ => .string _⟩, Legible.of_mem_member? fun _ _ => .string _⟩

end ScrapeMetadata

/-! ## Results -/

/-- The numbers of a result fit their types, its moment can be shown, and its data is free data as it
is held: settled, and of a kind that a text can hold with so many levels. -/
structure ScrapeResult.Fits (levels : Nat) (r : ScrapeResult) : Prop where
  metadata : r.metadata.Fits
  timestamp : r.timestamp.IsShown
  settled : Json.settle (.object r.data) = .object r.data
  legible : Legible levels (.object r.data)

namespace ScrapeResult

variable {r : ScrapeResult} {levels : Nat}

/-- A result is read from its members. -/
theorem readMembers_members (hr : r.Fits levels) :
    ScrapeResult.record.readMembers r.members = .ok r := by
  have hsuccess : (Record.required "success" Json.readBool).Holds r.members r.success :=
    Record.holds_field rfl rfl
  have hurl : (Record.required "url" Json.readText).Holds r.members r.url :=
    Record.holds_field rfl rfl
  have hdata : (Record.required "data" Json.readMembers?).Holds r.members r.data := by
    refine Record.holds_field rfl ?_
    have hsettled := hr.settled
    simp only [Json.settle, Json.object.injEq] at hsettled
    simp only [Json.readMembers?, hsettled]
  have hmetadata : (Record.required "metadata" ScrapeMetadata.read).Holds r.members r.metadata :=
    Record.holds_field rfl (ScrapeMetadata.read_toJson hr.metadata)
  have herrors : (Record.defaulted "errors" [] (Json.readList Json.readText)).Holds r.members
      r.errors := Record.holds_field rfl (Json.readList_map fun text _ => (Json.readText_string text).1)
  have hkind : (Record.optional "errorKind" Json.readText).Holds r.members r.errorKind :=
    Record.holds_optional (by simp [members]) fun text _ => Json.readText_string text
  have htimestamp : (Record.required "timestamp" Json.readInstant).Holds r.members r.timestamp :=
    Record.holds_field (by simp [members]) hr.timestamp.readsBack.1
  have hall : ScrapeResult.record.Holds r.members r :=
    (hsuccess.map _).seq hurl |>.seq hdata |>.seq hmetadata |>.seq herrors |>.seq hkind
      |>.seq htimestamp
  refine hall.readMembers (by decide) ?_
  cases hkinds : r.errorKind <;> simp [members, Json.member?, hkinds]

theorem legible_of_mem_members (hr : r.Fits (levels + 1)) :
    ∀ member ∈ r.members, Legible (levels + 1) member.2 := by
  simp only [members, List.forall_mem_append, List.forall_mem_cons, List.not_mem_nil, false_implies,
    implies_true, and_true]
  exact ⟨⟨⟨.bool _, .string _, hr.legible, ScrapeMetadata.legible_toJson hr.metadata _,
    .map fun _ _ => .string _⟩, Legible.of_mem_member? fun _ _ => .string _⟩, .string _⟩

end ScrapeResult

/-! ## Stored results -/

/-- The size fits its type, and the moment can be shown. -/
structure SaveInfo.Fits (info : SaveInfo) : Prop where
  fileSize : info.fileSize < 2 ^ 64
  savedAt : info.savedAt.IsShown

theorem SaveInfo.read_toJson {info : SaveInfo} (hinfo : info.Fits) :
    SaveInfo.read info.toJson = .ok info := by
  have hname : (Record.required "filename" Json.readText).Holds info.toJson.membersOf info.filename :=
    Record.holds_field rfl rfl
  have hsize : (Record.required "fileSize" Json.readNat64).Holds info.toJson.membersOf info.fileSize :=
    Record.holds_field rfl (Json.readUnsigned_ofNat hinfo.fileSize _).1
  have hsaved : (Record.required "savedAt" Json.readInstant).Holds info.toJson.membersOf info.savedAt :=
    Record.holds_field rfl hinfo.savedAt.readsBack.1
  have hall : SaveInfo.record.Holds info.toJson.membersOf info :=
    (hname.map _).seq hsize |>.seq hsaved
  exact hall.readMembers (by decide) (by simp [Json.membersOf, toJson])

theorem SaveInfo.legible_toJson {info : SaveInfo} (hinfo : info.Fits) (levels : Nat) :
    Legible (levels + 1) info.toJson := by
  refine .object ?_
  simp only [List.forall_mem_cons, List.not_mem_nil, false_implies, implies_true, and_true]
  exact ⟨.string _, .ofNat hinfo.fileSize (Nat.le_refl 64), .string _⟩

namespace StoredResult

variable {stored : StoredResult} {levels : Nat}

/-- The members that a file adds are none of the result's. -/
theorem others_members (stored : StoredResult) :
    StoredResult.record.others stored.toJson.membersOf = stored.result.members := by
  have hnames : StoredResult.record.names = [["siteId"], ["saveMetadata"]] := rfl
  cases hkind : stored.result.errorKind <;>
    simp [Record.others, hnames, Json.membersOf, toJson, ScrapeResult.members, Json.member?, hkind]

theorem read_toJson (hresult : stored.result.Fits levels) (hinfo : stored.saveInfo.Fits) :
    StoredResult.read stored.toJson = .ok stored := by
  have hsite : (Record.required "siteId" Json.readText).Holds stored.toJson.membersOf stored.siteId :=
    Record.holds_field rfl rfl
  have hinfo : (Record.required "saveMetadata" SaveInfo.read).Holds stored.toJson.membersOf
      stored.saveInfo :=
    Record.holds_field (by simp [Json.membersOf, toJson, ScrapeResult.members])
      (SaveInfo.read_toJson hinfo)
  have hboth : StoredResult.record.Holds stored.toJson.membersOf
      (fun result => { stored with result }) := (hsite.map _).seq hinfo
  have hkeys : (stored.toJson.membersOf.map Prod.fst).Nodup := by
    cases hkind : stored.result.errorKind <;>
      simp [Json.membersOf, toJson, ScrapeResult.members, Json.member?, hkind]
  have hown := hboth.readMembers (by decide) hkeys
  have hothers := ScrapeResult.readMembers_members hresult
  rw [← stored.others_members] at hothers
  show (StoredResult.record.readMembers stored.toJson.membersOf >>= fun build =>
    ScrapeResult.record.readMembers (StoredResult.record.others stored.toJson.membersOf) >>=
      fun result => pure (build result)) = _
  rw [hown, hothers]
  rfl

theorem legible_toJson (hresult : stored.result.Fits (levels + 1)) (hinfo : stored.saveInfo.Fits) :
    Legible (levels + 2) stored.toJson := by
  refine .object ?_
  simp only [List.forall_mem_append, List.forall_mem_cons, List.not_mem_nil, false_implies,
    implies_true, and_true]
  exact ⟨⟨.string _, ScrapeResult.legible_of_mem_members hresult⟩,
    SaveInfo.legible_toJson hinfo levels⟩

end StoredResult

end SiteWatch
