/-
# The server changes neither requests nor results

The body of a request is read with options of its own, each of which may be left out, and made into a
request afterwards. What comes of it is the request that the body says: the two readers match field by
field, and a default that is filled in later is the default of the field. A result is told as it is.
-/

import SiteWatch.Proofs.Json.Agreement
import SiteWatch.Proofs.Json.Settled
import SiteWatch.Server.Messages

namespace SiteWatch

open Json (Record)

/-- A value is an object. -/
def Json.IsObject : Json → Prop
  | .object _ => True
  | _ => False

namespace Server

/-! ## Options -/

/-- Options that are read from an object are the same whether defaults are filled in at once or
later; an array of options may be too short for the server. -/
theorem OptionsBody.matches_read (v : Json) :
    Matches v.IsObject (fun options body => options = body.options) (ScrapeOptions.read v)
      (OptionsBody.read v) := by
  have hnull : ∀ b, Json.readBool .null ≠ .ok b := nofun
  refine Record.matches_read rfl (fun members _ => ?_)
    fun items hitems => ⟨items.tail.tail.tail.tail.tail, ?_⟩
  · refine .seq (.seq (.seq (.seq (.map (Record.matchesMembers_nullable hnull) ?_)
      (Record.matchesMembers_refl _)) (Record.matchesMembers_nullable hnull))
      (Record.matchesMembers_nullable hnull)) (Record.matchesMembers_refl _)
    rintro _ useCache rfl _ cacheTtlSecs rfl _ screenshot rfl _ includeFrames rfl _ timeoutMs rfl
    rfl
  · have hmust : ¬ v.IsObject := by
      rw [hitems]
      exact id
    refine .seq (.seq (.seq (.seq (.map (Record.matchesItems_nullable hmust hnull) ?_)
      (Record.matchesItems_nullable_of_optional hmust)) (Record.matchesItems_nullable hmust hnull))
      (Record.matchesItems_nullable hmust hnull)) (Record.matchesItems_nullable_of_optional hmust)
    rintro _ useCache rfl _ cacheTtlSecs rfl _ screenshot rfl _ includeFrames rfl _ timeoutMs rfl
    rfl

/-! ## Requests -/

/-- The options of a request are an object, if it has any. -/
def OptionsAreObject : Json → Prop
  | .object members => ∀ options ∈ Members.get? members "options", Json.IsObject options
  | .array items => ∀ options ∈ items[3]?, Json.IsObject options
  | _ => True

/-- A request is the same read at once or from the body that the server reads. -/
theorem RequestBody.matches_read (v : Json) :
    Matches (OptionsAreObject v) (fun request body => request = body.request)
      (ScrapeRequest.read v) (RequestBody.read v) := by
  refine Record.matches_read rfl (fun members hmembers => ?_)
    fun items hitems => ⟨items.tail.tail.tail.tail, ?_⟩
  · have hoptions : Record.MatchesMembers (OptionsAreObject v)
        (fun options body => options = body.options) members
        (Record.defaulted "options" {} ScrapeOptions.read)
        (Record.defaulted "options" {} OptionsBody.read) := by
      refine Record.matchesMembers_field (fun place options hfound => ?_) (.of_ok rfl)
      refine (OptionsBody.matches_read options).weaken fun hmust => ?_
      rw [hmembers] at hmust
      refine hmust options ?_
      rw [← Record.map_locate? "options" 0, hfound]
      rfl
    refine .seq (.seq (.seq (.map (Record.matchesMembers_refl _) ?_)
      (Record.matchesMembers_refl _)) (Record.matchesMembers_refl _)) hoptions
    rintro url _ rfl instructions _ rfl extractors _ rfl _ options rfl
    rfl
  · have hoptions : Record.MatchesItems (OptionsAreObject v)
        (fun options body => options = body.options) items.tail.tail.tail items.tail.tail.tail.tail
        (Record.defaulted "options" {} ScrapeOptions.read)
        (Record.defaulted "options" {} OptionsBody.read) := by
      refine Record.matchesItems_field (fun options hfound => ?_) ?_ fun _ _ => rfl
      · refine (OptionsBody.matches_read options).weaken fun hmust => ?_
        rw [hitems] at hmust
        refine hmust options ?_
        simpa [List.head?_eq_getElem?] using hfound
      · rintro _ ⟨⟩ _ ⟨⟩
        rfl
    refine .seq (.seq (.seq (.map (Record.matchesItems_refl _ _ _) ?_)
      (Record.matchesItems_refl _ _ _)) (Record.matchesItems_refl _ _ _)) hoptions
    rintro url _ rfl instructions _ rfl extractors _ rfl _ options rfl
    rfl

/-! ## Results -/

/-- A result is told as it is, up to the order of members. -/
theorem alike_resultBody (result : ScrapeResult) :
    Json.Alike (resultBody result) result.toJson := by
  rw [Json.alike_iff_settle_eq, resultBody, ResultBody.toJson, ScrapeResult.toJson,
    Json.settle_object, Json.settle_object]
  simp only [ScrapeResult.members, ResultBody.ofResult, Json.settleMembers_eq_map, List.map_append,
    List.map_cons, Json.settle_settle]

/-! ## What the server passes on -/

/-- The server changes neither requests nor results. -/
structure PassesOn : Prop where
  /-- A request whose options are an object is accepted, and is the same. -/
  accepts : ∀ value request, OptionsAreObject value → ScrapeRequest.read value = .ok request →
    readRequest value = .ok request
  /-- A value that is accepted twice is the same request twice. -/
  agrees : ∀ value request asked, ScrapeRequest.read value = .ok request →
    readRequest value = .ok asked → asked = request
  results : ∀ result, Json.Alike (resultBody result) result.toJson

theorem passesOn : PassesOn where
  accepts value request hoptions hread := by
    have hmatches := RequestBody.matches_read value
    obtain ⟨body, hbody⟩ := hmatches.accepts hoptions request hread
    rw [hmatches.related request body hread hbody]
    exact map_eq_ok.mpr ⟨body, hbody, rfl⟩
  agrees value request asked hread hasked := by
    obtain ⟨body, hbody, rfl⟩ := map_eq_ok.mp hasked
    exact ((RequestBody.matches_read value).related request body hread hbody).symm
  results := alike_resultBody

/-- The body of a request with actions, and with some of the options. -/
def opening : Json :=
  .object [("url", .string "https://a.org/"),
    ("actions", .array [.object [("step", .int 1), ("action", .string "navigate"),
      ("description", .string "Open")]]),
    ("options", .object [("useCache", .bool false), ("cacheTtlSecs", .int 60)])]

/-- What the body asks for. -/
def asked : ScrapeRequest where
  url := "https://a.org/"
  instructions := some [{ step := 1, description := "Open", action := .navigate none }]
  options := { useCache := false, cacheTtlSecs := some 60 }

theorem readRequest_opening :
    OptionsAreObject opening ∧ ScrapeRequest.read opening = .ok asked ∧
      readRequest opening = .ok asked := by
  have hoptions : OptionsAreObject opening := by
    rintro _ ⟨⟩
    trivial
  have hread : ScrapeRequest.read opening = .ok asked := by rfl
  exact ⟨hoptions, hread, passesOn.accepts opening asked hoptions hread⟩

end Server

end SiteWatch
