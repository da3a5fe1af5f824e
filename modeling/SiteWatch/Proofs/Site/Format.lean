/-
# Sites as JSON

A site whose numbers fit their types is read back from its JSON form, with every instruction,
extractor and option, whichever of its optional fields are there. And a site that is read fits.
-/

import SiteWatch.Proofs.Json.Records
import SiteWatch.Proofs.Json.RoundTrip
import SiteWatch.Proofs.Time.RoundTrip
import SiteWatch.Site.Basic

namespace SiteWatch

open Json (Legible ReadsBackAs Record)

/-! ## Instants and words -/

theorem Instant.IsShown.readsBack {t : Instant} (ht : t.IsShown) :
    ReadsBackAs Json.readInstant (fun t => .string t.text) t := by
  refine ⟨?_, by simp⟩
  simp only [Json.readInstant, Time.readInstant_text ht]

theorem isShown_of_readInstant {v : Json} {t : Instant} (hread : Json.readInstant v = .ok t) :
    t.IsShown := by
  unfold Json.readInstant at hread
  split at hread
  · split at hread
    · rename_i htext
      cases hread
      exact Time.isShown_of_readInstant htext
    · cases hread
  · cases hread

theorem Transform.readsBack (transform : Transform) :
    ReadsBackAs (Json.readChoice Transform.words) (fun transform => .string transform.word)
      transform :=
  ⟨by cases transform <;> rfl, by simp⟩

theorem WaitCondition.readsBack (condition : WaitCondition) :
    ReadsBackAs (Json.readChoice WaitCondition.words) (fun condition => .string condition.word)
      condition :=
  ⟨by cases condition <;> rfl, by simp⟩

/-! ## Options -/

/-- Both sides of a window are numbers of 32 bits. -/
structure Viewport.Fits (v : Viewport) : Prop where
  width : v.width < 2 ^ 32
  height : v.height < 2 ^ 32

theorem Viewport.read_toJson {v : Viewport} (hv : v.Fits) : Viewport.read v.toJson = .ok v := by
  have hwidth : (Record.required "width" Json.readNat32).Holds v.toJson.membersOf v.width :=
    Record.holds_field rfl (Json.readUnsigned_ofNat hv.width _).1
  have hheight : (Record.required "height" Json.readNat32).Holds v.toJson.membersOf v.height :=
    Record.holds_field rfl (Json.readUnsigned_ofNat hv.height _).1
  have hall : Viewport.record.Holds v.toJson.membersOf v := (hwidth.map _).seq hheight
  exact hall.readMembers (by decide) (by simp [Json.membersOf, toJson])

theorem Viewport.fits_of_read {v : Viewport} {value : Json} (hread : Viewport.read value = .ok v) :
    v.Fits := by
  refine Record.Gives.of_read ?_ hread
  refine .seq (.map (Record.gives_required fun _ _ => Json.lt_of_readUnsigned) ?_)
    (Record.gives_required fun _ _ => Json.lt_of_readUnsigned)
  exact fun _ hwidth _ hheight => ⟨hwidth, hheight⟩

theorem Viewport.legible_toJson {v : Viewport} (hv : v.Fits) (levels : Nat) :
    Legible (levels + 1) v.toJson := by
  refine .object ?_
  simp only [List.forall_mem_cons, List.not_mem_nil, false_implies, implies_true, and_true]
  exact ⟨.ofNat hv.width (by decide), .ofNat hv.height (by decide)⟩

/-- The numbers of the options fit their types. -/
structure PageOptions.Fits (o : PageOptions) : Prop where
  viewport : o.viewport.Fits
  retries : o.retries < 2 ^ 32
  timeoutMs : o.timeoutMs < 2 ^ 64
  politenessDelayMs : o.politenessDelayMs < 2 ^ 64
  iframeTimeoutMs : o.iframeTimeoutMs < 2 ^ 64

theorem PageOptions.read_toJson {o : PageOptions} (ho : o.Fits) :
    PageOptions.read o.toJson = .ok o := by
  have hheadless : (Record.defaulted "headless" true Json.readBool).Holds o.toJson.membersOf
      o.headless := Record.holds_field rfl rfl
  have huserAgent : (Record.optional "userAgent" Json.readText).Holds o.toJson.membersOf
      o.userAgent :=
    Record.holds_field rfl (Json.readOptional_ofOption fun text _ => Json.readText_string text)
  have hviewport : (Record.defaulted "viewport" {} Viewport.read).Holds o.toJson.membersOf
      o.viewport := Record.holds_field rfl (Viewport.read_toJson ho.viewport)
  have hretries : (Record.defaulted "retries" 3 Json.readNat32).Holds o.toJson.membersOf
      o.retries := Record.holds_field rfl (Json.readUnsigned_ofNat ho.retries _).1
  have htimeout : (Record.defaulted "timeoutMs" 30000 Json.readNat64).Holds o.toJson.membersOf
      o.timeoutMs := Record.holds_field rfl (Json.readUnsigned_ofNat ho.timeoutMs _).1
  have hpoliteness : (Record.defaulted "politenessDelayMs" 1000 Json.readNat64).Holds
      o.toJson.membersOf o.politenessDelayMs :=
    Record.holds_field rfl (Json.readUnsigned_ofNat ho.politenessDelayMs _).1
  have hscreenshot : (Record.defaulted "screenshotOnError" false Json.readBool).Holds
      o.toJson.membersOf o.screenshotOnError := Record.holds_field rfl rfl
  have hwait : (Record.defaulted "waitForIframes" true Json.readBool).Holds o.toJson.membersOf
      o.waitForIframes := Record.holds_field rfl rfl
  have hiframe : (Record.defaulted "iframeTimeoutMs" 5000 Json.readNat64).Holds
      o.toJson.membersOf o.iframeTimeoutMs :=
    Record.holds_field rfl (Json.readUnsigned_ofNat ho.iframeTimeoutMs _).1
  have hall : PageOptions.record.Holds o.toJson.membersOf o :=
    (hheadless.map _).seq huserAgent |>.seq hviewport |>.seq hretries |>.seq htimeout
      |>.seq hpoliteness |>.seq hscreenshot |>.seq hwait |>.seq hiframe
  exact hall.readMembers (by decide) (by simp [Json.membersOf, toJson])

theorem PageOptions.fits_of_read {o : PageOptions} {value : Json}
    (hread : PageOptions.read value = .ok o) : o.Fits := by
  refine Record.Gives.of_read ?_ hread
  have hviewport : ({} : Viewport).Fits := ⟨by decide, by decide⟩
  have hnumber : ∀ name bits expected default, default < 2 ^ bits →
      (Record.defaulted name default (Json.readUnsigned bits expected)).Gives (· < 2 ^ bits) :=
    fun _ _ _ _ hdefault => Record.gives_defaulted (fun _ _ => Json.lt_of_readUnsigned) hdefault
  refine .seq (.seq (.seq (.seq (.seq (.seq (.seq (.seq (.map (Record.gives_true _) ?_)
    (Record.gives_true _))
    (Record.gives_defaulted (fun _ _ => Viewport.fits_of_read) hviewport))
    (hnumber _ 32 _ 3 (by decide))) (hnumber _ 64 _ 30000 (by decide)))
    (hnumber _ 64 _ 1000 (by decide))) (Record.gives_true _)) (Record.gives_true _))
    (hnumber _ 64 _ 5000 (by decide))
  exact fun _ _ _ _ _ hviewport _ hretries _ htimeout _ hpoliteness _ _ _ _ _ hiframe =>
    ⟨hviewport, hretries, htimeout, hpoliteness, hiframe⟩

theorem PageOptions.legible_toJson {o : PageOptions} (ho : o.Fits) (levels : Nat) :
    Legible (levels + 2) o.toJson := by
  refine .object ?_
  simp only [List.forall_mem_cons, List.not_mem_nil, false_implies, implies_true, and_true]
  exact ⟨.bool _, .ofOption fun _ _ => .string _, Viewport.legible_toJson ho.viewport levels,
    .ofNat ho.retries (by decide), .ofNat ho.timeoutMs (Nat.le_refl 64),
    .ofNat ho.politenessDelayMs (Nat.le_refl 64), .bool _, .bool _,
    .ofNat ho.iframeTimeoutMs (Nat.le_refl 64)⟩

/-! ## Extractors -/

theorem Extractor.nodup_keys (e : Extractor) : (e.toJson.membersOf.map Prod.fst).Nodup := by
  obtain ⟨_, _, _ | _, _, _, _ | _⟩ := e <;> simp [Json.membersOf, toJson, Json.member?]

theorem Extractor.read_toJson (e : Extractor) : Extractor.read e.toJson = .ok e := by
  have hname : (Record.required "name" Json.readText).Holds e.toJson.membersOf e.name :=
    Record.holds_field rfl rfl
  have hselector : (Record.required "selector" Json.readText).Holds e.toJson.membersOf
      e.selector := Record.holds_field rfl rfl
  have hattribute : (Record.optional "attribute" Json.readText).Holds e.toJson.membersOf
      e.attributeName :=
    Record.holds_optional (by simp [Json.membersOf, toJson]) fun text _ => Json.readText_string text
  have hmultiple : (Record.defaulted "multiple" false Json.readBool).Holds e.toJson.membersOf
      e.multiple :=
    Record.holds_field (by simp [Json.membersOf, toJson]) (Json.readBool_bool _).1
  have hrequired : (Record.defaulted "required" false Json.readBool).Holds e.toJson.membersOf
      e.required :=
    Record.holds_field (by simp [Json.membersOf, toJson]) (Json.readBool_bool _).1
  have htransform : (Record.optional "transform" (Json.readChoice Transform.words)).Holds
      e.toJson.membersOf e.transform :=
    Record.holds_optional (by simp [Json.membersOf, toJson]) fun word _ => Transform.readsBack word
  have hall : Extractor.record.Holds e.toJson.membersOf e :=
    (hname.map _).seq hselector |>.seq hattribute |>.seq hmultiple |>.seq hrequired
      |>.seq htransform
  exact hall.readMembers (by decide) e.nodup_keys

theorem Extractor.legible_toJson (e : Extractor) (levels : Nat) :
    Legible (levels + 1) e.toJson := by
  refine .object ?_
  simp only [List.forall_mem_append, List.forall_mem_cons, List.not_mem_nil, false_implies,
    implies_true, and_true]
  exact ⟨⟨⟨⟨.string _, .string _⟩, Legible.of_mem_member? fun _ _ => .string _⟩, .bool _, .bool _⟩,
    Legible.of_mem_member? fun _ _ => .string _⟩

/-! ## Instructions -/

/-- The numbers of an instruction fit their types. -/
structure Instruction.Fits (i : Instruction) : Prop where
  step : i.step < 2 ^ 32
  timeoutMs : ∀ timeout ∈ i.timeoutMs, timeout < 2 ^ 64

/-- An action is read back from its own members by the record that its word names. -/
theorem Action.exists_record (action : Action) :
    ∃ record, records.lookup action.word = some record ∧
      record.readMembers action.members = .ok action := by
  cases action with
  | click | enter | extract => exact ⟨_, rfl, rfl⟩
  | navigate target => cases target <;> exact ⟨_, rfl, rfl⟩
  | wait selector value => cases selector <;> cases value <;> exact ⟨_, rfl, rfl⟩
  | scroll selector => cases selector <;> exact ⟨_, rfl, rfl⟩
  | screenshot name => cases name <;> exact ⟨_, rfl, rfl⟩

/-- The members of an action are a selector and a value at most, each once. -/
theorem Action.keys_members (action : Action) :
    (action.members.map Prod.fst).Sublist ["selector", "value"] := by
  cases action with
  | click | enter | extract => simp [members]
  | navigate target => cases target <;> simp [members, Json.member?]
  | wait selector value => cases selector <;> cases value <;> simp [members, Json.member?]
  | scroll selector => cases selector <;> simp [members, Json.member?]
  | screenshot name => cases name <;> simp [members, Json.member?]

theorem Action.ne_of_mem_members {action : Action} {member : String × Json}
    (hmember : member ∈ action.members) : member.1 = "selector" ∨ member.1 = "value" := by
  have hkey := action.keys_members.subset (List.mem_map_of_mem hmember)
  simpa using hkey

theorem Action.get?_members {key : String} (action : Action) (hselector : key ≠ "selector")
    (hvalue : key ≠ "value") : Members.get? action.members key = none := by
  cases hfound : Members.get? action.members key with
  | none => rfl
  | some value =>
      rcases ne_of_mem_members (Members.mem_of_get? hfound) with hkey | hkey
      · exact absurd hkey hselector
      · exact absurd hkey hvalue

/-- An optional member has no key but its own. -/
theorem keys_member? {α : Type} (key : String) (write : α → Json) (o : Option α) :
    ((Json.member? key write o).map Prod.fst).Sublist [key] := by
  cases o <;> simp [Json.member?]

theorem Instruction.nodup_keys (i : Instruction) : (i.toJson.membersOf.map Prod.fst).Nodup := by
  have hkeys : (["step", "description", "action"] ++ ["selector", "value"] ++ ["timeoutMs"]
      ++ ["waitFor"] ++ ["optional"]).Nodup := by decide
  refine hkeys.sublist ?_
  simp only [Json.membersOf, toJson, List.map_append]
  exact ((((List.Sublist.refl _).append i.action.keys_members).append (keys_member? _ _ _)).append
    (keys_member? _ _ _)).append (List.Sublist.refl _)

/-- The members of an instruction that are not its own are those of its action. -/
theorem Instruction.others_toJson (i : Instruction) :
    Instruction.record.others i.toJson.membersOf =
      ("action", .string i.action.word) :: i.action.members := by
  have hnames : Instruction.record.names =
      [["step"], ["description"], ["timeoutMs"], ["waitFor"], ["optional"]] := rfl
  have haction : i.action.members.filter (fun member =>
      ! Instruction.record.names.any (·.contains member.1)) = i.action.members := by
    refine List.filter_eq_self.mpr fun member hmember => ?_
    rcases Action.ne_of_mem_members hmember with hkey | hkey <;> simp [hnames, hkey]
  obtain ⟨step, description, action, timeoutMs, waitFor, optional⟩ := i
  simp only [Record.others, Json.membersOf, toJson, List.filter_append, haction]
  cases timeoutMs <;> cases waitFor <;> simp [hnames, Json.member?]

theorem Action.read_members (action : Action) :
    Action.read (("action", .string action.word) :: action.members) = .ok action := by
  obtain ⟨record, hrecord, hread⟩ := action.exists_record
  have hrest : ∀ member ∈ action.members, member.1 ≠ "action" := by
    intro member hmember
    rcases ne_of_mem_members hmember with hkey | hkey <;> simp [hkey]
  have htags : action.members.filter (·.1 == "action") = [] :=
    List.filter_eq_nil_iff.mpr fun member hmember => by simpa using hrest member hmember
  have hothers : action.members.filter (·.1 != "action") = action.members :=
    List.filter_eq_self.mpr fun member hmember => by simpa using hrest member hmember
  simp only [Action.read, List.filter_cons, htags, hothers]
  simp [recordFor, hrecord, hread, bind, Except.bind]

theorem Instruction.read_toJson {i : Instruction} (hi : i.Fits) :
    Instruction.read i.toJson = .ok i := by
  have hstep : (Record.required "step" Json.readNat32).Holds i.toJson.membersOf i.step :=
    Record.holds_field rfl (Json.readUnsigned_ofNat hi.step _).1
  have hdescription : (Record.required "description" Json.readText).Holds i.toJson.membersOf
      i.description := Record.holds_field rfl rfl
  have htimeout : (Record.optional "timeoutMs" Json.readNat64).Holds i.toJson.membersOf
      i.timeoutMs :=
    Record.holds_optional (by simp [Json.membersOf, toJson, Action.get?_members])
      fun timeout htimeout => Json.readUnsigned_ofNat (hi.timeoutMs timeout htimeout) _
  have hwaitFor : (Record.optional "waitFor" (Json.readChoice WaitCondition.words)).Holds
      i.toJson.membersOf i.waitFor :=
    Record.holds_optional (by simp [Json.membersOf, toJson, Action.get?_members])
      fun condition _ => WaitCondition.readsBack condition
  have hoptional : (Record.defaulted "optional" false Json.readBool).Holds i.toJson.membersOf
      i.optional :=
    Record.holds_field (by simp [Json.membersOf, toJson, Action.get?_members])
      (Json.readBool_bool _).1
  have hall : Instruction.record.Holds i.toJson.membersOf fun action => { i with action } :=
    (hstep.map _).seq hdescription |>.seq htimeout |>.seq hwaitFor |>.seq hoptional
  have hbuild := hall.readMembers (by decide) i.nodup_keys
  have haction := Action.read_members i.action
  rw [← Instruction.others_toJson] at haction
  show (do
    let build ← Instruction.record.readMembers i.toJson.membersOf
    let action ← Action.read (Instruction.record.others i.toJson.membersOf)
    return build action) = _
  rw [hbuild, haction]
  rfl

theorem Instruction.fits_of_read {i : Instruction} {value : Json}
    (hread : Instruction.read value = .ok i) : i.Fits := by
  unfold Instruction.read at hread
  split at hread
  · rename_i members
    have hgives : Instruction.record.Gives fun build => ∀ action, (build action).Fits := by
      refine .seq (.seq (.seq (.seq (.map (Record.gives_required fun _ _ =>
        Json.lt_of_readUnsigned) ?_) (Record.gives_true _))
        (Record.gives_optional fun _ _ => Json.lt_of_readUnsigned)) (Record.gives_true _))
        (Record.gives_true _)
      exact fun _ hstep _ _ _ htimeout _ _ _ _ _ => ⟨hstep, htimeout⟩
    simp only [bind_eq_ok] at hread
    obtain ⟨build, hbuild, action, -, hi⟩ := hread
    cases hi
    exact hgives.of_readMembers hbuild action
  · cases hread

theorem Action.legible_of_mem_members (action : Action) (levels : Nat) :
    ∀ member ∈ action.members, Legible levels member.2 := by
  have htext : ∀ key (text : Option String),
      ∀ member ∈ Json.member? key .string text, Legible levels member.2 :=
    fun _ _ => Legible.of_mem_member? fun _ _ => .string _
  cases action with
  | navigate target => exact htext "value" target
  | click selector => simpa [members] using Legible.string selector
  | wait selector value => exact List.forall_mem_append.mpr ⟨htext _ selector, htext _ value⟩
  | enter selector text =>
      simpa [members] using ⟨Legible.string selector, Legible.string text⟩
  | scroll selector => exact htext "selector" selector
  | extract => simp [members]
  | screenshot name => exact htext "value" name

theorem Instruction.legible_toJson {i : Instruction} (hi : i.Fits) (levels : Nat) :
    Legible (levels + 1) i.toJson := by
  refine .object ?_
  simp only [List.forall_mem_append, List.forall_mem_cons, List.not_mem_nil, false_implies,
    implies_true, and_true]
  exact ⟨⟨⟨⟨⟨.ofNat hi.step (by decide), .string _, .string _⟩,
    i.action.legible_of_mem_members levels⟩,
    Legible.of_mem_member? fun timeout htimeout =>
      .ofNat (hi.timeoutMs timeout htimeout) (Nat.le_refl 64)⟩,
    Legible.of_mem_member? fun _ _ => .string _⟩, .bool _⟩

/-! ## Sites -/

/-- The numbers of a site fit their types, and its moment can be shown. -/
structure Site.Fits (s : Site) : Prop where
  instructions : ∀ i ∈ s.instructions, i.Fits
  options : s.options.Fits
  updatedAt : ∀ t ∈ s.updatedAt, t.IsShown

theorem Site.read_toJson {s : Site} (hs : s.Fits) : Site.read s.toJson = .ok s := by
  have hid : (Record.required "id" Json.readText).Holds s.toJson.membersOf s.id :=
    Record.holds_field rfl rfl
  have hname : (Record.defaulted "name" "" Json.readText).Holds s.toJson.membersOf s.name :=
    Record.holds_field rfl rfl
  have hdomain : (Record.required "domain" Json.readText).Holds s.toJson.membersOf s.domain :=
    Record.holds_field rfl rfl
  have hpatterns : (Record.defaulted "urlPatterns" [] (Json.readList Json.readText)).Holds
      s.toJson.membersOf s.urlPatterns :=
    Record.holds_field rfl (Json.readList_map fun text _ => (Json.readText_string text).1)
  have hinstructions : (Record.defaulted "instructions" [] (Json.readList Instruction.read)).Holds
      s.toJson.membersOf s.instructions :=
    Record.holds_field rfl
      (Json.readList_map fun i hi => Instruction.read_toJson (hs.instructions i hi))
  have hextractors : (Record.defaulted "extractors" [] (Json.readList Extractor.read)).Holds
      s.toJson.membersOf s.extractors :=
    Record.holds_field rfl (Json.readList_map fun e _ => e.read_toJson)
  have hoptions : (Record.defaulted "options" {} PageOptions.read).Holds s.toJson.membersOf
      s.options := Record.holds_field rfl (PageOptions.read_toJson hs.options)
  have henabled : (Record.defaulted "enabled" true Json.readBool).Holds s.toJson.membersOf
      s.enabled := Record.holds_field rfl rfl
  have hversion : (Record.defaulted "version" "1.0.0" Json.readText).Holds s.toJson.membersOf
      s.version := Record.holds_field rfl rfl
  have hupdated : (Record.optional "updatedAt" Json.readInstant).Holds s.toJson.membersOf
      s.updatedAt :=
    Record.holds_field rfl (Json.readOptional_ofOption fun t ht => (hs.updatedAt t ht).readsBack)
  have hall : Site.record.Holds s.toJson.membersOf s :=
    (hid.map _).seq hname |>.seq hdomain |>.seq hpatterns |>.seq hinstructions
      |>.seq hextractors |>.seq hoptions |>.seq henabled |>.seq hversion |>.seq hupdated
  exact hall.readMembers (by decide) (by simp [Json.membersOf, toJson])

theorem Site.fits_of_read {s : Site} {value : Json} (hread : Site.read value = .ok s) :
    s.Fits := by
  have hdefault : ({} : PageOptions).Fits :=
    ⟨⟨by decide, by decide⟩, by decide, by decide, by decide, by decide⟩
  refine Record.Gives.of_read ?_ hread
  refine .seq (.seq (.seq (.seq (.seq (.seq (.seq (.seq (.seq (.map (Record.gives_true _) ?_)
    (Record.gives_true _)) (Record.gives_true _)) (Record.gives_true _))
    (Record.gives_defaulted (fun _ _ => Json.forall_of_readList fun _ _ =>
      Instruction.fits_of_read) (by simp)))
    (Record.gives_true _)) (Record.gives_defaulted (fun _ _ => PageOptions.fits_of_read) hdefault))
    (Record.gives_true _)) (Record.gives_true _))
    (Record.gives_optional fun _ _ => isShown_of_readInstant)
  exact fun _ _ _ _ _ _ _ _ _ hinstructions _ _ _ hoptions _ _ _ _ _ hupdated =>
    ⟨hinstructions, hoptions, hupdated⟩

theorem Site.legible_toJson {s : Site} (hs : s.Fits) (levels : Nat) :
    Legible (levels + 3) s.toJson := by
  refine .object ?_
  simp only [List.forall_mem_cons, List.not_mem_nil, false_implies, implies_true, and_true]
  exact ⟨.string _, .string _, .string _, .map fun _ _ => .string _,
    .map fun i hi => Instruction.legible_toJson (hs.instructions i hi) levels,
    .map fun e _ => e.legible_toJson levels, PageOptions.legible_toJson hs.options levels, .bool _,
    .string _, .ofOption fun _ _ => .string _⟩

end SiteWatch
