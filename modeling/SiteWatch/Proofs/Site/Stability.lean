/-
# Sites written and read again

A site that a document holds passes every check again when it is written as a document of its own.
The shape of the document bounds what can be read from it, the rules for sites ask only for what is
read, and settling a document changes nothing that is read; so the text of the site is read as the
site itself.
-/

import SiteWatch.Proofs.Json.Compact
import SiteWatch.Proofs.Json.Shapes
import SiteWatch.Proofs.Site.Format
import SiteWatch.Site.Document

namespace SiteWatch

open Json (IsSteady Record Schema)

/-! ## Settled documents are read alike -/

theorem Viewport.isSteady_read : IsSteady Viewport.read :=
  Record.IsSteady.read (((Record.isSteady_required (Json.isSteady_readUnsigned _ _)).map _).seq
    (Record.isSteady_required (Json.isSteady_readUnsigned _ _))) (by decide)

theorem PageOptions.isSteady_read : IsSteady PageOptions.read := by
  have hbool : ∀ name default, (Record.defaulted name default Json.readBool).IsSteady :=
    fun _ _ => Record.isSteady_defaulted Json.isSteady_readBool
  have hnumber : ∀ name default bits expected,
      (Record.defaulted name default (Json.readUnsigned bits expected)).IsSteady :=
    fun _ _ _ _ => Record.isSteady_defaulted (Json.isSteady_readUnsigned _ _)
  refine Record.IsSteady.read ?_ (by decide)
  exact ((hbool _ _).map _).seq (Record.isSteady_optional Json.isSteady_readText)
    |>.seq (Record.isSteady_defaulted Viewport.isSteady_read) |>.seq (hnumber _ _ _ _)
    |>.seq (hnumber _ _ _ _) |>.seq (hnumber _ _ _ _) |>.seq (hbool _ _) |>.seq (hbool _ _)
    |>.seq (hnumber _ _ _ _)

theorem Extractor.isSteady_read : IsSteady Extractor.read := by
  have htext : ∀ name, (Record.required name Json.readText).IsSteady :=
    fun _ => Record.isSteady_required Json.isSteady_readText
  have hbool : ∀ name default, (Record.defaulted name default Json.readBool).IsSteady :=
    fun _ _ => Record.isSteady_defaulted Json.isSteady_readBool
  refine Record.IsSteady.read ?_ (by decide)
  exact ((htext _).map _).seq (htext _) |>.seq (Record.isSteady_optional Json.isSteady_readText)
    |>.seq (hbool _ _) |>.seq (hbool _ _)
    |>.seq (Record.isSteady_optional (Json.isSteady_readChoice _))

/-- The members of every action are texts, each under a name of its own. -/
theorem Action.isSteady_of_mem_records {entry : String × Record Action} (hentry : entry ∈ records) :
    entry.2.IsSteady ∧ ∀ field ∈ entry.2.names, field.length = 1 := by
  have hoptional : ∀ name, (Record.optional name Json.readText).IsSteady :=
    fun _ => Record.isSteady_optional Json.isSteady_readText
  have hrequired : ∀ name, (Record.required name Json.readText).IsSteady :=
    fun _ => Record.isSteady_required Json.isSteady_readText
  simp only [records, List.mem_cons, List.not_mem_nil, or_false] at hentry
  rcases hentry with rfl | rfl | rfl | rfl | rfl | rfl | rfl
  · exact ⟨(hoptional _).map _, by decide⟩
  · exact ⟨(hrequired _).map _, by decide⟩
  · exact ⟨((hoptional _).map _).seq (hoptional _), by decide⟩
  · exact ⟨((hrequired _).map _).seq (hrequired _), by decide⟩
  · exact ⟨(hoptional _).map _, by decide⟩
  · exact ⟨Record.isSteady_pure _, by decide⟩
  · exact ⟨(hoptional _).map _, by decide⟩

/-- An action is asked for by a word or a number, which settling leaves alone. -/
theorem Action.recordFor_eq_ok {tag : Json} {record : Record Action}
    (hrecord : recordFor tag = .ok record) :
    tag.settle = tag ∧ ∃ word, (word, record) ∈ records := by
  unfold recordFor at hrecord
  split at hrecord
  · split at hrecord
    · rename_i word _ _ hlookup
      cases hrecord
      obtain ⟨before, after, hsplit, -⟩ := List.lookup_eq_some_iff.mp hlookup
      exact ⟨rfl, word, hsplit ▸ by simp⟩
    · cases hrecord
  · split at hrecord
    · cases hrecord
    · split at hrecord
      · rename_i found hfound
        cases hrecord
        exact ⟨rfl, found.1, List.mem_of_getElem? hfound⟩
      · cases hrecord
  · cases hrecord

theorem Action.read_settledMembers {members : Members} {action : Action}
    (hread : Action.read members = .ok action) :
    Action.read (Json.settledMembers members) = .ok action := by
  have hchosen := fun keep => Json.filter_settledMembers keep members
  unfold Action.read at hread
  split at hread
  · cases hread
  · rename_i key tag htag
    simp only [bind_eq_ok] at hread
    obtain ⟨record, hrecord, hread⟩ := hread
    obtain ⟨htagged, word, hword⟩ := recordFor_eq_ok hrecord
    obtain ⟨hsteady, hnames⟩ := isSteady_of_mem_records hword
    have hone : Json.settledMembers [(key, tag)] = [(key, tag)] := by
      rw [Json.settledMembers, Json.settleMembers_eq_map, List.map_cons, htagged]
      rfl
    unfold Action.read
    rw [hchosen (· == "action"), htag, hone, hchosen (· != "action")]
    simp only [bind_eq_ok]
    exact ⟨record, hrecord, hsteady.readMembers hnames hread⟩
  · cases hread

theorem Instruction.isSteady_record : Instruction.record.IsSteady :=
  ((Record.isSteady_required (Json.isSteady_readUnsigned _ _)).map _).seq
    (Record.isSteady_required Json.isSteady_readText)
    |>.seq (Record.isSteady_optional (Json.isSteady_readUnsigned _ _))
    |>.seq (Record.isSteady_optional (Json.isSteady_readChoice _))
    |>.seq (Record.isSteady_defaulted Json.isSteady_readBool)

theorem Instruction.isSteady_read : IsSteady Instruction.read := by
  intro v i hread
  unfold Instruction.read at hread
  split at hread
  · rename_i members
    simp only [bind_eq_ok] at hread
    obtain ⟨build, hbuild, action, haction, hi⟩ := hread
    rw [Json.settle_object_eq]
    simp only [Instruction.read, bind_eq_ok]
    refine ⟨build, isSteady_record.readMembers (by decide) hbuild, action, ?_, hi⟩
    have hothers := Json.filter_settledMembers
      (fun key => ! Instruction.record.names.any (·.contains key)) members
    rw [Record.others, hothers]
    exact Action.read_settledMembers haction
  · cases hread

theorem Site.isSteady_read : IsSteady Site.read := by
  have htext : ∀ name, (Record.required name Json.readText).IsSteady :=
    fun _ => Record.isSteady_required Json.isSteady_readText
  have hword : ∀ name default, (Record.defaulted name default Json.readText).IsSteady :=
    fun _ _ => Record.isSteady_defaulted Json.isSteady_readText
  refine Record.IsSteady.read ?_ (by decide)
  exact ((htext _).map _).seq (hword _ _) |>.seq (htext _)
    |>.seq (Record.isSteady_defaulted Json.isSteady_readText.list)
    |>.seq (Record.isSteady_defaulted Instruction.isSteady_read.list)
    |>.seq (Record.isSteady_defaulted Extractor.isSteady_read.list)
    |>.seq (Record.isSteady_defaulted PageOptions.isSteady_read)
    |>.seq (Record.isSteady_defaulted Json.isSteady_readBool) |>.seq (hword _ _)
    |>.seq (Record.isSteady_optional Json.isSteady_readInstant)

/-! ## What the shape of the options asks for -/

/-- Both sides of a window are at least one. -/
structure Viewport.IsPositive (v : Viewport) : Prop where
  width : 1 ≤ v.width
  height : 1 ≤ v.height

/-- The window has sides, and a page has time to load. -/
structure PageOptions.IsPositive (o : PageOptions) : Prop where
  viewport : o.viewport.IsPositive
  timeoutMs : 1 ≤ o.timeoutMs

/-- The shape of a window. -/
def viewportSchema : Schema :=
  .objectOf ["width", "height"] [("height", .integerFrom 1), ("width", .integerFrom 1)]

theorem PageOptions.isPositive_default : ({} : PageOptions).IsPositive :=
  ⟨⟨by decide, by decide⟩, by decide⟩

theorem Viewport.isPositive_of_read {value : Json} {v : Viewport}
    (hshape : viewportSchema.Admits value) (hread : Viewport.read value = .ok v) :
    v.IsPositive := by
  obtain ⟨members, rfl⟩ := hshape.exists_object
  obtain ⟨-, hmembers⟩ := Schema.admits_object.mp hshape
  have hside : ∀ name ∈ ["height", "width"],
      (Record.required name Json.readNat32).GivesFrom members (1 ≤ ·) := by
    intro name hname
    refine Record.givesFrom_field (fun value n hvalue hnumber => ?_) nofun
    exact Schema.le_of_admits_integerFrom
      (hmembers (name, .integerFrom 1) (by simpa using hname) value hvalue) hnumber
  refine Record.GivesFrom.of_readMembers ?_ hread
  exact .seq (.map (hside "width" (by simp)) fun _ hwidth _ hheight => ⟨hwidth, hheight⟩)
    (hside "height" (by simp))

theorem PageOptions.isPositive_of_read {value : Json} {o : PageOptions}
    (hshape : Site.optionsSchema.Admits value) (hread : PageOptions.read value = .ok o) :
    o.IsPositive := by
  obtain ⟨members, rfl⟩ := hshape.exists_object
  obtain ⟨-, hmembers⟩ := Schema.admits_object.mp hshape
  have hviewport : (Record.defaulted "viewport" {} Viewport.read).GivesFrom members
      Viewport.IsPositive := by
    refine Record.givesFrom_field (fun value v hvalue hread => ?_) ?_
    · exact Viewport.isPositive_of_read (hmembers ("viewport", viewportSchema)
        (by simp [viewportSchema]) value hvalue) hread
    · rintro v ⟨⟩
      exact ⟨by decide, by decide⟩
  have htimeout : (Record.defaulted "timeoutMs" 30000 Json.readNat64).GivesFrom members
      (1 ≤ ·) := by
    refine Record.givesFrom_field (fun value n hvalue hnumber => ?_) ?_
    · exact Schema.le_of_admits_integerFrom (hmembers ("timeoutMs", _) (by simp) value hvalue)
        hnumber
    · rintro n ⟨⟩
      decide
  refine Record.GivesFrom.of_readMembers ?_ hread
  refine .seq (.seq (.seq (.seq (.seq (.seq (.seq (.seq (.map (Record.givesFrom_true _) ?_)
    (Record.givesFrom_true _)) hviewport) (Record.givesFrom_true _)) htimeout)
    (Record.givesFrom_true _)) (Record.givesFrom_true _)) (Record.givesFrom_true _))
    (Record.givesFrom_true _)
  exact fun _ _ _ _ _ hviewport _ _ _ htimeout _ _ _ _ _ _ _ _ => ⟨hviewport, htimeout⟩

theorem Site.isPositive_of_read {value : Json} {s : Site} (hshape : Site.schema.Admits value)
    (hread : Site.read value = .ok s) : s.options.IsPositive := by
  obtain ⟨members, rfl⟩ := hshape.exists_object
  obtain ⟨-, hmembers⟩ := Schema.admits_object.mp hshape
  have hoptions : (Record.defaulted "options" {} PageOptions.read).GivesFrom members
      PageOptions.IsPositive := by
    refine Record.givesFrom_field (fun value o hvalue hread => ?_) ?_
    · exact PageOptions.isPositive_of_read (hmembers ("options", Site.optionsSchema) (by simp)
        value hvalue) hread
    · rintro o ⟨⟩
      exact PageOptions.isPositive_default
  suffices hrecord : Site.record.GivesFrom members fun s => s.options.IsPositive from
    hrecord.of_readMembers hread
  refine .seq (.seq (.seq (.seq (.seq (.seq (.seq (.seq (.seq (.map (Record.givesFrom_true _) ?_)
    (Record.givesFrom_true _)) (Record.givesFrom_true _)) (Record.givesFrom_true _))
    (Record.givesFrom_true _)) (Record.givesFrom_true _)) hoptions) (Record.givesFrom_true _))
    (Record.givesFrom_true _)) (Record.givesFrom_true _)
  exact fun _ _ _ _ _ _ _ _ _ _ _ _ _ hoptions _ _ _ _ _ _ => hoptions

/-! ## What is written has its shape -/

theorem Extractor.admits_toJson (e : Extractor) :
    Site.extractorSchema.Admits (Json.settle e.toJson) := by
  refine (Schema.admits_settle_object e.nodup_keys).mpr ⟨by simp [Json.membersOf, toJson], ?_⟩
  have hword : ∀ transform : Transform, transform.word ∈
      ["trim", "lowercase", "uppercase", "collapseWhitespace", "number", "absoluteUrl"] := by
    intro transform
    cases transform <;> decide
  simp only [List.forall_mem_cons, List.not_mem_nil, false_implies, implies_true, and_true]
  refine ⟨?_, ?_, ?_, ?_, ?_, ?_⟩ <;> simp [Json.membersOf, toJson, hword]

theorem Action.word_mem_words (action : Action) :
    action.word ∈ ["navigate", "click", "wait", "type", "scroll", "extract", "screenshot"] := by
  cases action <;> simp [word]

/-- The members of an action are texts. -/
theorem Action.exists_text_of_get? {action : Action} {key : String} {value : Json}
    (hvalue : Members.get? action.members key = some value) : ∃ text, value = .string text := by
  have hoptional : ∀ (name : String) (o : Option String),
      (key, value) ∈ Json.member? name .string o → ∃ text, value = .string text := by
    rintro name (_ | text) hmember
    · cases hmember
    · exact ⟨text, (Prod.mk.inj (List.mem_singleton.mp hmember)).2⟩
  have hmember := Members.mem_of_get? hvalue
  cases action with
  | navigate target => exact hoptional _ target hmember
  | click selector => exact hoptional "selector" (some selector) hmember
  | wait selector value =>
      exact (List.mem_append.mp hmember).elim (hoptional _ selector) (hoptional _ value)
  | enter selector text =>
      exact (List.mem_append.mp hmember).elim (hoptional "selector" (some selector))
        (hoptional "value" (some text))
  | scroll selector => exact hoptional _ selector hmember
  | extract => cases hmember
  | screenshot name => exact hoptional _ name hmember

theorem Instruction.admits_toJson (i : Instruction) :
    Site.instructionSchema.Admits (Json.settle i.toJson) := by
  refine (Schema.admits_settle_object i.nodup_keys).mpr ⟨by simp [Json.membersOf, toJson], ?_⟩
  have hword : ∀ condition : WaitCondition, condition.word ∈
      ["navigation", "selector", "timeout", "networkidle"] := by
    intro condition
    cases condition <;> decide
  have htext : ∀ key value, Members.get? i.action.members key = some value →
      (Schema.typed [.string]).Admits (Json.settle value) := by
    intro key value hvalue
    obtain ⟨text, rfl⟩ := Action.exists_text_of_get? hvalue
    exact Schema.admits_settle_string text
  simp only [List.forall_mem_cons, List.not_mem_nil, false_implies, implies_true, and_true]
  refine ⟨?atAction, ?atDescription, ?atOptional, ?atSelector, ?atStep, ?atTimeout, ?atValue,
    ?atWaitFor⟩
  case atAction => simpa [Json.membersOf, toJson] using i.action.word_mem_words
  case atDescription => simp [Json.membersOf, toJson]
  case atOptional => simp [Json.membersOf, toJson, Action.get?_members]
  case atSelector => simpa [Json.membersOf, toJson] using htext "selector"
  case atStep => simp [Json.membersOf, toJson]
  case atTimeout => simp [Json.membersOf, toJson, Action.get?_members]
  case atValue => simpa [Json.membersOf, toJson] using htext "value"
  case atWaitFor => simp [Json.membersOf, toJson, Action.get?_members, hword]

theorem Viewport.admits_toJson {v : Viewport} (hv : v.IsPositive) :
    viewportSchema.Admits (Json.settle v.toJson) := by
  refine (Schema.admits_settle_object (by simp)).mpr ⟨by simp, ?_⟩
  simpa using ⟨hv.height, hv.width⟩

theorem PageOptions.admits_toJson {o : PageOptions} (ho : o.IsPositive) :
    Site.optionsSchema.Admits (Json.settle o.toJson) := by
  refine (Schema.admits_settle_object (by simp)).mpr ⟨by simp, ?_⟩
  have hagent : (Schema.typed [.string, .null]).Admits
      (Json.settle (.ofOption .string o.userAgent)) := by
    rw [Schema.admits_typed]
    cases o.userAgent with
    | none => exact ⟨.null, by simp, rfl⟩
    | some text => exact ⟨.string, by simp, rfl⟩
  have hviewport := Viewport.admits_toJson ho.viewport
  simpa [ho.timeoutMs] using ⟨hagent, hviewport⟩

/-! ## Sites -/

/-- A site that a document may hold: its numbers fit their types and reach their bounds, and it
keeps the rules for sites. -/
structure Site.IsProper (s : Site) : Prop where
  fits : s.Fits
  options : s.options.IsPositive
  problems : s.problems = []

theorem length_pos_of_not_isVoid {text : String} (htext : Text.isVoid text = false) :
    1 ≤ text.length := by
  rw [← String.length_toList]
  refine List.length_pos_iff.mpr fun hnil => ?_
  simp [Text.isVoid, hnil] at htext

theorem Site.IsProper.id {s : Site} (hs : s.IsProper) : Text.isVoid s.id = false := by
  have hproblems := hs.problems
  simp only [Site.problems, List.append_eq_nil_iff] at hproblems
  simpa using hproblems.1.1

theorem Site.IsProper.domain {s : Site} (hs : s.IsProper) : Text.isVoid s.domain = false := by
  have hproblems := hs.problems
  simp only [Site.problems, List.append_eq_nil_iff] at hproblems
  simpa using hproblems.1.2

theorem Site.admits_toJson {s : Site} (hs : s.IsProper) :
    Site.schema.Admits (Json.settle s.toJson) := by
  refine (Schema.admits_settle_object (by simp)).mpr ⟨by simp, ?_⟩
  have hextractors : (Schema.listOf extractorSchema).Admits
      (Json.settle (.array (s.extractors.map Extractor.toJson))) :=
    Schema.admits_settle_array.mpr (List.forall_mem_map.mpr fun e _ => e.admits_toJson)
  have hinstructions : (Schema.listOf instructionSchema).Admits
      (Json.settle (.array (s.instructions.map Instruction.toJson))) :=
    Schema.admits_settle_array.mpr (List.forall_mem_map.mpr fun i _ => i.admits_toJson)
  have hpatterns : (Schema.listOf (.typed [.string])).Admits
      (Json.settle (.array (s.urlPatterns.map .string))) :=
    Schema.admits_settle_array.mpr
      (List.forall_mem_map.mpr fun text _ => Schema.admits_settle_string text)
  have hid := length_pos_of_not_isVoid hs.id
  have hdomain := length_pos_of_not_isVoid hs.domain
  have hoptions := PageOptions.admits_toJson hs.options
  simpa using ⟨hdomain, hextractors, hid, hinstructions, hoptions, hpatterns⟩

theorem Site.isProper_of_ofDocument {document : Json} {s : Site}
    (hread : Site.ofDocument document = .ok s) : s.IsProper := by
  unfold Site.ofDocument at hread
  dsimp only at hread
  split at hread
  · cases hread
  · rename_i hshape
    have hadmits : Site.schema.Admits document := by simpa [Schema.Admits] using hshape
    split at hread
    · cases hread
    · rename_i found hfound
      split at hread
      · cases hread
      · rename_i hvalid
        cases hread
        refine ⟨Site.fits_of_read hfound, Site.isPositive_of_read hadmits hfound, ?_⟩
        simp only [Site.validate] at hvalid
        split at hvalid
        · rename_i hempty
          simpa using hempty
        · cases hvalid

theorem Site.IsProper.ofDocument_settle {s : Site} (hs : s.IsProper) :
    Site.ofDocument (Json.settle s.toJson) = .ok s := by
  have hproblems : Site.schema.problems (Json.settle s.toJson) = [] := Site.admits_toJson hs
  have hread := Site.isSteady_read _ _ (Site.read_toJson hs.fits)
  have hvalid : s.validate = .ok () := by simp [Site.validate, hs.problems]
  simp [Site.ofDocument, hproblems, hread, hvalid]

/-- A site that a text holds is held by its own texts as well, the compact one and the indented
one: what is accepted once is accepted again as it is written. -/
theorem Site.parse_text_of_parse {text : String} {s : Site} (hparse : Site.parse text = .ok s) :
    Site.parse s.toJson.compact = .ok s ∧ Site.parse s.toJson.pretty = .ok s := by
  have hs : s.IsProper := by
    unfold Site.parse at hparse
    split at hparse
    · cases hparse
    · exact Site.isProper_of_ofDocument hparse
  have hlegible : Json.Legible Json.maxDepth s.toJson := Site.legible_toJson hs.fits 124
  constructor
  · simp only [Site.parse, Json.readFree, Json.read_compact hlegible, Except.map]
    exact hs.ofDocument_settle
  · simp only [Site.parse, Json.readFree, Json.read_pretty hlegible, Except.map]
    exact hs.ofDocument_settle

/-- A document with its members out of order, `null` for an absent user agent and a moment in a zone
of its own. -/
def outOfOrderDocument : String :=
  "\x7b\"domain\": \"a.org\", \"id\": \"a\", \"instructions\": [\x7b\"waitFor\": \"timeout\", \"action\":
    \"wait\", \"step\": 1, \"description\": \"Rest\"\x7d], \"options\": \x7b\"userAgent\": null\x7d,
    \"updatedAt\": \"2024-02-29T12:00:00.5+02:00\"\x7d"

/-- The site that the document holds. -/
def outOfOrderSite : Site where
  id := "a"
  domain := "a.org"
  instructions :=
    [{ step := 1, description := "Rest", action := .wait none none, waitFor := some .timeout }]
  updatedAt := some { seconds := 1709200800, nanos := 500000000 }

/-- The texts of that site hold it, though neither is the document. -/
theorem parse_text_of_out_of_order :
    Site.parse outOfOrderDocument = .ok outOfOrderSite ∧
      Site.parse outOfOrderSite.toJson.compact = .ok outOfOrderSite ∧
      Site.parse outOfOrderSite.toJson.pretty = .ok outOfOrderSite := by
  have hparse : Site.parse outOfOrderDocument = .ok outOfOrderSite :=
    toOption_eq_some.mp (by decide +kernel)
  exact ⟨hparse, Site.parse_text_of_parse hparse⟩

end SiteWatch
