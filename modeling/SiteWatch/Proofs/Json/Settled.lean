/-
# Settled documents

Settling a document sorts the members of its objects and keeps the last one of every key. A record
refuses a field that stands twice and takes its fields by name, so what a document is read as is also
what the settled document is read as.
-/

import SiteWatch.Proofs.Json.Records

namespace SiteWatch

variable {α β : Type}

/-! ## Members by their keys -/

namespace Members

theorem last?_cons (member : String × Json) (members : Members) (key : String) :
    last? key (member :: members) =
      (last? key members).or (if member.1 = key then some member.2 else none) := by
  simp [last?, List.reverse_cons]

theorem last?_eq_none {members : Members} {key : String}
    (hkey : key ∉ members.map Prod.fst) : last? key members = none := by
  cases hlast : last? key members with
  | none => rfl
  | some value => exact absurd (List.mem_map_of_mem (mem_of_last? hlast)) hkey

/-- Where every key stands once, its last member is its first. -/
theorem last?_eq_get? {members : Members} (hkeys : (members.map Prod.fst).Nodup) (key : String) :
    last? key members = get? members key := by
  induction members with
  | nil => rfl
  | cons member members ih =>
      rw [List.map_cons, List.nodup_cons] at hkeys
      rw [last?_cons, get?_cons, ih hkeys.2]
      by_cases hkey : member.1 = key
      · have hnone : get? members key = none := by
          rw [← ih hkeys.2]
          exact last?_eq_none (hkey ▸ hkeys.1)
        simp [hkey, hnone]
      · simp [hkey]

theorem get?_filter (keep : String → Bool) (members : Members) (key : String) :
    get? (members.filter fun member => keep member.1) key =
      if keep key then get? members key else none := by
  induction members with
  | nil => simp
  | cons member members ih =>
      rw [List.filter_cons]
      by_cases hkey : member.1 = key
      · subst hkey
        cases hkeep : keep member.1 <;> simp [hkeep, ih]
      · cases hkeep : keep member.1 <;> simp [hkey, ih]

/-- Members chosen by their keys may be sorted before or after they are chosen. -/
theorem filter_ofList (keep : String → Bool) (members : Members) :
    (ofList members).filter (fun member => keep member.1) =
      ofList (members.filter fun member => keep member.1) := by
  refine IsAscending.ext ((isAscending_ofList _).sublist List.filter_sublist)
    (isAscending_ofList _) fun key => ?_
  rw [get?_filter, get?_ofList, get?_ofList, last?, last?, ← List.filter_reverse, get?_filter]

end Members

namespace Json

/-- The members of a settled object. -/
def settledMembers (members : Members) : Members := Members.ofList (settleMembers members)

theorem settle_object_eq (members : Members) :
    settle (.object members) = .object (settledMembers members) := settle_object members

theorem get?_settledMembers (members : Members) (key : String) :
    Members.get? (settledMembers members) key = (Members.last? key members).map settle := by
  rw [settledMembers, Members.get?_ofList, last?_settleMembers]

theorem nodup_settledMembers (members : Members) :
    ((settledMembers members).map Prod.fst).Nodup :=
  List.pairwise_map.mpr ((Members.isAscending_ofList _).imp fun hlt => String.ne_of_lt hlt)

/-- A settled value is settled as it is. -/
theorem settle_settle (v : Json) : settle (settle v) = settle v := by
  induction v using contents_induction with
  | array items ih =>
      rw [settle_array, settle_array, List.map_map]
      exact congrArg array (List.map_congr_left ih)
  | object members ih =>
      rw [settle_object members]
      refine settle_object_inj.mpr fun key => ?_
      rw [← settledMembers, Members.last?_eq_get? (nodup_settledMembers members),
        get?_settledMembers, Option.map_map]
      cases hlast : Members.last? key members with
      | none => rfl
      | some value => exact congrArg some (ih (key, value) (Members.mem_of_last? hlast))
  | null | bool | int | float | string => rfl

theorem filter_settledMembers (keep : String → Bool) (members : Members) :
    (settledMembers members).filter (fun member => keep member.1) =
      settledMembers (members.filter fun member => keep member.1) := by
  rw [settledMembers, Members.filter_ofList, settledMembers, settleMembers_eq_map,
    settleMembers_eq_map, List.filter_map]
  rfl

/-! ## Readers -/

/-- What a value is read as, the settled value is read as. -/
def IsSteady (read : Reader α) : Prop := ∀ v a, read v = .ok a → read (settle v) = .ok a

theorem isSteady_readText : IsSteady readText := by
  intro v a hread
  cases v with
  | string text => exact hread
  | _ => cases hread

theorem isSteady_readBool : IsSteady readBool := by
  intro v a hread
  cases v with
  | bool b => exact hread
  | _ => cases hread

theorem isSteady_readUnsigned (bits : Nat) (expected : String) :
    IsSteady (readUnsigned bits expected) := by
  intro v a hread
  cases v with
  | int n => exact hread
  | _ => cases hread

theorem isSteady_readInstant : IsSteady readInstant := by
  intro v a hread
  cases v with
  | string text => exact hread
  | _ => cases hread

theorem isSteady_readChoice (choices : List (String × α)) : IsSteady (readChoice choices) := by
  intro v a hread
  unfold readChoice at hread
  split at hread
  · exact hread
  · exact hread
  · split at hread <;> cases hread
  · cases hread

theorem IsSteady.optional {read : Reader α} (hsteady : IsSteady read) :
    IsSteady (readOptional read) := by
  intro v o hread
  unfold readOptional at hread
  split at hread
  · exact hread
  · rename_i hnull
    obtain ⟨a, ha, rfl⟩ := map_eq_ok.mp hread
    unfold readOptional
    split
    · rename_i hsettle
      cases v <;> simp_all [settle]
    · rw [hsteady v a ha]
      rfl

theorem IsSteady.list {read : Reader α} (hsteady : IsSteady read) : IsSteady (readList read) := by
  intro v items hread
  unfold readList at hread
  split at hread
  · rename_i values
    rw [settle_array]
    simp only [readList]
    induction values generalizing items with
    | nil => exact hread
    | cons value rest ih =>
        rw [List.mapM_cons] at hread
        simp only [bind_eq_ok] at hread
        obtain ⟨a, ha, others, hothers, hitems⟩ := hread
        rw [List.map_cons, List.mapM_cons, hsteady value a ha, ih others hothers]
        exact hitems
  · cases hread

/-! ## Records -/

namespace Record

/-- What members or items are read as, others with the settled values of the same fields are read
as. -/
structure IsSteady (record : Record α) : Prop where
  ofMembers : ∀ (members others : Members) a,
    (∀ name, [name] ∈ record.names →
      others.get? name = (members.get? name).map settle) →
    record.ofMembers members = .ok a → record.ofMembers others = .ok a
  ofItems : ∀ items a rest, record.ofItems items = .ok (a, rest) →
    record.ofItems (items.map settle) = .ok (a, rest.map settle)

theorem isSteady_pure (a : α) : (pure a : Record α).IsSteady where
  ofMembers _ _ _ _ hread := hread
  ofItems items b rest hread := by
    change Except.ok (a, items) = .ok (b, rest) at hread
    cases hread
    rfl

theorem IsSteady.map {record : Record α} (hsteady : record.IsSteady) (f : α → β) :
    (f <$> record).IsSteady where
  ofMembers members others b hsame hread := by
    change (record.ofMembers members).map f = .ok b at hread
    obtain ⟨a, ha, rfl⟩ := map_eq_ok.mp hread
    exact map_eq_ok.mpr ⟨a, hsteady.ofMembers members others a hsame ha, rfl⟩
  ofItems items b rest hread := by
    change (record.ofItems items).map _ = .ok (b, rest) at hread
    obtain ⟨⟨a, _⟩, ha, hpair⟩ := map_eq_ok.mp hread
    cases hpair
    exact map_eq_ok.mpr ⟨_, hsteady.ofItems items a _ ha, rfl⟩

theorem IsSteady.seq {first : Record (α → β)} {second : Record α} (hfirst : first.IsSteady)
    (hsecond : second.IsSteady) : (first <*> second).IsSteady where
  ofMembers members others b hsame hread := by
    obtain ⟨f, a, hf, ha, rfl⟩ := Holds.exists_of_seq hread
    have hothers : first.Holds others f := hfirst.ofMembers members others f (fun name hname =>
      hsame name (List.mem_append_left _ hname)) hf
    exact hothers.seq (hsecond.ofMembers members others a (fun name hname =>
      hsame name (List.mem_append_right _ hname)) ha)
  ofItems items b rest hread := by
    change (combined first second).ofItems items = .ok (b, rest) at hread
    show (combined first second).ofItems (items.map settle) = .ok (b, rest.map settle)
    simp only [combined, bind_eq_ok] at hread ⊢
    obtain ⟨⟨f, between⟩, hf, ⟨a, _⟩, ha, hpair⟩ := hread
    cases hpair
    exact ⟨_, hfirst.ofItems items f between hf, _, hsecond.ofItems between a _ ha, rfl⟩

theorem isSteady_field {name : String} {read : Reader α} {missing : Except Mismatch α}
    {short : Option α} (hread : Json.IsSteady read) :
    (field [name] read missing short).IsSteady where
  ofMembers members others a hsame hfound := by
    have hmember := hsame name List.mem_cons_self
    obtain ⟨v, hfirst, hv⟩ | ⟨hfirst, rfl⟩ := Holds.of_field hfound
    · rw [hfirst] at hmember
      exact holds_field hmember (hread v a hv)
    · rw [hfirst] at hmember
      exact holds_field_of_missing hmember
  ofItems items a rest hfound := by
    cases items with
    | nil =>
        simp only [field] at hfound
        cases short with
        | none => cases hfound
        | some value =>
            cases hfound
            rfl
    | cons item items =>
        simp only [field] at hfound
        obtain ⟨value, hvalue, hpair⟩ := map_eq_ok.mp hfound
        cases hpair
        exact map_eq_ok.mpr ⟨a, hread item a hvalue, rfl⟩

theorem isSteady_required {name : String} {read : Reader α} (hread : Json.IsSteady read) :
    (required name read).IsSteady := isSteady_field hread

theorem isSteady_defaulted {name : String} {value : α} {read : Reader α}
    (hread : Json.IsSteady read) : (defaulted name value read).IsSteady := isSteady_field hread

theorem isSteady_optional {name : String} {read : Reader α} (hread : Json.IsSteady read) :
    (optional name read).IsSteady := isSteady_field hread.optional

/-- A field that does not stand twice stands last where it stands first. -/
theorem last?_eq_get?_of_go {names : List (List String)} {name : String}
    (hnames : ∀ field ∈ names, field.length = 1) (hname : [name] ∈ names) {place : Nat}
    {seen : List String} {members : Members}
    (hgo : repeated?.go names place seen members = none) :
    (name ∈ seen → Members.last? name members = none) ∧
      Members.last? name members = Members.get? members name := by
  induction members generalizing place seen with
  | nil => exact ⟨fun _ => rfl, rfl⟩
  | cons member rest ih =>
      obtain ⟨key, value⟩ := member
      simp only [repeated?.go] at hgo
      by_cases hkey : key = name
      · subst hkey
        cases hfield : names.find? (·.contains key) with
        | none => exact absurd (List.find?_eq_none.mp hfield _ hname) (by simp)
        | some field =>
            have hown : field.headD key = key := by
              obtain ⟨other, rfl⟩ :=
                List.length_eq_one_iff.mp (hnames field (List.mem_of_find?_eq_some hfield))
              simpa [eq_comm] using List.find?_some hfield
            simp only [hfield, hown] at hgo
            split at hgo
            · cases hgo
            · rename_i hnew
              have hnone := (ih hgo).1 List.mem_cons_self
              refine ⟨fun hseen => absurd hseen (by simpa using hnew), ?_⟩
              simp [Members.last?_cons, hnone]
      · have hrest : (name ∈ seen → Members.last? name rest = none) ∧
            Members.last? name rest = Members.get? rest name := by
          split at hgo
          · exact ih hgo
          · split at hgo
            · cases hgo
            · exact ⟨fun hseen => (ih hgo).1 (List.mem_cons_of_mem _ hseen), (ih hgo).2⟩
        simpa [Members.last?_cons, hkey] using hrest

/-- What an object is read as, the settled object is read as. -/
theorem IsSteady.readMembers {record : Record α} (hsteady : record.IsSteady)
    (hnames : ∀ field ∈ record.names, field.length = 1) {members : Members} {a : α}
    (hread : record.readMembers members = .ok a) :
    record.readMembers (settledMembers members) = .ok a := by
  simp only [Record.readMembers] at hread
  split at hread
  · cases hread
  · rename_i hrepeated
    have hall : record.Holds (settledMembers members) a := by
      refine hsteady.ofMembers members _ a (fun name hname => ?_) (mapError_eq_ok.mp hread)
      rw [get?_settledMembers, (last?_eq_get?_of_go hnames hname hrepeated).2]
    exact hall.readMembers hnames (nodup_settledMembers members)

theorem IsSteady.read {record : Record α} (hsteady : record.IsSteady)
    (hnames : ∀ field ∈ record.names, field.length = 1) : Json.IsSteady record.read := by
  intro v a hread
  unfold Record.read at hread
  split at hread
  · rw [settle_object_eq]
    exact hsteady.readMembers hnames hread
  · rename_i items
    simp only [bind_eq_ok] at hread
    obtain ⟨⟨b, rest⟩, hb, hread⟩ := hread
    rw [settle_array]
    simp only [Record.read, bind_eq_ok]
    refine ⟨_, hsteady.ofItems items b rest hb, ?_⟩
    simpa using hread
  · cases hread

end Record

end Json

end SiteWatch
