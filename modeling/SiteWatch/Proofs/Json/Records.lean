/-
# Records in JSON

What the record of an object is when every key stands in it once: that which its fields hold, each
under its own name. And what can be said of any record that is read, from an object or from an array:
that which can be said of its fields.
-/

import Mathlib.Algebra.GroupWithZero.Nat
import SiteWatch.Json.Record
import SiteWatch.Proofs.Json.Canonical
import SiteWatch.Proofs.Outcome

namespace SiteWatch

variable {α β : Type}

/-! ## Members -/

namespace Members

attribute [simp] get?_cons get?_append

@[simp]
theorem get?_nil (key : String) : get? [] key = none := rfl

@[simp]
theorem get?_member? (key : String) (write : α → Json) (o : Option α) (other : String) :
    get? (Json.member? key write o) other = if key = other then o.map write else none := by
  cases o <;> simp [Json.member?, get?_cons]

end Members

namespace Json

/-- The members of an object; every other value has none. -/
def membersOf : Json → Members
  | .object members => members
  | _ => []

/-! ## Fields that are read back -/

/-- A reader gives back what was written. -/
def ReadsBackAs (read : Reader α) (write : α → Json) (a : α) : Prop :=
  read (write a) = .ok a ∧ write a ≠ .null

theorem readText_string (text : String) : ReadsBackAs readText .string text :=
  ⟨rfl, by simp⟩

theorem readBool_bool (b : Bool) : ReadsBackAs readBool .bool b := ⟨rfl, by simp⟩

theorem readUnsigned_ofNat {bits n : Nat} (hn : n < 2 ^ bits) (expected : String) :
    ReadsBackAs (readUnsigned bits expected) ofNat n := by
  refine ⟨?_, by simp [ofNat]⟩
  simp only [readUnsigned, ofNat]
  rw [if_pos]
  · simp
  · refine ⟨Int.natCast_nonneg n, ?_⟩
    exact_mod_cast hn

theorem readOptional_ofOption {read : Reader α} {write : α → Json} {o : Option α}
    (ho : ∀ a ∈ o, ReadsBackAs read write a) : readOptional read (ofOption write o) = .ok o := by
  cases o with
  | none => rfl
  | some a =>
      obtain ⟨hread, hnull⟩ := ho a rfl
      simp only [ofOption, readOptional, hread]
      rfl

theorem readList_map {read : Reader α} {write : α → Json} {items : List α}
    (hitems : ∀ a ∈ items, read (write a) = .ok a) :
    readList read (.array (items.map write)) = .ok items := by
  simp only [readList]
  induction items with
  | nil => rfl
  | cons a rest ih =>
      rw [List.map_cons, List.mapM_cons, hitems a List.mem_cons_self,
        ih fun b hb => hitems b (List.mem_cons_of_mem _ hb)]
      rfl

namespace Record

/-! ## Records that objects hold -/

/-- The members of an object hold a record. -/
def Holds (record : Record α) (members : Members) (a : α) : Prop := record.ofMembers members = .ok a

variable {members : Members} {name : String} {read : Reader α} {a : α}

theorem Holds.map {record : Record α} (hrecord : record.Holds members a) (f : α → β) :
    (f <$> record).Holds members (f a) := by
  show (record.ofMembers members).map f = _
  rw [hrecord]
  rfl

theorem Holds.seq {first : Record (α → β)} {second : Record α} {f : α → β}
    (hfirst : first.Holds members f) (hsecond : second.Holds members a) :
    (first <*> second).Holds members (f a) := by
  simp only [Holds] at hfirst hsecond
  show (combined first second).ofMembers members = _
  simp only [combined, hfirst, hsecond]

/-- A record of several fields that members hold is made of what they hold for each. -/
theorem Holds.exists_of_seq {first : Record (α → β)} {second : Record α} {b : β}
    (hrecord : (first <*> second).Holds members b) :
    ∃ f a, first.Holds members f ∧ second.Holds members a ∧ b = f a := by
  change (combined first second).ofMembers members = .ok b at hrecord
  simp only [combined] at hrecord
  split at hrecord
  · rename_i f a hf ha
    cases hrecord
    exact ⟨f, a, hf, ha, rfl⟩
  · cases hrecord
  · cases hrecord
  · cases hrecord

theorem holds_of_readMembers {record : Record α} (hread : record.readMembers members = .ok a) :
    record.Holds members a := by
  simp only [Record.readMembers] at hread
  split at hread
  · cases hread
  · exact mapError_eq_ok.mp hread

/-- A member is found with its place exactly if it is there. -/
theorem map_locate? (name : String) (place : Nat) (members : Members) :
    (locate? [name] place members).map Prod.snd = members.get? name := by
  induction members generalizing place with
  | nil => rfl
  | cons member rest ih =>
      obtain ⟨key, value⟩ := member
      rw [Members.get?_cons]
      by_cases hkey : key = name
      · simp [locate?, hkey]
      · simpa [locate?, hkey] using ih (place + 1)

theorem holds_field {missing : Except Mismatch α} {short : Option α} {v : Json}
    (hmember : members.get? name = some v) (hread : read v = .ok a) :
    (field [name] read missing short).Holds members a := by
  rw [← map_locate? name 0] at hmember
  obtain ⟨⟨place, _⟩, hfound, rfl⟩ := Option.map_eq_some_iff.mp hmember
  simp only [Holds, field, hfound, hread]
  rfl

theorem holds_field_of_missing {short : Option α} (hmember : members.get? name = none) :
    (field [name] read (.ok a) short).Holds members a := by
  rw [← map_locate? name 0, Option.map_eq_none_iff] at hmember
  simp only [Holds, field, hmember]
  rfl

/-- A field holds what its member is read as, or what stands in for a missing member. -/
theorem Holds.of_field {missing : Except Mismatch α} {short : Option α}
    (hfield : (field [name] read missing short).Holds members a) :
    (∃ v, members.get? name = some v ∧ read v = .ok a) ∨
      members.get? name = none ∧ missing = .ok a := by
  rw [← map_locate? name 0]
  simp only [Holds, field] at hfield
  split at hfield
  · rename_i place v hfound
    exact .inl ⟨v, by rw [hfound, Option.map_some], mapError_eq_ok.mp hfield⟩
  · rename_i hfound
    exact .inr ⟨by rw [hfound, Option.map_none], mapError_eq_ok.mp hfield⟩

/-- An optional member that is left out when there is nothing to write. -/
theorem holds_optional {write : α → Json} {o : Option α}
    (hmember : members.get? name = o.map write) (ho : ∀ a ∈ o, ReadsBackAs read write a) :
    (optional name read).Holds members o := by
  cases o with
  | none => exact holds_field_of_missing hmember
  | some a => exact holds_field hmember (readOptional_ofOption ho)

/-! ## No field twice -/

theorem go_repeated?_eq_none {names : List (List String)}
    (hnames : ∀ field ∈ names, field.length = 1) (place : Nat) (seen : List String)
    (members : Members) (hkeys : (members.map Prod.fst).Nodup)
    (hseen : ∀ key ∈ members.map Prod.fst, key ∉ seen) :
    repeated?.go names place seen members = none := by
  induction members generalizing place seen with
  | nil => rfl
  | cons member rest ih =>
      obtain ⟨key, value⟩ := member
      rw [List.map_cons, List.nodup_cons] at hkeys
      simp only [repeated?.go]
      split
      · exact ih _ _ hkeys.2 fun other hother => hseen other (List.mem_cons_of_mem _ hother)
      · rename_i field hfield
        have hown : field.headD key = key := by
          obtain ⟨name, rfl⟩ :=
            List.length_eq_one_iff.mp (hnames field (List.mem_of_find?_eq_some hfield))
          simpa [eq_comm] using List.find?_some hfield
        have hnew : seen.contains key = false := by
          simpa using hseen key (by simp)
        simp only [hown, hnew, Bool.false_eq_true, if_false]
        refine ih _ _ hkeys.2 fun other hother => ?_
        rw [List.mem_cons, not_or]
        refine ⟨?_, hseen other (List.mem_cons_of_mem _ hother)⟩
        rintro rfl
        exact hkeys.1 hother

/-- An object in which every key stands once is read as what its members hold. -/
theorem Holds.readMembers {record : Record α} (hrecord : record.Holds members a)
    (hnames : ∀ field ∈ record.names, field.length = 1) (hkeys : (members.map Prod.fst).Nodup) :
    record.readMembers members = .ok a := by
  have hrepeated : repeated? record.names members = none :=
    go_repeated?_eq_none hnames 0 [] members hkeys (by simp)
  simp only [Holds] at hrecord
  simp only [Record.readMembers, hrepeated, hrecord]
  rfl

/-! ## What is said of every record that is read -/

/-- Whatever a record is read from, it is of some kind. -/
structure Gives (record : Record α) (good : α → Prop) : Prop where
  ofMembers : ∀ members a, record.ofMembers members = .ok a → good a
  ofItems : ∀ items a rest, record.ofItems items = .ok (a, rest) → good a

theorem gives_true (record : Record α) : record.Gives fun _ => True :=
  ⟨fun _ _ _ => trivial, fun _ _ _ _ => trivial⟩

theorem Gives.map {record : Record α} {good : α → Prop} {better : β → Prop} {f : α → β}
    (hrecord : record.Gives good) (hbetter : ∀ a, good a → better (f a)) :
    (f <$> record).Gives better where
  ofMembers members b hread := by
    change (record.ofMembers members).map f = .ok b at hread
    obtain ⟨a, ha, rfl⟩ := map_eq_ok.mp hread
    exact hbetter a (hrecord.ofMembers members a ha)
  ofItems items b rest hread := by
    change (record.ofItems items).map _ = .ok (b, rest) at hread
    obtain ⟨⟨a, _⟩, ha, hpair⟩ := map_eq_ok.mp hread
    cases hpair
    exact hbetter a (hrecord.ofItems items a _ ha)

theorem Gives.seq {first : Record (α → β)} {second : Record α} {good : α → Prop}
    {better : β → Prop} (hfirst : first.Gives fun f => ∀ a, good a → better (f a))
    (hsecond : second.Gives good) : (first <*> second).Gives better where
  ofMembers members b hread := by
    obtain ⟨f, a, hf, ha, rfl⟩ := Holds.exists_of_seq hread
    exact hfirst.ofMembers members f hf a (hsecond.ofMembers members a ha)
  ofItems items b rest hread := by
    change (combined first second).ofItems items = .ok (b, rest) at hread
    simp only [combined, bind_eq_ok] at hread
    obtain ⟨⟨f, between⟩, hf, ⟨a, _⟩, ha, hpair⟩ := hread
    cases hpair
    exact hfirst.ofItems items f between hf a (hsecond.ofItems between a _ ha)

theorem gives_field {names : List String} {missing : Except Mismatch α} {short : Option α}
    {good : α → Prop} (hread : ∀ v a, read v = .ok a → good a)
    (hmissing : ∀ a, missing = .ok a → good a) (hshort : ∀ a ∈ short, good a) :
    (field names read missing short).Gives good where
  ofMembers members a hfound := by
    simp only [field] at hfound
    split at hfound
    · exact hread _ a (mapError_eq_ok.mp hfound)
    · exact hmissing a (mapError_eq_ok.mp hfound)
  ofItems items a rest hfound := by
    simp only [field] at hfound
    split at hfound
    · obtain ⟨_, ha, hpair⟩ := map_eq_ok.mp hfound
      cases hpair
      exact hread _ a ha
    · split at hfound
      · cases hfound
        exact hshort a rfl
      · cases hfound

variable {good : α → Prop}

theorem gives_required (hread : ∀ v a, read v = .ok a → good a) :
    (required name read).Gives good :=
  gives_field hread (by simp) (by simp)

theorem gives_defaulted {value : α} (hread : ∀ v a, read v = .ok a → good a) (hvalue : good value) :
    (defaulted name value read).Gives good := by
  refine gives_field hread ?_ ?_
  · rintro a ⟨⟩
    exact hvalue
  · rintro a ⟨⟩
    exact hvalue

theorem gives_optional (hread : ∀ v a, read v = .ok a → good a) :
    (optional name read).Gives fun o => ∀ a ∈ o, good a := by
  refine gives_field ?_ ?_ ?_
  · intro v o hfound a ha
    unfold readOptional at hfound
    split at hfound
    · cases hfound
      cases ha
    · obtain ⟨b, hb, rfl⟩ := map_eq_ok.mp hfound
      cases ha
      exact hread _ a hb
  · rintro o ⟨⟩
    simp
  · rintro o ⟨⟩
    simp

/-- A record that is read is what its fields make it. -/
theorem Gives.of_readMembers {record : Record α} (hrecord : record.Gives good) {members : Members}
    (hread : record.readMembers members = .ok a) : good a :=
  hrecord.ofMembers members a (holds_of_readMembers hread)

theorem Gives.of_read {record : Record α} (hrecord : record.Gives good) {v : Json}
    (hread : record.read v = .ok a) : good a := by
  unfold Record.read at hread
  split at hread
  · exact hrecord.of_readMembers hread
  · simp only [bind_eq_ok] at hread
    obtain ⟨⟨b, rest⟩, hb, hread⟩ := hread
    split at hread
    · cases hread
      exact hrecord.ofItems _ _ rest hb
    · cases hread
  · cases hread

end Record

/-- The items of a list that is read are what they are read as. -/
theorem forall_of_readList {read : Reader α} {good : α → Prop}
    (hread : ∀ v a, read v = .ok a → good a) {v : Json} {items : List α}
    (hfound : readList read v = .ok items) : ∀ a ∈ items, good a := by
  unfold readList at hfound
  split at hfound
  · rename_i values
    induction values generalizing items with
    | nil =>
        cases hfound
        simp
    | cons value rest ih =>
        rw [List.mapM_cons] at hfound
        simp only [bind_eq_ok] at hfound
        obtain ⟨a, ha, others, hothers, hitems⟩ := hfound
        cases hitems
        intro b hb
        rcases List.mem_cons.mp hb with rfl | hb
        · exact hread value b ha
        · exact ih hothers b hb
  · cases hfound

theorem lt_of_readUnsigned {bits n : Nat} {expected : String} {v : Json}
    (hread : readUnsigned bits expected v = .ok n) : n < 2 ^ bits := by
  unfold readUnsigned at hread
  split at hread
  · split at hread
    · rename_i hbounds
      cases hread
      have hpow : Nat.pow 2 bits = 2 ^ bits := rfl
      omega
    · cases hread
  · cases hread

end Json

end SiteWatch
