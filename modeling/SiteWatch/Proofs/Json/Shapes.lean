/-
# What has a shape

A value that departs from a shape in nothing has that shape: an object if the members it must have
are there and every member has its own shape. Here is what each kind of shape asks of a value, of a
settled document in particular, and how the shape of a document bounds the record read from it.
-/

import SiteWatch.Json.Schema
import SiteWatch.Proofs.Json.Settled

namespace SiteWatch.Json

variable {α β : Type}

namespace Schema

/-- A value departs from a shape in nothing. -/
def Admits (shape : Schema) (v : Json) : Prop := shape.problems v = []

theorem problems_typed (kinds : List Kind) (v : Json) :
    problems (typed kinds) v = typeProblems kinds v := rfl

theorem problems_integerFrom (least : Nat) (v : Json) :
    problems (integerFrom least) v = typeProblems [.integer] v ++ (if isBelow least v then
      [v.compact ++ " is less than the minimum of " ++ toString least] else []) := rfl

theorem problems_object (required : List String) (properties : List (String × Schema))
    (members : Members) :
    problems (objectOf required properties) (.object members) =
      (required.filter fun key => (Members.get? members key).isNone).map
          (fun key => quoted key ++ " is a required property")
        ++ memberProblems properties members := rfl

theorem memberProblems_cons (key : String) (shape : Schema) (rest : List (String × Schema))
    (members : Members) :
    memberProblems ((key, shape) :: rest) members =
      (match Members.get? members key with
        | some value => problems shape value
        | none => []) ++ memberProblems rest members := rfl

theorem memberProblems_eq_nil {properties : List (String × Schema)} {members : Members} :
    memberProblems properties members = [] ↔
      ∀ property ∈ properties, ∀ value ∈ Members.get? members property.1,
        property.2.Admits value := by
  induction properties with
  | nil => exact iff_of_true rfl nofun
  | cons property properties ih =>
      obtain ⟨key, shape⟩ := property
      rw [memberProblems_cons, List.append_eq_nil_iff, ih, List.forall_mem_cons]
      refine and_congr_left fun _ => ?_
      cases Members.get? members key <;> simp [Admits]

/-- An object has a shape if no member is missing and its members have theirs. -/
theorem admits_object {required : List String} {properties : List (String × Schema)}
    {members : Members} :
    (objectOf required properties).Admits (.object members) ↔
      (∀ key ∈ required, (Members.get? members key).isSome) ∧
      ∀ property ∈ properties, ∀ value ∈ Members.get? members property.1,
        property.2.Admits value := by
  rw [Admits, problems_object]
  simp only [List.append_eq_nil_iff, List.map_eq_nil_iff, List.filter_eq_nil_iff,
    memberProblems_eq_nil]
  refine and_congr_left fun _ => forall₂_congr fun key _ => ?_
  cases Members.get? members key <;> simp

theorem admits_typed {kinds : List Kind} {v : Json} :
    (typed kinds).Admits v ↔ ∃ kind ∈ kinds, hasKind kind v := by
  rw [Admits, problems_typed]
  unfold typeProblems
  split
  · rename_i hany
    simpa using hany
  · rename_i hany
    have hnone : ¬ ∃ kind ∈ kinds, hasKind kind v := by simpa using hany
    simp only [hnone, iff_false]
    split <;> simp

theorem admits_integerFrom {least : Nat} {v : Json} :
    (integerFrom least).Admits v ↔ (typed [.integer]).Admits v ∧ isBelow least v = false := by
  rw [Admits, problems_integerFrom, List.append_eq_nil_iff]
  refine and_congr_right fun _ => ?_
  split <;> simp_all

/-- Only an object has the shape of one. -/
theorem Admits.exists_object {required : List String} {properties : List (String × Schema)}
    {v : Json} (hv : (objectOf required properties).Admits v) : ∃ members, v = .object members := by
  cases v with
  | object members => exact ⟨members, rfl⟩
  | _ =>
      have hkind : (typed [.object]).Admits _ := hv
      obtain ⟨kind, hkind, hof⟩ := admits_typed.mp hkind
      obtain rfl := List.mem_singleton.mp hkind
      cases hof

/-- Where every key stands once, the settled object has a shape if the settled members have
theirs. -/
theorem admits_settle_object {required : List String} {properties : List (String × Schema)}
    {members : Members} (hkeys : (members.map Prod.fst).Nodup) :
    (objectOf required properties).Admits (settle (.object members)) ↔
      (∀ key ∈ required, (Members.get? members key).isSome) ∧
      ∀ property ∈ properties, ∀ value ∈ Members.get? members property.1,
        property.2.Admits (settle value) := by
  rw [settle_object_eq, admits_object]
  simp only [get?_settledMembers, Members.last?_eq_get? hkeys, Option.isSome_map]
  refine and_congr_right fun _ => forall₂_congr fun property _ => ?_
  cases Members.get? members property.1 <;> simp

theorem admits_settle_array {items : Schema} {values : List Json} :
    (listOf items).Admits (settle (.array values)) ↔ ∀ v ∈ values, items.Admits (settle v) := by
  rw [settle_array]
  show (values.map settle).flatMap (problems items) = [] ↔ _
  rw [List.flatMap_eq_nil_iff, List.forall_mem_map]
  rfl

@[simp]
theorem admits_settle_string (text : String) :
    (typed [.string]).Admits (settle (.string text)) :=
  admits_typed.mpr ⟨_, List.mem_cons_self, rfl⟩

@[simp]
theorem admits_settle_bool (b : Bool) : (typed [.boolean]).Admits (settle (.bool b)) :=
  admits_typed.mpr ⟨_, List.mem_cons_self, rfl⟩

/-- A natural number has the shape of an integer from a bound on that it reaches. -/
@[simp]
theorem admits_settle_ofNat {least n : Nat} :
    (integerFrom least).Admits (settle (.ofNat n)) ↔ least ≤ n := by
  have hinteger : (typed [.integer]).Admits (settle (.ofNat n)) :=
    admits_typed.mpr ⟨_, List.mem_cons_self, rfl⟩
  rw [admits_integerFrom, and_iff_right hinteger]
  show decide ((n : Int) < least) = false ↔ least ≤ n
  rw [decide_eq_false_iff_not]
  omega

@[simp]
theorem admits_settle_textOf {least : Nat} {text : String} :
    (textOf least).Admits (settle (.string text)) ↔ least ≤ text.length := by
  show lengthProblems least text = [] ↔ least ≤ text.length
  rw [lengthProblems]
  split <;> simp <;> omega

@[simp]
theorem admits_settle_oneOf {words : List String} {word : String} :
    (oneOf words).Admits (settle (.string word)) ↔ word ∈ words := by
  show (if words.contains word then [] else choiceProblems.complaint words (.string word)) = [] ↔ _
  simp only [List.contains_eq_mem, decide_eq_true_eq, ite_eq_left_iff]
  refine ⟨fun h => by_contra fun hword => ?_, fun hword h => absurd hword h⟩
  have hnone := h hword
  unfold choiceProblems.complaint at hnone
  split at hnone <;> cases hnone

theorem le_of_admits_integerFrom {least bits n : Nat} {expected : String} {v : Json}
    (hshape : (integerFrom least).Admits v) (hread : readUnsigned bits expected v = .ok n) :
    least ≤ n := by
  cases v with
  | int m =>
      simp only [readUnsigned] at hread
      split at hread
      · cases hread
        have hbelow : decide (m < least) = false := (admits_integerFrom.mp hshape).2
        rw [decide_eq_false_iff_not] at hbelow
        omega
      · cases hread
  | _ => cases hread

end Schema

/-! ## The record of certain members -/

namespace Record

/-- Whatever certain members are read as, it is of some kind. -/
def GivesFrom (members : Members) (record : Record α) (good : α → Prop) : Prop :=
  ∀ a, record.ofMembers members = .ok a → good a

variable {members : Members} {good : α → Prop} {better : β → Prop}

theorem givesFrom_true (record : Record α) : record.GivesFrom members fun _ => True :=
  fun _ _ => trivial

theorem GivesFrom.map {record : Record α} {f : α → β} (hrecord : record.GivesFrom members good)
    (hbetter : ∀ a, good a → better (f a)) : (f <$> record).GivesFrom members better := by
  intro b hread
  change (record.ofMembers members).map f = .ok b at hread
  obtain ⟨a, ha, rfl⟩ := map_eq_ok.mp hread
  exact hbetter a (hrecord a ha)

theorem GivesFrom.seq {first : Record (α → β)} {second : Record α}
    (hfirst : first.GivesFrom members fun f => ∀ a, good a → better (f a))
    (hsecond : second.GivesFrom members good) : (first <*> second).GivesFrom members better := by
  intro b hread
  obtain ⟨f, a, hf, ha, rfl⟩ := Holds.exists_of_seq hread
  exact hfirst f hf a (hsecond a ha)

theorem givesFrom_field {name : String} {read : Reader α} {missing : Except Mismatch α}
    {short : Option α}
    (hread : ∀ v a, members.get? name = some v → read v = .ok a → good a)
    (hmissing : ∀ a, missing = .ok a → good a) :
    (field [name] read missing short).GivesFrom members good := by
  intro a hfound
  obtain ⟨v, hmember, hv⟩ | ⟨-, hlacking⟩ := Holds.of_field hfound
  · exact hread v a hmember hv
  · exact hmissing a hlacking

/-- A record that members are read as is what certain of its fields make it. -/
theorem GivesFrom.of_readMembers {record : Record α} (hrecord : record.GivesFrom members good)
    {a : α} (hread : record.readMembers members = .ok a) : good a := by
  simp only [Record.readMembers] at hread
  split at hread
  · cases hread
  · exact hrecord a (mapError_eq_ok.mp hread)

end Record

end SiteWatch.Json
