/-
# Two readers of one value

A second reader matches a first one on a value when they do not take it for different things, and
when the second one accepts the value, as far as it must, if the first one does. Records match as
their fields do, each on what stands in its place.
-/

import SiteWatch.Proofs.Json.Records

namespace SiteWatch

variable {ε ζ α β γ δ : Type}

/-- The values of two outcomes are related, and as far as it must, the second has one if the first
has. -/
structure Matches (must : Prop) (R : α → β → Prop) (first : Except ε α) (second : Except ζ β) :
    Prop where
  related : ∀ a b, first = .ok a → second = .ok b → R a b
  accepts : must → ∀ a, first = .ok a → ∃ b, second = .ok b

namespace Matches

variable {must other : Prop} {R : α → β → Prop} {S : γ → δ → Prop} {first : Except ε α}
  {second : Except ζ β}

theorem refl (must : Prop) (x : Except ε α) : Matches must Eq x x where
  related _ _ ha hb := Except.ok.inj (ha.symm.trans hb)
  accepts _ a ha := ⟨a, ha⟩

theorem of_ok {a : α} {b : β} (hR : R a b) :
    Matches must R (.ok a : Except ε α) (.ok b : Except ζ β) where
  related := by
    rintro _ _ ⟨⟩ ⟨⟩
    exact hR
  accepts _ _ _ := ⟨b, rfl⟩

/-- Nothing has to match a failure. -/
theorem of_error {fault : ε} : Matches must R (.error fault) second where
  related _ _ ha := by cases ha
  accepts _ _ ha := by cases ha

/-- Where nothing must be, a failure is no mismatch. -/
theorem of_not {fault : ζ} (hmust : ¬ must) : Matches must R first (.error fault) where
  related _ _ _ hb := by cases hb
  accepts h := absurd h hmust

theorem weaken (hmatches : Matches must R first second) (hmust : other → must) :
    Matches other R first second :=
  ⟨hmatches.related, fun h => hmatches.accepts (hmust h)⟩

theorem map {f : α → γ} {g : β → δ} (hmatches : Matches must R first second)
    (hS : ∀ a b, R a b → S (f a) (g b)) : Matches must S (first.map f) (second.map g) where
  related c d hc hd := by
    obtain ⟨a, ha, rfl⟩ := map_eq_ok.mp hc
    obtain ⟨b, hb, rfl⟩ := map_eq_ok.mp hd
    exact hS a b (hmatches.related a b ha hb)
  accepts h c hc := by
    obtain ⟨a, ha, -⟩ := map_eq_ok.mp hc
    obtain ⟨b, hb⟩ := hmatches.accepts h a ha
    exact ⟨g b, map_eq_ok.mpr ⟨b, hb, rfl⟩⟩

theorem mapError {ε' ζ' : Type} {f : ε → ε'} {g : ζ → ζ'} (hmatches : Matches must R first second) :
    Matches must R (first.mapError f) (second.mapError g) where
  related a b ha hb := hmatches.related a b (mapError_eq_ok.mp ha) (mapError_eq_ok.mp hb)
  accepts h a ha := by
    obtain ⟨b, hb⟩ := hmatches.accepts h a (mapError_eq_ok.mp ha)
    exact ⟨b, mapError_eq_ok.mpr hb⟩

theorem bind {f : α → Except ε γ} {g : β → Except ζ δ} (hmatches : Matches must R first second)
    (hthen : ∀ a b, R a b → Matches must S (f a) (g b)) :
    Matches must S (first >>= f) (second >>= g) where
  related c d hc hd := by
    obtain ⟨a, ha, hc⟩ := bind_eq_ok.mp hc
    obtain ⟨b, hb, hd⟩ := bind_eq_ok.mp hd
    exact (hthen a b (hmatches.related a b ha hb)).related c d hc hd
  accepts h c hc := by
    obtain ⟨a, ha, hc⟩ := bind_eq_ok.mp hc
    obtain ⟨b, hb⟩ := hmatches.accepts h a ha
    obtain ⟨d, hd⟩ := (hthen a b (hmatches.related a b ha hb)).accepts h c hc
    exact ⟨d, bind_eq_ok.mpr ⟨b, hb, hd⟩⟩

end Matches

namespace Json

variable {must : Prop} {R : α → β → Prop}

/-- A value that may be `null` in place of one that may not. -/
theorem matches_readOptional {read : Reader α} {R : α → Option α → Prop} {v : Json}
    (hnull : ∀ a, read .null ≠ .ok a) (hR : ∀ a, R a (some a)) :
    Matches must R (read v) (readOptional read v) := by
  cases v with
  | null =>
      cases hread : read .null with
      | error mismatch => exact .of_error
      | ok a => exact absurd hread (hnull a)
  | _ =>
      refine ⟨fun a o ha ho => ?_, fun _ a ha => ⟨some a, map_eq_ok.mpr ⟨a, ha, rfl⟩⟩⟩
      obtain ⟨b, hb, rfl⟩ := map_eq_ok.mp ho
      obtain rfl := Except.ok.inj (ha.symm.trans hb)
      exact hR a

namespace Record

variable {members : Members} {items between rest : List Json} {name : String}
  {names : List String} {read : Reader α} {other : Reader β} {value : α}
  {missing : Except Mismatch α} {lacking : Except Mismatch β} {short : Option α} {ended : Option β}
  {S : γ → δ → Prop}

/-! ## Objects -/

/-- A second record matches a first one on the members of an object. -/
def MatchesMembers (must : Prop) (R : α → β → Prop) (members : Members) (first : Record α)
    (second : Record β) : Prop :=
  Matches must R (first.ofMembers members) (second.ofMembers members)

theorem MatchesMembers.map {first : Record α} {second : Record β} {f : α → γ} {g : β → δ}
    (hmatches : MatchesMembers must R members first second) (hS : ∀ a b, R a b → S (f a) (g b)) :
    MatchesMembers must S members (f <$> first) (g <$> second) :=
  Matches.map hmatches hS

theorem MatchesMembers.seq {first : Record (α → γ)} {second : Record (β → δ)}
    {next : Record α} {following : Record β}
    (hmatches : MatchesMembers must (fun f g => ∀ a b, R a b → S (f a) (g b)) members first second)
    (hnext : MatchesMembers must R members next following) :
    MatchesMembers must S members (first <*> next) (second <*> following) where
  related c d hc hd := by
    obtain ⟨f, a, hf, ha, rfl⟩ := Holds.exists_of_seq hc
    obtain ⟨g, b, hg, hb, rfl⟩ := Holds.exists_of_seq hd
    exact hmatches.related f g hf hg a b (hnext.related a b ha hb)
  accepts h c hc := by
    obtain ⟨f, a, hf, ha, rfl⟩ := Holds.exists_of_seq hc
    obtain ⟨g, hg⟩ := hmatches.accepts h f hf
    obtain ⟨b, hb⟩ := hnext.accepts h a ha
    exact ⟨g b, Holds.seq hg hb⟩

theorem matchesMembers_field
    (hread : ∀ place v, locate? names 0 members = some (place, v) →
      Matches must R (read v) (other v))
    (hmissing : Matches must R missing lacking) :
    MatchesMembers must R members (field names read missing short)
      (field names other lacking ended) := by
  simp only [MatchesMembers, field]
  cases hfound : locate? names 0 members with
  | some found => exact (hread found.1 found.2 hfound).mapError
  | none => exact hmissing.mapError

theorem matchesMembers_refl (record : Record α) : MatchesMembers must Eq members record record :=
  .refl must _

/-- A default may be filled in later. -/
theorem matchesMembers_nullable (hnull : ∀ a, read .null ≠ .ok a) :
    MatchesMembers must (fun a o => a = o.getD value) members (defaulted name value read)
      (nullable name read) :=
  matchesMembers_field (fun _ _ _ => matches_readOptional hnull fun _ => rfl) (.of_ok rfl)

/-! ## Arrays -/

/-- A second record matches a first one on the items of an array, and both leave the same items. -/
def MatchesItems (must : Prop) (R : α → β → Prop) (items rest : List Json) (first : Record α)
    (second : Record β) : Prop :=
  Matches must (fun found other => R found.1 other.1 ∧ found.2 = rest ∧ other.2 = rest)
    (first.ofItems items) (second.ofItems items)

theorem MatchesItems.map {first : Record α} {second : Record β} {f : α → γ} {g : β → δ}
    (hmatches : MatchesItems must R items rest first second) (hS : ∀ a b, R a b → S (f a) (g b)) :
    MatchesItems must S items rest (f <$> first) (g <$> second) :=
  Matches.map hmatches fun found other ⟨hR, hrest⟩ => ⟨hS found.1 other.1 hR, hrest⟩

theorem MatchesItems.seq {first : Record (α → γ)} {second : Record (β → δ)}
    {next : Record α} {following : Record β}
    (hmatches : MatchesItems must (fun f g => ∀ a b, R a b → S (f a) (g b)) items between
      first second)
    (hnext : MatchesItems must R between rest next following) :
    MatchesItems must S items rest (first <*> next) (second <*> following) := by
  refine Matches.bind hmatches ?_
  rintro ⟨f, _⟩ ⟨g, _⟩ ⟨hS, rfl, rfl⟩
  refine Matches.bind hnext ?_
  rintro ⟨a, _⟩ ⟨b, _⟩ ⟨hR, rfl, rfl⟩
  exact .of_ok ⟨hS a b hR, rfl, rfl⟩

theorem matchesItems_field
    (hread : ∀ item ∈ items.head?, Matches must R (read item) (other item))
    (hshort : ∀ a ∈ short, ∀ b ∈ ended, R a b) (hended : must → short.isSome → ended.isSome) :
    MatchesItems must R items items.tail (field names read missing short)
      (field names other lacking ended) := by
  simp only [MatchesItems, field]
  cases items with
  | cons item rest => exact (hread item rfl).map fun a b hR => ⟨hR, rfl, rfl⟩
  | nil =>
      cases short with
      | none => exact .of_error
      | some a =>
          cases ended with
          | some b => exact .of_ok ⟨hshort a rfl b rfl, rfl, rfl⟩
          | none => exact .of_not fun h => by cases hended h rfl

theorem matchesItems_refl (names : List String) (missing : Except Mismatch α) (short : Option α) :
    MatchesItems must Eq items items.tail (field names read missing short)
      (field names read missing short) :=
  matchesItems_field (fun _ _ => .refl must _) (fun _ ha _ hb => Option.some.inj (ha.symm.trans hb))
    fun _ hshort => hshort

/-- In an array no field may be left out whose default is filled in later. -/
theorem matchesItems_nullable (hmust : ¬ must) (hnull : ∀ a, read .null ≠ .ok a) :
    MatchesItems must (fun a o => a = o.getD value) items items.tail (defaulted name value read)
      (nullable name read) :=
  matchesItems_field (fun _ _ => matches_readOptional hnull fun _ => rfl) (fun _ _ => nofun)
    fun h => absurd h hmust

theorem matchesItems_nullable_of_optional (hmust : ¬ must) :
    MatchesItems must Eq items items.tail (optional name read) (nullable name read) :=
  matchesItems_field (fun _ _ => .refl must _) (fun _ _ => nofun) fun h => absurd h hmust

/-! ## Values -/

theorem matches_read {first : Record α} {second : Record β} {v : Json}
    (hnames : first.names = second.names)
    (hmembers : ∀ members, v = .object members → MatchesMembers must R members first second)
    (hitems : ∀ items, v = .array items → ∃ rest, MatchesItems must R items rest first second) :
    Matches must R (first.read v) (second.read v) := by
  cases v with
  | object members =>
      simp only [Record.read, Record.readMembers, hnames]
      cases repeated? second.names members with
      | some located => exact .of_error
      | none => exact (hmembers members rfl).mapError
  | array items =>
      obtain ⟨_, hrest⟩ := hitems items rfl
      refine Matches.bind hrest ?_
      rintro ⟨a, _⟩ ⟨b, rest⟩ ⟨hR, rfl, rfl⟩
      cases rest with
      | nil => exact .of_ok hR
      | cons item rest => exact .of_error
  | _ => exact .of_error

end Record

end Json

end SiteWatch
