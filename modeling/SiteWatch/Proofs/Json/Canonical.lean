/-
# What the canonical form tells apart

Two values are alike when they differ at most in the order of the members of their objects, at every
level; of several members with one key the last one counts. The canonical form sorts members, so
alike values have the same one. Without binary64 numbers the converse holds as well: a canonical text
tells the value that it is of, up to the order of members; and so does its digest, as far as no two
texts are known with one digest.
-/

import SiteWatch.Digest.Content
import SiteWatch.Proofs.Json.Tokens

namespace SiteWatch

/-! ## Sorted members -/

namespace Members

/-- The value of a key: that of its last member. -/
def last? (key : String) (members : Members) : Option Json := get? members.reverse key

/-- Members in the order of their keys, each key once. -/
def IsAscending (members : Members) : Prop := members.Pairwise (·.1 < ·.1)

theorem get?_cons (member : String × Json) (members : Members) (key : String) :
    get? (member :: members) key = if member.1 == key then some member.2 else get? members key := by
  simp only [get?, List.find?_cons]
  cases member.1 == key <;> rfl

theorem get?_append (first second : Members) (key : String) :
    get? (first ++ second) key = (get? first key).or (get? second key) := by
  simp [get?, List.find?_append, Option.map_or]

theorem mem_of_get? {members : Members} {key : String} {value : Json}
    (hget : get? members key = some value) : (key, value) ∈ members := by
  obtain ⟨⟨other, found⟩, hfind, rfl⟩ := Option.map_eq_some_iff.mp hget
  have hkey : other = key := by simpa using List.find?_some hfind
  exact hkey ▸ List.mem_of_find?_eq_some hfind

theorem mem_of_last? {members : Members} {key : String} {value : Json}
    (hlast : last? key members = some value) : (key, value) ∈ members :=
  List.mem_reverse.mp (mem_of_get? hlast)

theorem get?_insert (key : String) (value : Json) (members : Members) (other : String) :
    get? (insert key value members) other =
      if key == other then some value else get? members other := by
  induction members with
  | nil => exact get?_cons _ _ _
  | cons member members ih =>
      obtain ⟨first, old⟩ := member
      simp only [insert]
      split
      · rename_i hsame
        subst hsame
        simp only [get?_cons]
        split <;> rfl
      · rename_i hne
        split
        · exact get?_cons _ _ _
        · rw [get?_cons, ih, get?_cons]
          by_cases hfirst : first = other
          · simp [hfirst, hfirst ▸ hne]
          · simp [hfirst]

theorem eq_or_mem_of_mem_insert {key : String} {value : Json} {members : Members}
    {member : String × Json} (hmem : member ∈ insert key value members) :
    member = (key, value) ∨ member ∈ members := by
  induction members with
  | nil => exact .inl (List.mem_singleton.mp hmem)
  | cons first members ih =>
      simp only [insert] at hmem
      split at hmem
      · exact (List.mem_cons.mp hmem).imp_right (List.mem_cons_of_mem _)
      · split at hmem
        · exact List.mem_cons.mp hmem
        · rcases List.mem_cons.mp hmem with rfl | hmem
          · exact .inr List.mem_cons_self
          · exact (ih hmem).imp_right (List.mem_cons_of_mem _)

theorem IsAscending.insert {members : Members} (hmembers : members.IsAscending) (key : String)
    (value : Json) : (Members.insert key value members).IsAscending := by
  induction members with
  | nil => exact List.pairwise_singleton _ _
  | cons first members ih =>
      obtain ⟨hfirst, hrest⟩ := List.pairwise_cons.mp hmembers
      simp only [Members.insert]
      split
      · rename_i hsame
        exact List.pairwise_cons.mpr ⟨hsame ▸ hfirst, hrest⟩
      · rename_i hne
        split
        · rename_i hbefore
          refine List.pairwise_cons.mpr ⟨fun member hmem => ?_, hmembers⟩
          rcases List.mem_cons.mp hmem with rfl | hmem
          · exact hbefore
          · exact String.lt_trans hbefore (hfirst member hmem)
        · rename_i hafter
          refine List.pairwise_cons.mpr ⟨fun member hmem => ?_, ih hrest⟩
          rcases eq_or_mem_of_mem_insert hmem with rfl | hmem
          · refine String.not_le.mp fun hle => hne (String.le_antisymm hle ?_)
            exact String.not_lt.mp hafter
          · exact hfirst member hmem

/-- Setting keys one after another leaves the last value of each. -/
theorem get?_foldl_insert (members sorted : Members) (key : String) :
    get? (members.foldl (fun all member => insert member.1 member.2 all) sorted) key =
      (last? key members).or (get? sorted key) := by
  induction members generalizing sorted with
  | nil => rfl
  | cons member members ih =>
      rw [List.foldl_cons, ih, get?_insert, last?, last?, List.reverse_cons, get?_append, get?_cons]
      cases get? members.reverse key with
      | some value => rfl
      | none => cases member.1 == key <;> rfl

/-- Sorting keeps the last value of every key. -/
theorem get?_ofList (members : Members) (key : String) :
    get? (ofList members) key = last? key members := by
  rw [ofList, get?_foldl_insert, get?, List.find?_nil, Option.map_none, Option.or_none]

theorem IsAscending.foldl_insert {sorted : Members} (hsorted : sorted.IsAscending)
    (members : Members) : IsAscending
      (members.foldl (fun all member => Members.insert member.1 member.2 all) sorted) := by
  refine List.foldlRecOn members _ (motive := IsAscending) hsorted ?_
  exact fun sorted hsorted member _ => hsorted.insert member.1 member.2

theorem isAscending_ofList (members : Members) : (ofList members).IsAscending :=
  IsAscending.foldl_insert .nil members

theorem mem_of_mem_ofList {members : Members} {member : String × Json}
    (hmem : member ∈ ofList members) : member ∈ members := by
  have hall : ∀ m ∈ ofList members, m ∈ members := by
    refine List.foldlRecOn members _ (motive := fun sorted => ∀ m ∈ sorted, m ∈ members) nofun ?_
    intro sorted hsorted first hfirst m hm
    rcases eq_or_mem_of_mem_insert hm with rfl | hm
    · exact hfirst
    · exact hsorted m hm
  exact hall member hmem

theorem IsAscending.get?_eq_some_iff {members : Members} (hmembers : members.IsAscending)
    {key : String} {value : Json} : get? members key = some value ↔ (key, value) ∈ members := by
  refine ⟨mem_of_get?, fun hmem => ?_⟩
  induction members with
  | nil => cases hmem
  | cons member members ih =>
      obtain ⟨hbefore, hrest⟩ := List.pairwise_cons.mp hmembers
      rw [get?_cons]
      rcases List.mem_cons.mp hmem with rfl | hmem
      · simp
      · rw [if_neg, ih hrest hmem]
        exact fun hsame => String.ne_of_lt (hbefore _ hmem) (beq_iff_eq.mp hsame)

theorem IsAscending.nodup {members : Members} (hmembers : members.IsAscending) : members.Nodup :=
  hmembers.imp fun hlt heq => String.ne_of_lt hlt (congrArg Prod.fst heq)

/-- Sorted members are known by the values of their keys. -/
theorem IsAscending.ext {first second : Members} (hfirst : first.IsAscending)
    (hsecond : second.IsAscending) (hget : ∀ key, get? first key = get? second key) :
    first = second := by
  have hperm : first.Perm second := by
    refine (List.perm_ext_iff_of_nodup hfirst.nodup hsecond.nodup).mpr fun member => ?_
    rw [← hfirst.get?_eq_some_iff, hget, hsecond.get?_eq_some_iff]
  exact hperm.eq_of_pairwise (fun _ _ _ _ hab hba => absurd hba (String.lt_asymm hab)) hfirst
    hsecond

end Members

namespace Json

/-- What holds of a value if it holds of everything inside it holds of every value. -/
theorem contents_induction {motive : Json → Prop} (null : motive .null)
    (bool : ∀ value, motive (.bool value)) (int : ∀ n, motive (.int n))
    (float : ∀ x, motive (.float x)) (string : ∀ text, motive (.string text))
    (array : ∀ items, (∀ item ∈ items, motive item) → motive (.array items))
    (object : ∀ members : Members, (∀ member ∈ members, motive member.2) →
      motive (.object members)) (v : Json) : motive v := by
  refine Json.rec (motive_1 := motive) (motive_2 := fun items => ∀ item ∈ items, motive item)
    (motive_3 := fun members => ∀ member ∈ members, motive member.2)
    (motive_4 := fun member => motive member.2) null bool int float string array object
    nofun ?_ nofun ?_ ?_ v
  · exact fun item items hitem hitems => List.forall_mem_cons.mpr ⟨hitem, hitems⟩
  · exact fun member members hmember hmembers => List.forall_mem_cons.mpr ⟨hmember, hmembers⟩
  · exact fun key value hvalue => hvalue

/-! ## Values that differ only in the order of members -/

/-- Two values are the same up to the order of members at every level. -/
inductive Alike : Json → Json → Prop where
  | null : Alike .null .null
  | bool (value : Bool) : Alike (.bool value) (.bool value)
  | int (n : Int) : Alike (.int n) (.int n)
  | float (x : Double) : Alike (.float x) (.float x)
  | string (text : String) : Alike (.string text) (.string text)
  | array {items others : List Json} (hlength : items.length = others.length)
      (hitems : ∀ (place : Nat) (item other : Json), items[place]? = some item →
        others[place]? = some other → Alike item other) : Alike (.array items) (.array others)
  | object {members others : Members}
      (hkeys : ∀ key, (members.last? key).isSome = (others.last? key).isSome)
      (hvalues : ∀ key value other, members.last? key = some value →
        others.last? key = some other → Alike value other) :
      Alike (.object members) (.object others)

theorem settleItems_eq_map (items : List Json) : settleItems items = items.map settle := by
  induction items with
  | nil => rfl
  | cons item items ih => rw [settleItems, ih, List.map_cons]

theorem settleMembers_eq_map (members : Members) :
    settleMembers members = members.map fun member => (member.1, settle member.2) := by
  induction members with
  | nil => rfl
  | cons member members ih => rw [settleMembers, ih, List.map_cons]

theorem last?_settleMembers (members : Members) (key : String) :
    Members.last? key (settleMembers members) = (Members.last? key members).map settle := by
  rw [settleMembers_eq_map, Members.last?, ← List.map_reverse, Members.last?, Members.get?,
    List.find?_map]
  simp only [Function.comp_def, Members.get?, Option.map_map]

theorem settle_object (members : Members) :
    settle (.object members) = .object (Members.ofList (settleMembers members)) := by
  rw [settle]

theorem settle_array (items : List Json) : settle (.array items) = .array (items.map settle) := by
  rw [settle, settleItems_eq_map]

/-- Settled members are the same if every key has the same settled value. -/
theorem settle_object_inj {members others : Members} :
    settle (.object members) = settle (.object others) ↔
      ∀ key, (members.last? key).map settle = (others.last? key).map settle := by
  rw [settle_object, settle_object, Json.object.injEq]
  constructor
  · intro hsame key
    rw [← last?_settleMembers, ← last?_settleMembers, ← Members.get?_ofList, hsame,
      Members.get?_ofList]
  · intro hsame
    refine (Members.isAscending_ofList _).ext (Members.isAscending_ofList _) fun key => ?_
    rw [Members.get?_ofList, Members.get?_ofList, last?_settleMembers, last?_settleMembers, hsame]

theorem Alike.settle_eq {v w : Json} (halike : Alike v w) : settle v = settle w := by
  induction halike with
  | null | bool | int | float | string => rfl
  | @array items others hlength hitems ih =>
      rw [settle_array, settle_array, Json.array.injEq]
      refine List.ext_getElem (by simpa using hlength) fun place hplace hother => ?_
      rw [List.getElem_map, List.getElem_map]
      exact ih place _ _ (List.getElem?_eq_getElem _) (List.getElem?_eq_getElem _)
  | @object members others hkeys hvalues ih =>
      refine settle_object_inj.mpr fun key => ?_
      have hboth := hkeys key
      cases hvalue : members.last? key with
      | none =>
          rw [hvalue] at hboth
          have hother : others.last? key = none := by simpa using hboth.symm
          rw [hother]
      | some value =>
          rw [hvalue] at hboth
          obtain ⟨other, hother⟩ := Option.isSome_iff_exists.mp hboth.symm
          rw [hother, Option.map_some, Option.map_some, ih key value other hvalue hother]

theorem alike_of_settle_eq {v w : Json} (hsettle : settle v = settle w) : Alike v w := by
  induction v using contents_induction generalizing w with
  | null => cases w <;> cases hsettle; exact .null
  | bool value => cases w <;> cases hsettle; exact .bool value
  | int n => cases w <;> cases hsettle; exact .int n
  | float x => cases w <;> cases hsettle; exact .float x
  | string text => cases w <;> cases hsettle; exact .string text
  | array items ih =>
      cases w with
      | array others =>
          rw [settle_array, settle_array, Json.array.injEq] at hsettle
          refine .array (by simpa using congrArg List.length hsettle) ?_
          intro place item other hitem hother
          refine ih item (List.mem_of_getElem? hitem) ?_
          simpa [hitem, hother] using congrArg (·[place]?) hsettle
      | _ => cases hsettle
  | object members ih =>
      cases w with
      | object others =>
          have hvalues := settle_object_inj.mp hsettle
          refine .object (fun key => ?_) fun key value other hvalue hother => ?_
          · simpa using congrArg Option.isSome (hvalues key)
          · refine ih (key, value) (Members.mem_of_last? hvalue) ?_
            simpa [hvalue, hother] using hvalues key
      | _ => cases hsettle

/-- Values are alike exactly if their settled forms are the same. -/
theorem alike_iff_settle_eq {v w : Json} : Alike v w ↔ settle v = settle w :=
  ⟨Alike.settle_eq, alike_of_settle_eq⟩

/-! ## Texts tell values apart -/

/-- A value without binary64 numbers, at any level. -/
inductive HoldsNoFloat : Json → Prop where
  | null : HoldsNoFloat .null
  | bool (value : Bool) : HoldsNoFloat (.bool value)
  | int (n : Int) : HoldsNoFloat (.int n)
  | string (text : String) : HoldsNoFloat (.string text)
  | array {items : List Json} (hitems : ∀ item ∈ items, HoldsNoFloat item) :
      HoldsNoFloat (.array items)
  | object {members : Members} (hmembers : ∀ member ∈ members, HoldsNoFloat member.2) :
      HoldsNoFloat (.object members)

theorem HoldsNoFloat.settle {v : Json} (hv : HoldsNoFloat v) : HoldsNoFloat (settle v) := by
  induction hv with
  | null => exact .null
  | bool value => exact .bool value
  | int n => exact .int n
  | string text => exact .string text
  | array hitems ih =>
      rw [settle_array]
      refine .array fun item hitem => ?_
      obtain ⟨old, hold, rfl⟩ := List.mem_map.mp hitem
      exact ih old hold
  | object hmembers ih =>
      rw [settle_object, settleMembers_eq_map]
      refine .object fun member hmember => ?_
      obtain ⟨old, hold, rfl⟩ := List.mem_map.mp (Members.mem_of_mem_ofList hmember)
      exact ih old hold

/-- Whether a character begins the texts of values of this kind. -/
def Leads (c : Char) : Json → Prop
  | .null => c = 'n'
  | .bool true => c = 't'
  | .bool false => c = 'f'
  | .int _ => c = '-' ∨ c.isDigit = true
  | .float _ => False
  | .string _ => c = '"'
  | .array _ => c = '['
  | .object _ => c = '\x7b'

theorem exists_leads {v : Json} (hv : HoldsNoFloat v) :
    ∃ c rest, v.compact.toList = c :: rest ∧ Leads c v := by
  cases hv with
  | null => exact ⟨'n', ['u', 'l', 'l'], by simp [compact], rfl⟩
  | bool value =>
      cases value with
      | true => exact ⟨'t', ['r', 'u', 'e'], by simp [compact], rfl⟩
      | false => exact ⟨'f', ['a', 'l', 's', 'e'], by simp [compact], rfl⟩
  | int n =>
      obtain ⟨c, rest, htext, hc⟩ := exists_lead_toString n
      exact ⟨c, rest, by rw [compact, htext], hc⟩
  | string text =>
      exact ⟨'"', text.toList.flatMap escapedChar ++ ['"'], by rw [compact, toList_quoted], rfl⟩
  | @array items => exact ⟨'[', (compactItems items).toList ++ [']'], by simp [compact], rfl⟩
  | @object members =>
      exact ⟨'\x7b', (compactMembers members).toList ++ ['\x7d'], by simp [compact], rfl⟩

theorem Leads.ne_bracket {c : Char} {v : Json} (hc : Leads c v) : c ≠ ']' := by
  rintro rfl
  unfold Leads at hc
  split at hc <;> simp at hc

/-- Texts that go on alike are of values of one kind. -/
theorem exists_leads_both {v w : Json} (hv : HoldsNoFloat v) (hw : HoldsNoFloat w)
    {rest rest' : List Char} (hsame : v.compact.toList ++ rest = w.compact.toList ++ rest') :
    ∃ c, Leads c v ∧ Leads c w := by
  obtain ⟨c, more, hvtext, hc⟩ := exists_leads hv
  obtain ⟨d, _, hwtext, hd⟩ := exists_leads hw
  rw [hvtext, hwtext, List.cons_append, List.cons_append] at hsame
  exact ⟨c, hc, (List.cons.inj hsame).1 ▸ hd⟩

/-- A piece of text tells what it is of, whatever it is followed by. -/
def TellsApart {α : Type} (text : α → List Char) (valid : α → Prop) (x : α) : Prop :=
  ∀ y, valid y → ∀ rest rest', EndsNumber rest → EndsNumber rest' →
    text x ++ rest = text y ++ rest' → x = y ∧ rest = rest'

/-- Pieces separated by commas, and what follows them. -/
def joined : List (List Char) → List Char → List Char
  | [], tail => tail
  | [piece], tail => piece ++ tail
  | piece :: pieces, tail => piece ++ ',' :: joined pieces tail

/-- What follows the first of some pieces. -/
def joinedAfter (pieces : List (List Char)) (tail : List Char) : List Char :=
  if pieces.isEmpty then tail else ',' :: joined pieces tail

theorem joined_cons (piece : List Char) (pieces : List (List Char)) (tail : List Char) :
    joined (piece :: pieces) tail = piece ++ joinedAfter pieces tail := by
  cases pieces <;> rfl

/-- Pieces up to a closing character tell what they are of, if each of them does. -/
theorem joined_inj {α : Type} {text : α → List Char} {valid : α → Prop} {close : Char}
    (hclose : ∀ rest, EndsNumber (close :: rest)) (hcomma : close ≠ ',')
    (hlead : ∀ x, valid x → ∃ c more, text x = c :: more ∧ c ≠ close)
    {xs ys : List α} (hxs : ∀ x ∈ xs, valid x ∧ TellsApart text valid x) (hys : ∀ y ∈ ys, valid y)
    {rest rest' : List Char}
    (hsame : joined (xs.map text) (close :: rest) = joined (ys.map text) (close :: rest')) :
    xs = ys ∧ rest = rest' := by
  have hafter : ∀ (zs : List α) rest, EndsNumber (joinedAfter (zs.map text) (close :: rest)) := by
    intro zs rest
    cases zs with
    | nil => exact hclose rest
    | cons z zs => exact endsNumber_cons _ (by decide)
  have hopen : ∀ z, valid z → ∀ (zs : List α) rest rest',
      close :: rest ≠ joined ((z :: zs).map text) (close :: rest') := by
    intro z hz zs rest rest' hsame
    obtain ⟨c, more, htext, hc⟩ := hlead z hz
    rw [List.map_cons, joined_cons, htext, List.cons_append] at hsame
    exact hc (List.cons.inj hsame).1.symm
  induction xs generalizing ys with
  | nil =>
      cases ys with
      | nil => exact ⟨rfl, (List.cons.inj hsame).2⟩
      | cons y ys => exact absurd hsame (hopen y (hys y List.mem_cons_self) ys rest rest')
  | cons x xs ih =>
      obtain ⟨⟨hx, hapart⟩, hmore⟩ := List.forall_mem_cons.mp hxs
      cases ys with
      | nil => exact absurd hsame.symm (hopen x hx xs rest' rest)
      | cons y ys =>
          obtain ⟨hy, hothers⟩ := List.forall_mem_cons.mp hys
          rw [List.map_cons, List.map_cons, joined_cons, joined_cons] at hsame
          obtain ⟨rfl, htail⟩ := hapart y hy _ _ (hafter xs rest) (hafter ys rest') hsame
          -- Either both lists go on after a comma, or both are closed.
          cases xs with
          | nil =>
              cases ys with
              | nil => exact ⟨rfl, (List.cons.inj htail).2⟩
              | cons y ys => exact absurd (List.cons.inj htail).1 hcomma
          | cons x' xs =>
              cases ys with
              | nil => exact absurd (List.cons.inj htail).1.symm hcomma
              | cons y' ys =>
                  obtain ⟨hlists, hrest⟩ := ih hmore hothers (List.cons.inj htail).2
                  exact ⟨by rw [hlists], hrest⟩

theorem compactItems_append (items : List Json) (tail : List Char) :
    (compactItems items).toList ++ tail = joined (items.map fun item => item.compact.toList) tail := by
  induction items with
  | nil => simp [compactItems, joined]
  | cons item items ih =>
      rw [List.map_cons, joined_cons]
      cases items with
      | nil => simp [compactItems, joinedAfter]
      | cons next items => simpa [compactItems, joinedAfter] using ih

/-- The text of a member. -/
def memberText (member : String × Json) : List Char :=
  (quoted member.1).toList ++ ':' :: member.2.compact.toList

theorem compactMembers_append (members : Members) (tail : List Char) :
    (compactMembers members).toList ++ tail = joined (members.map memberText) tail := by
  induction members with
  | nil => simp [compactMembers, joined]
  | cons member members ih =>
      obtain ⟨key, value⟩ := member
      rw [List.map_cons, joined_cons]
      cases members with
      | nil => simp [compactMembers, joinedAfter, memberText]
      | cons next members => simpa [compactMembers, joinedAfter, memberText] using ih

/-- A member tells what it is of, if its value does. -/
theorem tellsApart_memberText {member : String × Json}
    (hvalue : TellsApart (fun v => (compact v).toList) HoldsNoFloat member.2) :
    TellsApart memberText (fun member => HoldsNoFloat member.2) member := by
  intro other hother rest rest' hrest hrest' hsame
  simp only [memberText, List.append_assoc, List.cons_append] at hsame
  obtain ⟨hkey, hmore⟩ := quoted_append_inj hsame
  obtain ⟨hsame, htail⟩ := hvalue other.2 hother rest rest' hrest hrest' (List.cons.inj hmore).2
  exact ⟨Prod.ext hkey hsame, htail⟩

/-- An array tells what it is, if its items do. -/
theorem tellsApart_array {items : List Json} (hitems : ∀ item ∈ items, HoldsNoFloat item ∧
    TellsApart (fun v => (compact v).toList) HoldsNoFloat item) :
    TellsApart (fun v => (compact v).toList) HoldsNoFloat (.array items) := by
  intro w hw rest rest' _ _ hsame
  obtain ⟨c, rfl, hd⟩ := exists_leads_both (.array fun item hitem => (hitems item hitem).1) hw hsame
  cases hw with
  | @array others hothers =>
      have hopen : "[".toList = ['['] := rfl
      have hclose : "]".toList = [']'] := rfl
      simp only [compact, String.toList_append, hopen, hclose, List.append_assoc,
        List.cons_append, List.nil_append, List.cons.injEq, true_and] at hsame
      rw [compactItems_append, compactItems_append] at hsame
      obtain ⟨rfl, htail⟩ := joined_inj (fun _ => endsNumber_cons _ (by decide)) (by decide)
        (fun v hv => by
          obtain ⟨c, more, htext, hc⟩ := exists_leads hv
          exact ⟨c, more, htext, hc.ne_bracket⟩)
        hitems hothers hsame
      exact ⟨rfl, htail⟩
  | bool value => cases value <;> cases hd
  | _ => simp [Leads] at hd

/-- An object tells what it is, if the values of its members do. -/
theorem tellsApart_object {members : Members} (hmembers : ∀ member ∈ members,
    HoldsNoFloat member.2 ∧ TellsApart (fun v => (compact v).toList) HoldsNoFloat member.2) :
    TellsApart (fun v => (compact v).toList) HoldsNoFloat (.object members) := by
  intro w hw rest rest' _ _ hsame
  obtain ⟨c, rfl, hd⟩ :=
    exists_leads_both (.object fun member hmember => (hmembers member hmember).1) hw hsame
  cases hw with
  | @object others hothers =>
      have hopen : "\x7b".toList = ['\x7b'] := rfl
      have hclose : "\x7d".toList = ['\x7d'] := rfl
      simp only [compact, String.toList_append, hopen, hclose, List.append_assoc,
        List.cons_append, List.nil_append, List.cons.injEq, true_and] at hsame
      rw [compactMembers_append, compactMembers_append] at hsame
      obtain ⟨rfl, htail⟩ := joined_inj (fun _ => endsNumber_cons _ (by decide)) (by decide)
        (fun member _ => ⟨'"', _, by rw [memberText, toList_quoted]; rfl, by decide⟩)
        (fun member hmember => ⟨(hmembers member hmember).1,
          tellsApart_memberText (hmembers member hmember).2⟩) hothers hsame
      exact ⟨rfl, htail⟩
  | bool value => cases value <;> cases hd
  | _ => simp [Leads] at hd

/-- The compact form tells every value without binary64 numbers apart from the others. -/
theorem HoldsNoFloat.tellsApart {v : Json} (hv : HoldsNoFloat v) :
    TellsApart (fun v => (compact v).toList) HoldsNoFloat v := by
  induction hv with
  | null =>
      intro w hw rest rest' _ _ hsame
      obtain ⟨c, rfl, hd⟩ := exists_leads_both .null hw hsame
      cases hw with
      | null => exact ⟨rfl, List.append_cancel_left hsame⟩
      | bool value => cases value <;> cases hd
      | _ => simp [Leads] at hd
  | bool value =>
      intro w hw rest rest' _ _ hsame
      obtain ⟨c, hc, hd⟩ := exists_leads_both (.bool value) hw hsame
      cases hw with
      | bool other =>
          cases value <;> cases other <;> first
            | exact ⟨rfl, List.append_cancel_left hsame⟩
            | (cases hc; cases hd)
      | _ => cases value <;> cases hc <;> simp [Leads] at hd
  | int n =>
      intro w hw rest rest' hrest hrest' hsame
      obtain ⟨c, hc, hd⟩ := exists_leads_both (.int n) hw hsame
      cases hw with
      | int m =>
          simp only [compact] at hsame
          obtain ⟨rfl, htail⟩ := toString_append_inj hrest hrest' hsame
          exact ⟨rfl, htail⟩
      | bool value => cases value <;> cases hd <;> simp [Leads] at hc
      | _ => cases hd; simp [Leads] at hc
  | string text =>
      intro w hw rest rest' _ _ hsame
      obtain ⟨c, rfl, hd⟩ := exists_leads_both (.string text) hw hsame
      cases hw with
      | string other =>
          simp only [compact] at hsame
          obtain ⟨rfl, htail⟩ := quoted_append_inj hsame
          exact ⟨rfl, htail⟩
      | bool value => cases value <;> cases hd
      | _ => simp [Leads] at hd
  | array hitems ih =>
      exact tellsApart_array fun item hitem => ⟨hitems item hitem, ih item hitem⟩
  | object hmembers ih =>
      exact tellsApart_object fun member hmember =>
        ⟨hmembers member hmember, ih member hmember⟩

theorem compact_inj {v w : Json} (hv : HoldsNoFloat v) (hw : HoldsNoFloat w)
    (hsame : v.compact = w.compact) : v = w :=
  (hv.tellsApart w hw [] [] endsNumber_nil endsNumber_nil (by simp only [hsame])).1

/-- Without binary64 numbers, two values have the same canonical form exactly if they are alike. -/
theorem canonical_eq_iff_alike {v w : Json} (hv : HoldsNoFloat v) (hw : HoldsNoFloat w) :
    v.canonical = w.canonical ↔ Alike v w := by
  rw [alike_iff_settle_eq]
  exact ⟨compact_inj hv.settle hw.settle, fun hsame => congrArg compact hsame⟩

end Json

/-! ## Digests -/

/-- Two different texts with one digest. -/
def Sha256.Collide (first second : String) : Prop :=
  first ≠ second ∧ ofText first = ofText second

namespace Json

/-- Without binary64 numbers, two values have the same canonical form exactly if they are alike, and
the same digest exactly if they are alike or their canonical forms collide. -/
theorem canonical_eq_iff_and_digest_eq_iff {v w : Json} (hv : HoldsNoFloat v)
    (hw : HoldsNoFloat w) :
    (v.canonical = w.canonical ↔ Alike v w) ∧
      (v.digest = w.digest ↔ Alike v w ∨ Sha256.Collide v.canonical w.canonical) := by
  have hcanonical := canonical_eq_iff_alike hv hw
  refine ⟨hcanonical, fun hdigest => ?_, ?_⟩
  · by_cases hsame : v.canonical = w.canonical
    · exact .inl (hcanonical.mp hsame)
    · exact .inr ⟨hsame, hdigest⟩
  · rintro (halike | ⟨-, hdigest⟩)
    · rw [digest, digest, hcanonical.mpr halike]
    · exact hdigest

/-- An object whose keys and texts hold the marks that set values apart. -/
def punctuated : Json :=
  .object [("b,", .int (-1)), ("a\"", .array [.null, .string "],\n"])]

/-- The same with its members in the other order. -/
def turned : Json :=
  .object [("a\"", .array [.null, .string "],\n"]), ("b,", .int (-1))]

/-- The same with a word in place of `null`. -/
def worded : Json :=
  .object [("b,", .int (-1)), ("a\"", .array [.string "null", .string "],\n"])]

theorem forms_of_punctuated :
    (HoldsNoFloat punctuated ∧ HoldsNoFloat turned ∧ HoldsNoFloat worded) ∧
      punctuated.canonical = turned.canonical ∧ punctuated.digest = turned.digest ∧
      punctuated.canonical ≠ worded.canonical := by
  have hlist : ∀ first text, HoldsNoFloat first →
      HoldsNoFloat (.array [first, .string text]) := by
    intro first text hfirst
    exact .array (by simpa using ⟨hfirst, .string text⟩)
  have hpunctuated : HoldsNoFloat punctuated :=
    .object (by simpa using ⟨.int (-1), hlist _ _ .null⟩)
  have hturned : HoldsNoFloat turned :=
    .object (by simpa using ⟨hlist _ _ .null, .int (-1)⟩)
  have hworded : HoldsNoFloat worded :=
    .object (by simpa using ⟨.int (-1), hlist _ _ (.string _)⟩)
  have halike : Alike punctuated turned := alike_iff_settle_eq.mpr (by rfl)
  have hother : ¬ Alike punctuated worded := by
    rintro (_ | _ | _ | _ | _ | _ | ⟨-, hvalues⟩)
    obtain _ | _ | _ | _ | _ | ⟨-, hitems⟩ | _ := hvalues "a\"" _ _ rfl rfl
    cases hitems 0 _ _ rfl rfl
  obtain ⟨hcanonical, hdigest⟩ := canonical_eq_iff_and_digest_eq_iff hpunctuated hturned
  refine ⟨⟨hpunctuated, hturned, hworded⟩, hcanonical.mpr halike, hdigest.mpr (.inl halike), ?_⟩
  exact fun hsame => hother ((canonical_eq_iff_and_digest_eq_iff hpunctuated hworded).1.mp hsame)

end Json

end SiteWatch
