/-
# Documents read back in part

A text holds any integer, but only those of 64 bits are kept exactly when it is read: a larger one
becomes a binary64 number, or makes the reading fail. So whatever a written value is read as differs
from it in large integers only, and all that holds no such integer is read back as it was.
-/

import Mathlib.Data.List.Forall2
import SiteWatch.Proofs.Json.Canonical
import SiteWatch.Proofs.Json.RoundTrip

namespace SiteWatch.Json

/-! ## What a value may be read as -/

/-- One value as it may be read where another was written: the same, but for integers that are too
large. -/
inductive ReadAs : Json → Json → Prop where
  | null : ReadAs .null .null
  | bool (value : Bool) : ReadAs (.bool value) (.bool value)
  | int (n : Int) : ReadAs (.int n) (.int n)
  | rounded {n : Int} (hlarge : maxInt < n) (x : Double) : ReadAs (.int n) (.float x)
  | string (text : String) : ReadAs (.string text) (.string text)
  | array {items found : List Json} (hitems : List.Forall₂ ReadAs items found) :
      ReadAs (.array items) (.array found)
  | object {members found : Members} (hkeys : members.map Prod.fst = found.map Prod.fst)
      (hvalues : List.Forall₂ ReadAs (members.map Prod.snd) (found.map Prod.snd)) :
      ReadAs (.object members) (.object found)

/-- What can be kept exactly is read as nothing else. -/
theorem Legible.eq_of_readAs {levels : Nat} {v found : Json} (hv : Legible levels v)
    (hfound : ReadAs v found) : found = v := by
  have hall {items others : List Json} (hitems : ∀ item ∈ items, ∀ other, ReadAs item other →
      other = item) (hothers : List.Forall₂ ReadAs items others) : others = items := by
    induction hothers with
    | nil => rfl
    | @cons item other items others hother hothers ih =>
        rw [hitems item List.mem_cons_self other hother,
          ih fun v hv => hitems v (List.mem_cons_of_mem _ hv)]
  induction hv generalizing found with
  | null | bool | string => cases hfound; rfl
  | int hmin hmax =>
      cases hfound with
      | int => rfl
      | rounded hlarge x => omega
  | array hitems ih =>
      cases hfound with
      | array hfound => rw [hall (fun item hitem other => ih item hitem) hfound]
  | @object levels members hmembers ih =>
      cases hfound with
      | @object _ others hkeys hvalues =>
          have hsame : others.map Prod.snd = members.map Prod.snd := by
            refine hall (fun value hvalue other hother => ?_) hvalues
            obtain ⟨member, hmember, rfl⟩ := List.mem_map.mp hvalue
            exact ih member hmember hother
          rw [List.zip_of_prod hkeys.symm hsame, ← List.zip_of_prod rfl rfl]

/-- A member is read as a member of the same key. -/
theorem ReadAs.exists_get? {members : Members} {found : Json}
    (hfound : ReadAs (.object members) found) : ∃ others, found = .object others ∧
      others.map Prod.fst = members.map Prod.fst ∧
      ∀ key value, members.get? key = some value →
        ∃ other, Members.get? others key = some other ∧ ReadAs value other := by
  cases hfound with
  | @object _ others hkeys hvalues =>
      refine ⟨others, rfl, hkeys.symm, fun key value hvalue => ?_⟩
      induction members generalizing others with
      | nil => cases hvalue
      | cons member members ih =>
          cases others with
          | nil => cases hkeys
          | cons other others =>
              obtain ⟨hkey, hrest⟩ := List.cons.inj hkeys
              obtain ⟨hfirst, hothers⟩ := List.forall₂_cons.mp hvalues
              obtain ⟨own, ownValue⟩ := member
              obtain ⟨name, otherValue⟩ := other
              obtain rfl : own = name := hkey
              rw [Members.get?_cons] at hvalue ⊢
              by_cases hown : (own == key) = true
              · rw [if_pos hown] at hvalue ⊢
                cases hvalue
                exact ⟨otherValue, rfl, hfirst⟩
              · rw [if_neg hown] at hvalue ⊢
                exact ih hrest hothers hvalue

/-! ## Large integers -/

namespace Number

/-- Once digits are dropped all further ones are. -/
theorem gather_full {digits : List Char} (hdigits : ∀ c ∈ digits, c.isDigit = true)
    (significand dropped : Nat) {rest : List Char} (hrest : EndsNumber rest) :
    gather significand true dropped (digits ++ rest) =
      (significand, dropped + digits.length, rest) := by
  induction digits generalizing dropped with
  | nil =>
      cases rest with
      | nil => rfl
      | cons c rest => simp [gather, (hrest c rfl).1]
  | cons c digits ih =>
      rw [List.cons_append, gather, if_pos (hdigits c List.mem_cons_self), if_pos (.inl rfl),
        ih fun d hd => hdigits d (List.mem_cons_of_mem _ hd)]
      simp only [List.length_cons, Prod.mk.injEq, and_true, true_and]
      omega

/-- Some digits are dropped of a number that no significand holds. -/
theorem exists_gather_of_large {digits : List Char} (hdigits : ∀ c ∈ digits, c.isDigit = true)
    (significand : Nat) (hsmall : significand ≤ maxSignificand)
    (hlarge : maxSignificand < Nat.ofDigitChars 10 digits significand) {rest : List Char}
    (hrest : EndsNumber rest) : ∃ kept dropped,
      gather significand false 0 (digits ++ rest) = (kept, dropped + 1, rest) := by
  induction digits generalizing significand with
  | nil => exact absurd hlarge (Nat.not_lt.mpr hsmall)
  | cons c digits ih =>
      have hothers : ∀ d ∈ digits, d.isDigit = true :=
        fun d hd => hdigits d (List.mem_cons_of_mem _ hd)
      have hnext : significand * 10 + digitValue c = 10 * significand + (c.toNat - '0'.toNat) := by
        rw [Nat.mul_comm]
        rfl
      rw [List.cons_append, gather, if_pos (hdigits c List.mem_cons_self)]
      by_cases hfits : significand * 10 + digitValue c ≤ maxSignificand
      · rw [if_neg (by simpa using hfits)]
        rw [Nat.ofDigitChars_cons, ← hnext] at hlarge
        exact ih hothers _ hfits hlarge
      · rw [if_pos (.inr (Nat.not_le.mp hfits)), gather_full hothers _ _ hrest]
        exact ⟨_, digits.length, by rw [Nat.add_comm]⟩

/-- An integer that is not too small is read as itself or rounded, and nothing that follows it is
lost. -/
theorem readAs_of_read_toString {n : Int} (hmin : minInt ≤ n) {rest left : List Char} {found : Json}
    (hrest : EndsNumber rest) (hread : read ((toString n).toList ++ rest) = .ok (found, left)) :
    left = rest ∧ ReadAs (.int n) found := by
  by_cases hmax : n ≤ maxInt
  · rw [read_toString hmin hmax hrest] at hread
    cases hread
    exact ⟨rfl, .int n⟩
  · have hlarge : maxInt < n := Int.not_le.mp hmax
    have hnonneg : 0 ≤ n := Int.le_of_lt (Int.lt_trans (by decide : 0 < maxInt) hlarge)
    obtain ⟨m, rfl⟩ := Int.eq_ofNat_of_zero_le hnonneg
    have hvalue : maxSignificand < Nat.ofDigitChars 10 (Nat.toDigits 10 m) 0 := by
      rw [Nat.ofDigitChars_ten_toDigits]
      simp only [maxInt] at hlarge
      simp only [maxSignificand]
      omega
    obtain ⟨kept, dropped, hgather⟩ :=
      exists_gather_of_large (fun c => isDigit_of_mem_repr) 0 (by decide) hvalue hrest
    have hpos : 0 < m := by
      simp only [maxInt] at hlarge
      omega
    have htext : (toString (m : Int)).toList = Nat.toDigits 10 m := Nat.toList_repr
    have hunsigned : read (Nat.toDigits 10 m ++ rest) =
        readUnsigned false (Nat.toDigits 10 m ++ rest) := by
      rw [read]
      intro more hminus
      cases hhead : Nat.toDigits 10 m with
      | nil => simp at hhead
      | cons c digits =>
          rw [hhead, List.cons_append] at hminus
          have hc : c.isDigit = true :=
            isDigit_of_mem_repr (n := m) (by rw [hhead]; exact List.mem_cons_self)
          rw [(List.cons.inj hminus).1] at hc
          cases hc
    rw [htext, hunsigned, readUnsigned_of_pos false hpos, hgather] at hread
    simp only [continueWith_of_endsNumber false kept (dropped + 1) hrest, integer,
      Nat.zero_lt_succ, if_true, finish] at hread
    split at hread
    · cases hread
      exact ⟨rfl, .rounded hlarge _⟩
    · cases hread

end Number

/-! ## Values, items and members -/

/-- Whatever is read from the indented form of a value is that value, rounded perhaps, and what
follows it is left. -/
def ReadsAs (depth level : Nat) (v : Json) : Prop :=
  ∀ fuel rest found left, (indented level v).toList.length ≤ fuel → EndsNumber rest →
    readValue fuel depth ((indented level v).toList ++ rest) = .ok (found, left) →
    left = rest ∧ ReadAs v found

theorem ReadsBack.readsAs {depth level : Nat} {v : Json} (hv : ReadsBack depth level v)
    (hself : ReadAs v v) : ReadsAs depth level v := by
  intro fuel rest found left hfuel hrest hread
  rw [hv fuel rest hfuel hrest] at hread
  cases hread
  exact ⟨rfl, hself⟩

theorem readsAs_int (depth level : Nat) {n : Int} (hmin : minInt ≤ n) :
    ReadsAs depth level (.int n) := by
  intro fuel rest found left hfuel hrest hread
  obtain ⟨c, more, htext, hc⟩ := exists_lead_toString n
  have hlead : IsLead c := by
    rcases hc with rfl | hc
    · exact .inr (by simp)
    · exact .inl hc
  have hstep : ∃ fuel', fuel = fuel' + 1 := by
    rw [indented, htext, List.length_cons] at hfuel
    exact Nat.exists_eq_add_one_of_ne_zero (by omega)
  obtain ⟨fuel, rfl⟩ := hstep
  rw [indented, htext, List.cons_append, readValue, skipBlanks_cons hlead.isBlank_eq_false] at hread
  -- Neither a sign nor a digit begins any of the other values.
  split at hread
  case h_1 heq => cases heq
  case h_8 heq =>
    obtain ⟨rfl, rfl⟩ := List.cons.inj heq
    rw [if_pos hc] at hread
    split at hread
    · cases hread
    · rename_i found' hfound
      cases hread
      rw [← List.cons_append, ← htext] at hfound
      exact Number.readAs_of_read_toString hmin hrest hfound
  all_goals
    rename_i heq
    obtain ⟨rfl, -⟩ := List.cons.inj heq
    exact absurd hc (by decide)

/-- What is read from the items of an array. -/
theorem readAs_of_readItems (depth level : Nat) (item : Json) (items : List Json)
    (hitems : ∀ v ∈ item :: items, ReadsAs depth level v) (fuel : Nat) (blanks rest : List Char)
    (hblanks : ∀ c ∈ blanks, isBlank c = true)
    (hfuel : (indentedItems level (item :: items)).toList.length < fuel) {found : List Json}
    {left : List Char} (hread : readItems fuel depth
        ((indentedItems level (item :: items)).toList ++ '\n' :: (blanks ++ ']' :: rest)) =
      .ok (found, left)) : left = rest ∧ List.Forall₂ ReadAs (item :: items) found := by
  induction items generalizing item fuel found with
  | nil =>
      obtain ⟨fuel, rfl⟩ := Nat.exists_eq_add_one_of_ne_zero (Nat.ne_zero_of_lt hfuel)
      have hclose : skipBlanks ('\n' :: (blanks ++ ']' :: rest)) = ']' :: rest := by
        rw [skipBlanks, List.dropWhile_cons_of_pos (by rfl), ← skipBlanks,
          skipBlanks_append hblanks, skipBlanks_cons (by rfl)]
      simp only [indentedItems, String.toList_append, List.append_assoc, readItems,
        readValue_append_of_blank fun _ => isBlank_of_mem_indentation] at hread
      split at hread
      · cases hread
      · rename_i value after hvalue
        obtain ⟨rfl, hfirst⟩ := hitems item List.mem_cons_self fuel _ value after
          (by simp [indentedItems] at hfuel ⊢; omega) (endsNumber_newline _) hvalue
        rw [hclose] at hread
        cases hread
        exact ⟨rfl, .cons hfirst .nil⟩
  | cons next items ih =>
      obtain ⟨fuel, rfl⟩ := Nat.exists_eq_add_one_of_ne_zero (Nat.ne_zero_of_lt hfuel)
      rw [indentedItems_cons_cons] at hfuel hread
      simp only [String.toList_append, List.length_append] at hfuel
      have hcomma : ",\n".toList = [',', '\n'] := rfl
      simp only [String.toList_append, List.append_assoc, hcomma, List.cons_append,
        List.nil_append, readItems,
        readValue_append_of_blank fun _ => isBlank_of_mem_indentation] at hread
      split at hread
      · cases hread
      · rename_i value after hvalue
        obtain ⟨rfl, hfirst⟩ := hitems item List.mem_cons_self fuel _ value after (by omega)
          (endsNumber_comma _) hvalue
        simp only [skipBlanks_cons (by rfl : isBlank ',' = false), readItems_newline] at hread
        split at hread
        · cases hread
        · rename_i others last hothers
          cases hread
          obtain ⟨rfl, hrest⟩ := ih next (fun v hv => hitems v (List.mem_cons_of_mem _ hv)) fuel
            (by simp at hfuel; omega) hothers
          exact ⟨rfl, .cons hfirst hrest⟩

/-- What is read from the members of an object. -/
theorem readAs_of_readMembers (depth level : Nat) (member : String × Json) (members : Members)
    (hmembers : ∀ m ∈ member :: members, ReadsAs depth level m.2) (fuel : Nat)
    (blanks rest : List Char) (hblanks : ∀ c ∈ blanks, isBlank c = true)
    (hfuel : (indentedMembers level (member :: members)).toList.length < fuel) {found : Members}
    {left : List Char} (hread : readMembers fuel depth
        ((indentedMembers level (member :: members)).toList ++ '\n' :: (blanks ++ '\x7d' :: rest)) =
      .ok (found, left)) : left = rest ∧
      (member :: members).map Prod.fst = found.map Prod.fst ∧
      List.Forall₂ ReadAs ((member :: members).map Prod.snd) (found.map Prod.snd) := by
  have hspace : ∀ fuel depth chars,
      readValue fuel depth (' ' :: chars) = readValue fuel depth chars := fun fuel depth chars =>
    readValue_append_of_blank (show ∀ c ∈ [' '], isBlank c = true by simp [isBlank]) fuel depth
      chars
  have hcolon : ": ".toList = [':', ' '] := rfl
  have hcomma : ",\n".toList = [',', '\n'] := rfl
  induction members generalizing member fuel found with
  | nil =>
      obtain ⟨key, value⟩ := member
      obtain ⟨fuel, rfl⟩ := Nat.exists_eq_add_one_of_ne_zero (Nat.ne_zero_of_lt hfuel)
      simp only [indentedMembers, String.toList_append, List.length_append] at hfuel
      have hclose : skipBlanks ('\n' :: (blanks ++ '\x7d' :: rest)) = '\x7d' :: rest := by
        rw [skipBlanks, List.dropWhile_cons_of_pos (by rfl), ← skipBlanks,
          skipBlanks_append hblanks, skipBlanks_cons (by rfl)]
      simp only [indentedMembers, String.toList_append, List.append_assoc, toList_quoted, hcolon,
        List.cons_append, List.nil_append, readMembers,
        skipBlanks_append fun _ => isBlank_of_mem_indentation,
        skipBlanks_cons (by rfl : isBlank '"' = false), readStringToken_escaped,
        skipBlanks_cons (by rfl : isBlank ':' = false), hspace] at hread
      split at hread
      · cases hread
      · rename_i other after hvalue
        obtain ⟨rfl, hfirst⟩ := hmembers (key, value) List.mem_cons_self fuel _ other after
          (by dsimp only; omega) (endsNumber_newline _) hvalue
        rw [hclose] at hread
        cases hread
        exact ⟨rfl, rfl, .cons hfirst .nil⟩
  | cons next members ih =>
      obtain ⟨key, value⟩ := member
      obtain ⟨fuel, rfl⟩ := Nat.exists_eq_add_one_of_ne_zero (Nat.ne_zero_of_lt hfuel)
      rw [indentedMembers_cons_cons] at hfuel hread
      simp only [String.toList_append, List.length_append] at hfuel
      simp only [String.toList_append, List.append_assoc, toList_quoted, hcolon, hcomma,
        List.cons_append, List.nil_append, readMembers,
        skipBlanks_append fun _ => isBlank_of_mem_indentation,
        skipBlanks_cons (by rfl : isBlank '"' = false), readStringToken_escaped,
        skipBlanks_cons (by rfl : isBlank ':' = false), hspace] at hread
      split at hread
      · cases hread
      · rename_i other after hvalue
        obtain ⟨rfl, hfirst⟩ := hmembers (key, value) List.mem_cons_self fuel _ other after
          (by dsimp only; omega) (endsNumber_comma _) hvalue
        simp only [skipBlanks_cons (by rfl : isBlank ',' = false), readMembers_newline] at hread
        split at hread
        · cases hread
        · rename_i others last hothers
          cases hread
          obtain ⟨rfl, hkeys, hvalues⟩ := ih next
            (fun m hm => hmembers m (List.mem_cons_of_mem _ hm)) fuel
            (by simp only [hcomma, List.length_cons, List.length_nil] at hfuel; omega) hothers
          exact ⟨rfl, congrArg (key :: ·) hkeys, .cons hfirst hvalues⟩

variable {levels depth : Nat}

/-- What is read from an array. -/
theorem readsAs_array (hdepth : depth < maxDepth) {items : List Json}
    (hitems : ∀ item ∈ items, Writable levels item) (level : Nat)
    (hread : ∀ item ∈ items, ReadsAs (depth + 1) (level + 1) item) :
    ReadsAs depth level (.array items) := by
  cases items with
  | nil =>
      have hempty : Legible 1 (.array []) := .array (by simp)
      exact (hempty.readsBack (by omega) level).readsAs (.array .nil)
  | cons item items =>
      intro fuel rest found left hfuel _ hfound
      obtain ⟨fuel, rfl⟩ : ∃ more, fuel = more + 1 := by
        simp only [indented, String.toList_append, List.length_append] at hfuel
        exact Nat.exists_eq_add_one_of_ne_zero (by simp at hfuel; omega)
      have hdeep : ¬ depth ≥ maxDepth := Nat.not_le.mpr hdepth
      obtain ⟨tail, hfirst⟩ := exists_indentedItems_cons (level + 1) item items
      obtain ⟨c, hhead, hlead⟩ := exists_lead (hitems item List.mem_cons_self) (level + 1)
      obtain ⟨more, htext⟩ := List.head?_eq_some_iff.mp hhead
      have hopen : "[\n".toList = ['[', '\n'] := rfl
      have hclose : "]".toList = [']'] := rfl
      have hbreak : "\n".toList = ['\n'] := rfl
      simp only [indented, String.toList_append, List.append_assoc, hopen, hclose, hbreak,
        List.cons_append, List.nil_append, readValue,
        skipBlanks_cons (by rfl : isBlank '[' = false), if_neg hdeep] at hfound
      split at hfound
      case h_1 heq =>
        rw [hfirst] at heq
        simp only [String.toList_append, List.append_assoc, skipBlanks_newline, htext,
          List.cons_append, skipBlanks_cons hlead.isBlank_eq_false] at heq
        exact absurd (List.cons.inj heq).1 hlead.ne_close
      case h_2 =>
        rw [readItems_skipBlanks, readItems_newline] at hfound
        split at hfound
        · cases hfound
        · rename_i others last hothers
          cases hfound
          obtain ⟨rfl, hall⟩ := readAs_of_readItems (depth + 1) (level + 1) item items hread fuel
            (indentation level).toList rest (fun _ => isBlank_of_mem_indentation)
            (by simp [indented] at hfuel; omega) hothers
          exact ⟨rfl, .array hall⟩

/-- What is read from an object. -/
theorem readsAs_object (hdepth : depth < maxDepth) {members : Members} (level : Nat)
    (hread : ∀ member ∈ members, ReadsAs (depth + 1) (level + 1) member.2) :
    ReadsAs depth level (.object members) := by
  cases members with
  | nil =>
      have hempty : Legible 1 (.object []) := .object (by simp)
      exact (hempty.readsBack (by omega) level).readsAs (.object rfl .nil)
  | cons member members =>
      intro fuel rest found left hfuel _ hfound
      obtain ⟨fuel, rfl⟩ : ∃ more, fuel = more + 1 := by
        simp only [indented, String.toList_append, List.length_append] at hfuel
        exact Nat.exists_eq_add_one_of_ne_zero (by simp at hfuel; omega)
      have hdeep : ¬ depth ≥ maxDepth := Nat.not_le.mpr hdepth
      obtain ⟨tail, hfirst⟩ := exists_indentedMembers_cons (level + 1) member.1 member.2 members
      have hopen : "\x7b\n".toList = ['\x7b', '\n'] := rfl
      have hclose : "\x7d".toList = ['\x7d'] := rfl
      have hbreak : "\n".toList = ['\n'] := rfl
      simp only [indented, String.toList_append, List.append_assoc, hopen, hclose, hbreak,
        List.cons_append, List.nil_append, readValue,
        skipBlanks_cons (by rfl : isBlank '\x7b' = false), if_neg hdeep] at hfound
      split at hfound
      case h_1 heq =>
        rw [hfirst] at heq
        simp only [String.toList_append, List.append_assoc, skipBlanks_newline, toList_quoted,
          List.cons_append, skipBlanks_cons (by rfl : isBlank '"' = false)] at heq
        exact absurd (List.cons.inj heq).1 (by decide)
      case h_2 =>
        rw [readMembers_skipBlanks, readMembers_newline] at hfound
        split at hfound
        · cases hfound
        · rename_i others last hothers
          cases hfound
          obtain ⟨rfl, hkeys, hvalues⟩ := readAs_of_readMembers (depth + 1) (level + 1) member
            members hread fuel (indentation level).toList rest
            (fun _ => isBlank_of_mem_indentation) (by simp [indented] at hfuel; omega) hothers
          exact ⟨rfl, .object hkeys hvalues⟩

/-- Whatever is read from the indented form of a value is that value, rounded perhaps. -/
theorem Writable.readsAs {v : Json} (hv : Writable levels v) (hdepth : depth + levels ≤ maxDepth)
    (level : Nat) : ReadsAs depth level v := by
  induction hv generalizing depth level with
  | null => exact (readsBack_null depth level).readsAs .null
  | bool value => exact (readsBack_bool depth level value).readsAs (.bool value)
  | int hmin => exact readsAs_int depth level hmin
  | string text => exact (readsBack_string depth level text).readsAs (.string text)
  | array hitems ih =>
      exact readsAs_array (by omega) hitems level fun item hitem =>
        ih item hitem (by omega) (level + 1)
  | object hmembers ih =>
      exact readsAs_object (by omega) level fun member hmember =>
        ih member hmember (by omega) (level + 1)

/-- Whatever a document is read as is the value that it was written for, rounded perhaps. -/
theorem readAs_of_read_pretty {v found : Json} (hv : Writable maxDepth v)
    (hread : read v.pretty = .ok found) : ReadAs v found := by
  simp only [read] at hread
  split at hread
  · cases hread
  · rename_i value rest hvalue
    split at hread
    · cases hread
      rw [← List.append_nil v.pretty.toList] at hvalue
      exact (hv.readsAs (by simp : 0 + maxDepth ≤ maxDepth) 0 _ [] _ _ (by simp only [pretty]; simp; omega)
        endsNumber_nil hvalue).2
    · cases hread

end SiteWatch.Json
