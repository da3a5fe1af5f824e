/-
# Compact texts read back

A value in its compact form is read back as it was, as long as its text can hold it: the pieces of
an array or an object stand between commas, and each of them is read back from a text that goes on.
-/

import SiteWatch.Proofs.Json.Canonical
import SiteWatch.Proofs.Json.RoundTrip

namespace SiteWatch.Json

variable {levels depth : Nat}

/-- A value is read back at some depth from its compact form, whatever follows. -/
def CompactReadsBack (depth : Nat) (v : Json) : Prop :=
  ∀ fuel rest, v.compact.toList.length ≤ fuel → EndsNumber rest →
    readValue fuel depth (v.compact.toList ++ rest) = .ok (v, rest)

theorem Legible.holdsNoFloat {v : Json} (hv : Legible levels v) : HoldsNoFloat v := by
  induction hv with
  | null => exact .null
  | bool value => exact .bool value
  | int hmin hmax => exact .int _
  | string text => exact .string text
  | array hitems ih => exact .array ih
  | object hmembers ih => exact .object ih

/-- Outside arrays and objects the compact form is the indented one. -/
theorem ReadsBack.compact {v : Json} (hread : ReadsBack depth 0 v)
    (hsame : v.compact = indented 0 v) : CompactReadsBack depth v := by
  intro fuel rest hfuel hrest
  rw [hsame] at hfuel ⊢
  exact hread fuel rest hfuel hrest

theorem Leads.isBlank_eq_false {c : Char} {v : Json} (hc : Leads c v) : isBlank c = false := by
  unfold Leads at hc
  split at hc
  case h_4 =>
    refine IsLead.isBlank_eq_false ?_
    rcases hc with rfl | hdigit
    · exact .inr (by simp)
    · exact .inl hdigit
  case h_5 => exact hc.elim
  all_goals
    subst hc
    rfl

/-- Pieces have no fewer characters than the first of them and those after its comma. -/
theorem length_joined_cons (piece next : List Char) (pieces : List (List Char)) :
    (joined (piece :: next :: pieces) []).length =
      piece.length + (joined (next :: pieces) []).length + 1 := by
  rw [joined]
  · simp only [List.length_append, List.length_cons]
    omega
  · simp

theorem length_joined_singleton (piece : List Char) : (joined [piece] []).length = piece.length := by
  simp [joined]

/-- The items of an array are read back up to the bracket that closes it. -/
theorem readItems_joined (item : Json) (items : List Json)
    (hitems : ∀ v ∈ item :: items, CompactReadsBack depth v) (fuel : Nat) (rest : List Char)
    (hfuel : (joined ((item :: items).map fun v => v.compact.toList) []).length < fuel) :
    readItems fuel depth (joined ((item :: items).map fun v => v.compact.toList) (']' :: rest)) =
      .ok (item :: items, rest) := by
  induction items generalizing item fuel with
  | nil =>
      obtain ⟨fuel, rfl⟩ := Nat.exists_eq_add_one_of_ne_zero (Nat.ne_zero_of_lt hfuel)
      rw [List.map_cons, List.map_nil, length_joined_singleton] at hfuel
      have hread := hitems item List.mem_cons_self fuel (']' :: rest) (by omega)
        (endsNumber_cons rest (by decide))
      simp only [List.map_cons, List.map_nil, joined, readItems, hread,
        skipBlanks_cons (by rfl : isBlank ']' = false)]
  | cons next items ih =>
      obtain ⟨fuel, rfl⟩ := Nat.exists_eq_add_one_of_ne_zero (Nat.ne_zero_of_lt hfuel)
      rw [List.map_cons, List.map_cons, length_joined_cons] at hfuel
      have hread := hitems item List.mem_cons_self fuel
        (',' :: joined ((next :: items).map fun v => v.compact.toList) (']' :: rest)) (by omega)
        (endsNumber_comma _)
      have hnext := ih next (fun v hv => hitems v (List.mem_cons_of_mem _ hv)) fuel
        (by rw [List.map_cons]; omega)
      rw [List.map_cons, joined_cons]
      simp only [List.map_cons, joinedAfter, List.isEmpty_cons, Bool.false_eq_true, if_false]
        at hread hnext ⊢
      simp only [readItems, hread, skipBlanks_cons (by rfl : isBlank ',' = false), hnext]

/-- The members of an object are read back up to the brace that closes it. -/
theorem readMembers_joined (member : String × Json) (members : Members)
    (hmembers : ∀ m ∈ member :: members, CompactReadsBack depth m.2) (fuel : Nat)
    (rest : List Char)
    (hfuel : (joined ((member :: members).map memberText) []).length < fuel) :
    readMembers fuel depth (joined ((member :: members).map memberText) ('\x7d' :: rest)) =
      .ok (member :: members, rest) := by
  induction members generalizing member fuel with
  | nil =>
      obtain ⟨fuel, rfl⟩ := Nat.exists_eq_add_one_of_ne_zero (Nat.ne_zero_of_lt hfuel)
      rw [List.map_cons, List.map_nil, length_joined_singleton, memberText, List.length_append,
        List.length_cons] at hfuel
      have hread := hmembers member List.mem_cons_self fuel ('\x7d' :: rest) (by omega)
        (endsNumber_cons rest (by decide))
      simp only [List.map_cons, List.map_nil, joined, memberText, toList_quoted, List.append_assoc,
        List.cons_append, List.nil_append, readMembers,
        skipBlanks_cons (by rfl : isBlank '"' = false), readStringToken_escaped,
        skipBlanks_cons (by rfl : isBlank ':' = false), hread,
        skipBlanks_cons (by rfl : isBlank '\x7d' = false)]
  | cons next members ih =>
      obtain ⟨fuel, rfl⟩ := Nat.exists_eq_add_one_of_ne_zero (Nat.ne_zero_of_lt hfuel)
      rw [List.map_cons, List.map_cons, length_joined_cons] at hfuel
      have htext : (memberText member).length =
          (quoted member.1).toList.length + member.2.compact.toList.length + 1 := by
        rw [memberText, List.length_append, List.length_cons]
        omega
      have hread := hmembers member List.mem_cons_self fuel
        (',' :: joined ((next :: members).map memberText) ('\x7d' :: rest)) (by omega)
        (endsNumber_comma _)
      have hnext := ih next (fun m hm => hmembers m (List.mem_cons_of_mem _ hm)) fuel
        (by rw [List.map_cons]; omega)
      rw [List.map_cons, joined_cons]
      simp only [List.map_cons, joinedAfter, List.isEmpty_cons, Bool.false_eq_true, if_false]
        at hread hnext ⊢
      simp only [memberText, toList_quoted, List.append_assoc, List.cons_append, List.nil_append]
        at hread hnext ⊢
      simp only [readMembers, skipBlanks_cons (by rfl : isBlank '"' = false),
        readStringToken_escaped, skipBlanks_cons (by rfl : isBlank ':' = false), hread,
        skipBlanks_cons (by rfl : isBlank ',' = false), hnext]

/-- An array is read back if its items are, one level further in. -/
theorem compactReadsBack_array (hdepth : depth < maxDepth) {items : List Json}
    (hitems : ∀ item ∈ items, HoldsNoFloat item)
    (hread : ∀ item ∈ items, CompactReadsBack (depth + 1) item) :
    CompactReadsBack depth (.array items) := by
  intro fuel rest hfuel _
  have hdeep : ¬ depth ≥ maxDepth := Nat.not_le.mpr hdepth
  have hopen : "[".toList = ['['] := rfl
  have hclose : "]".toList = [']'] := rfl
  simp only [compact, String.toList_append, hopen, hclose, List.length_append, List.length_cons,
    List.length_nil, List.append_assoc, List.cons_append, List.nil_append] at hfuel ⊢
  obtain ⟨fuel, rfl⟩ := Nat.exists_eq_add_one_of_ne_zero (show fuel ≠ 0 by omega)
  have hlength := congrArg List.length (compactItems_append items [])
  rw [List.append_nil] at hlength
  rw [compactItems_append]
  cases items with
  | nil =>
      simp [joined, readValue, skipBlanks_cons (by rfl : isBlank '[' = false),
        skipBlanks_cons (by rfl : isBlank ']' = false), hdeep]
  | cons item items =>
      have hall := readItems_joined item items hread fuel rest (by omega)
      obtain ⟨c, more, htext, hlead⟩ := exists_leads (hitems item List.mem_cons_self)
      have hfront : joined ((item :: items).map fun v => v.compact.toList) (']' :: rest) =
          c :: (more ++ joinedAfter (items.map fun v => v.compact.toList) (']' :: rest)) := by
        rw [List.map_cons, joined_cons, htext, List.cons_append]
      simp only [readValue, skipBlanks_cons (by rfl : isBlank '[' = false), if_neg hdeep]
      split
      case h_1 heq =>
        rw [hfront, skipBlanks_cons hlead.isBlank_eq_false] at heq
        exact absurd (List.cons.inj heq).1 hlead.ne_bracket
      case h_2 => rw [readItems_skipBlanks, hall]

/-- An object is read back if the values of its members are, one level further in. -/
theorem compactReadsBack_object (hdepth : depth < maxDepth) {members : Members}
    (hread : ∀ member ∈ members, CompactReadsBack (depth + 1) member.2) :
    CompactReadsBack depth (.object members) := by
  intro fuel rest hfuel _
  have hdeep : ¬ depth ≥ maxDepth := Nat.not_le.mpr hdepth
  have hopen : "\x7b".toList = ['\x7b'] := rfl
  have hclose : "\x7d".toList = ['\x7d'] := rfl
  simp only [compact, String.toList_append, hopen, hclose, List.length_append, List.length_cons,
    List.length_nil, List.append_assoc, List.cons_append, List.nil_append] at hfuel ⊢
  obtain ⟨fuel, rfl⟩ := Nat.exists_eq_add_one_of_ne_zero (show fuel ≠ 0 by omega)
  have hlength := congrArg List.length (compactMembers_append members [])
  rw [List.append_nil] at hlength
  rw [compactMembers_append]
  cases members with
  | nil =>
      simp [joined, readValue, skipBlanks_cons (by rfl : isBlank '\x7b' = false),
        skipBlanks_cons (by rfl : isBlank '\x7d' = false), hdeep]
  | cons member members =>
      have hall := readMembers_joined member members hread fuel rest (by omega)
      have hfront : joined ((member :: members).map memberText) ('\x7d' :: rest) =
          '"' :: ((member.1.toList.flatMap escapedChar ++ ['"']) ++ ':' ::
            (member.2.compact.toList ++ joinedAfter (members.map memberText) ('\x7d' :: rest))) := by
        rw [List.map_cons, joined_cons, memberText, toList_quoted]
        simp only [List.cons_append, List.append_assoc]
      simp only [readValue, skipBlanks_cons (by rfl : isBlank '\x7b' = false), if_neg hdeep]
      split
      case h_1 heq =>
        rw [hfront, skipBlanks_cons (by rfl : isBlank '"' = false)] at heq
        exact absurd (List.cons.inj heq).1 (by decide)
      case h_2 => rw [readMembers_skipBlanks, hall]

/-- Every legible value is read back from its compact form. -/
theorem Legible.compactReadsBack {v : Json} (hv : Legible levels v)
    (hdepth : depth + levels ≤ maxDepth) : CompactReadsBack depth v := by
  induction hv generalizing depth with
  | null => exact (readsBack_null depth 0).compact (by simp [compact, indented])
  | bool value =>
      exact (readsBack_bool depth 0 value).compact (by cases value <;> simp [compact, indented])
  | int hmin hmax => exact (readsBack_int depth 0 hmin hmax).compact (by simp [compact, indented])
  | string text => exact (readsBack_string depth 0 text).compact (by simp [compact, indented])
  | array hitems ih =>
      exact compactReadsBack_array (by omega) (fun item hitem => (hitems item hitem).holdsNoFloat)
        fun item hitem => ih item hitem (by omega)
  | object hmembers ih =>
      exact compactReadsBack_object (by omega) fun member hmember => ih member hmember (by omega)

/-- A compact document is read back as the value that it was written for. -/
theorem read_compact {v : Json} (hv : Legible maxDepth v) : read v.compact = .ok v := by
  have hread := hv.compactReadsBack (by simp : 0 + maxDepth ≤ maxDepth)
    (2 * v.compact.toList.length + 2) [] (by omega) endsNumber_nil
  rw [List.append_nil] at hread
  simp only [read, hread]
  rfl

end SiteWatch.Json
