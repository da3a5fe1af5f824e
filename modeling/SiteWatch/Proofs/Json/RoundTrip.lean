/-
# Documents read back

A value in its indented form is read back as it was, as long as its text can hold it: no binary64
numbers, only integers that are kept exactly, and no more nesting than is read. Arrays and objects
are read back item by item, each from a text that goes on with more of the document.
-/

import Mathlib.Algebra.GroupWithZero.Nat
import SiteWatch.Proofs.Json.Tokens

namespace SiteWatch.Json

/-- A value that a text can hold, with at most so many arrays and objects inside one another. -/
inductive Legible : Nat → Json → Prop where
  | null {levels : Nat} : Legible levels .null
  | bool {levels : Nat} (value : Bool) : Legible levels (.bool value)
  | int {levels : Nat} {n : Int} (hmin : minInt ≤ n) (hmax : n ≤ maxInt) : Legible levels (.int n)
  | string {levels : Nat} (text : String) : Legible levels (.string text)
  | array {levels : Nat} {items : List Json} (hitems : ∀ item ∈ items, Legible levels item) :
      Legible (levels + 1) (.array items)
  | object {levels : Nat} {members : Members}
      (hmembers : ∀ member ∈ members, Legible levels member.2) :
      Legible (levels + 1) (.object members)

/-- A value without binary64 numbers, whose integers are not too small to be kept, with at most so
many arrays and objects inside one another. -/
inductive Writable : Nat → Json → Prop where
  | null {levels : Nat} : Writable levels .null
  | bool {levels : Nat} (value : Bool) : Writable levels (.bool value)
  | int {levels : Nat} {n : Int} (hmin : minInt ≤ n) : Writable levels (.int n)
  | string {levels : Nat} (text : String) : Writable levels (.string text)
  | array {levels : Nat} {items : List Json} (hitems : ∀ item ∈ items, Writable levels item) :
      Writable (levels + 1) (.array items)
  | object {levels : Nat} {members : Members}
      (hmembers : ∀ member ∈ members, Writable levels member.2) :
      Writable (levels + 1) (.object members)

theorem Legible.writable {levels : Nat} {v : Json} (hv : Legible levels v) : Writable levels v := by
  induction hv with
  | null => exact .null
  | bool value => exact .bool value
  | int hmin hmax => exact .int hmin
  | string text => exact .string text
  | array hitems ih => exact .array ih
  | object hmembers ih => exact .object ih

theorem Legible.ofNat {levels bits n : Nat} (hn : n < 2 ^ bits) (hbits : bits ≤ 64) :
    Legible levels (.ofNat n) := by
  have hpow : 2 ^ bits ≤ 2 ^ 64 := Nat.pow_le_pow_right (by decide) hbits
  refine .int ?_ ?_
  · simp only [minInt]
    omega
  · simp only [maxInt]
    omega

theorem Legible.ofOption {α : Type} {levels : Nat} {write : α → Json} {o : Option α}
    (ho : ∀ a ∈ o, Legible levels (write a)) : Legible levels (.ofOption write o) := by
  cases o with
  | none => exact .null
  | some a => exact ho a rfl

theorem Legible.of_mem_member? {α : Type} {levels : Nat} {key : String} {write : α → Json}
    {o : Option α} (ho : ∀ a ∈ o, Legible levels (write a)) :
    ∀ member ∈ member? key write o, Legible levels member.2 := by
  cases o with
  | none => simp [member?]
  | some a => simpa [member?] using ho a rfl

theorem Legible.map {α : Type} {levels : Nat} {write : α → Json} {items : List α}
    (hitems : ∀ a ∈ items, Legible levels (write a)) :
    Legible (levels + 1) (.array (items.map write)) :=
  .array (List.forall_mem_map.mpr hitems)

/-! ## Blanks -/

theorem skipBlanks_append {blanks : List Char} (hblanks : ∀ c ∈ blanks, isBlank c = true)
    (rest : List Char) : skipBlanks (blanks ++ rest) = skipBlanks rest :=
  List.dropWhile_append_of_pos hblanks

theorem skipBlanks_cons {c : Char} (hc : isBlank c = false) (rest : List Char) :
    skipBlanks (c :: rest) = c :: rest :=
  List.dropWhile_cons_of_neg (by simp [hc])

theorem isBlank_of_mem_indentation {level : Nat} {c : Char}
    (hc : c ∈ (indentation level).toList) : isBlank c = true := by
  rw [indentation, String.toList_ofList] at hc
  rw [(List.mem_replicate.mp hc).2]
  rfl

/-- A line break and the blanks of a level. -/
theorem skipBlanks_newline (level : Nat) (rest : List Char) :
    skipBlanks ('\n' :: ((indentation level).toList ++ rest)) = skipBlanks rest := by
  have hblanks : ∀ c ∈ '\n' :: (indentation level).toList, isBlank c = true := by
    intro c hc
    rcases List.mem_cons.mp hc with rfl | hc
    · rfl
    · exact isBlank_of_mem_indentation hc
  exact skipBlanks_append hblanks rest

/-- Blanks before a value are passed over. -/
theorem readValue_append_of_blank {blanks : List Char} (hblanks : ∀ c ∈ blanks, isBlank c = true)
    (fuel depth : Nat) (rest : List Char) :
    readValue fuel depth (blanks ++ rest) = readValue fuel depth rest := by
  cases fuel with
  | zero => rfl
  | succ fuel => rw [readValue, readValue, skipBlanks_append hblanks]

theorem skipBlanks_skipBlanks (chars : List Char) : skipBlanks (skipBlanks chars) = skipBlanks chars := by
  have hfront : ∀ c ∈ chars.takeWhile isBlank, isBlank c = true :=
    List.all_eq_true.mp List.all_takeWhile
  have hsplit := skipBlanks_append hfront (chars.dropWhile isBlank)
  rw [List.takeWhile_append_dropWhile] at hsplit
  exact hsplit.symm

theorem readItems_skipBlanks (fuel depth : Nat) (chars : List Char) :
    readItems fuel depth (skipBlanks chars) = readItems fuel depth chars := by
  have hvalue : ∀ fuel, readValue fuel depth (skipBlanks chars) = readValue fuel depth chars := by
    intro fuel
    cases fuel with
    | zero => rfl
    | succ fuel => rw [readValue, readValue, skipBlanks_skipBlanks]
  cases fuel with
  | zero => rfl
  | succ fuel => rw [readItems, readItems, hvalue]

/-- A line break before an item is passed over with the blanks that follow it. -/
theorem readItems_newline (fuel depth : Nat) (chars : List Char) :
    readItems fuel depth ('\n' :: chars) = readItems fuel depth chars := by
  rw [← readItems_skipBlanks, ← readItems_skipBlanks fuel depth chars]
  rfl

theorem readMembers_skipBlanks (fuel depth : Nat) (chars : List Char) :
    readMembers fuel depth (skipBlanks chars) = readMembers fuel depth chars := by
  cases fuel with
  | zero => rfl
  | succ fuel => rw [readMembers, readMembers, skipBlanks_skipBlanks]

theorem readMembers_newline (fuel depth : Nat) (chars : List Char) :
    readMembers fuel depth ('\n' :: chars) = readMembers fuel depth chars := by
  rw [← readMembers_skipBlanks, ← readMembers_skipBlanks fuel depth chars]
  rfl

/-! ## How values begin -/

/-- A character that a written value may begin with. -/
def IsLead (c : Char) : Prop := c.isDigit = true ∨ c ∈ ['-', 'n', 't', 'f', '"', '[', '\x7b']

theorem IsLead.isBlank_eq_false {c : Char} (hc : IsLead c) : isBlank c = false := by
  rcases hc with hdigit | hc
  · cases hblank : isBlank c with
    | false => rfl
    | true =>
        simp only [isBlank, Bool.or_eq_true, decide_eq_true_eq] at hblank
        rcases hblank with ((rfl | rfl) | rfl) | rfl <;> cases hdigit
  · simp only [List.mem_cons, List.not_mem_nil, or_false] at hc
    rcases hc with rfl | rfl | rfl | rfl | rfl | rfl | rfl <;> rfl

theorem IsLead.ne_close {c : Char} (hc : IsLead c) : c ≠ ']' := by
  rintro rfl
  rcases hc with hdigit | hc
  · cases hdigit
  · simp at hc

theorem exists_lead {levels : Nat} {v : Json} (hv : Writable levels v) (level : Nat) :
    ∃ c, (indented level v).toList.head? = some c ∧ IsLead c := by
  cases hv with
  | null => exact ⟨'n', by simp [indented], .inr (by simp)⟩
  | bool value =>
      cases value with
      | true => exact ⟨'t', by simp [indented], .inr (by simp)⟩
      | false => exact ⟨'f', by simp [indented], .inr (by simp)⟩
  | @int _ n =>
      obtain ⟨c, rest, htext, hc⟩ := exists_lead_toString n
      refine ⟨c, by rw [indented, htext]; rfl, ?_⟩
      rcases hc with rfl | hc
      · exact .inr (by simp)
      · exact .inl hc
  | string text => exact ⟨'"', by simp [indented, toList_quoted], .inr (by simp)⟩
  | @array _ items => exact ⟨'[', by cases items <;> simp [indented], .inr (by simp)⟩
  | @object _ members => exact ⟨'\x7b', by cases members <;> simp [indented], .inr (by simp)⟩

/-- So whoever has at least as many steps as there are characters has one. -/
theorem Legible.exists_fuel {levels : Nat} {v : Json} (hv : Legible levels v) {level fuel : Nat}
    (hfuel : (indented level v).toList.length ≤ fuel) : ∃ more, fuel = more + 1 := by
  obtain ⟨c, hhead, -⟩ := exists_lead hv.writable level
  obtain ⟨rest, htext⟩ := List.head?_eq_some_iff.mp hhead
  rw [htext, List.length_cons] at hfuel
  exact Nat.exists_eq_add_one_of_ne_zero (by omega)

theorem readWord_append (word : String) (value : Json) (rest : List Char) :
    readWord word value (word.toList ++ rest) = .ok (value, rest) := by
  simp [readWord, ← String.length_toList]

/-! ## Values, items and members -/

/-- A value is read back at some depth from its indented form at some level, whatever follows. -/
def ReadsBack (depth level : Nat) (v : Json) : Prop :=
  ∀ fuel rest, (indented level v).toList.length ≤ fuel → EndsNumber rest →
    readValue fuel depth ((indented level v).toList ++ rest) = .ok (v, rest)

/-- What follows an item or a member: more of them, or the end of the line. -/
theorem endsNumber_comma (rest : List Char) : EndsNumber (',' :: rest) :=
  endsNumber_cons rest (by decide)

theorem endsNumber_newline (rest : List Char) : EndsNumber ('\n' :: rest) :=
  endsNumber_cons rest (by decide)

theorem indentedItems_cons_cons (level : Nat) (item next : Json) (rest : List Json) :
    indentedItems level (item :: next :: rest) =
      indentation level ++ indented level item ++ ",\n" ++ indentedItems level (next :: rest) := by
  rw [indentedItems]
  simp

theorem indentedMembers_cons_cons (level : Nat) (key : String) (value : Json)
    (next : String × Json) (rest : Members) :
    indentedMembers level ((key, value) :: next :: rest) =
      indentation level ++ quoted key ++ ": " ++ indented level value ++ ",\n"
        ++ indentedMembers level (next :: rest) := by
  rw [indentedMembers]
  simp

/-- The first item or member stands in front. -/
theorem exists_indentedItems_cons (level : Nat) (item : Json) (items : List Json) :
    ∃ rest, indentedItems level (item :: items) =
      indentation level ++ (indented level item ++ rest) := by
  cases items with
  | nil => exact ⟨"", by simp [indentedItems]⟩
  | cons next items =>
      exact ⟨_, by rw [indentedItems_cons_cons, String.append_assoc, String.append_assoc]⟩

theorem exists_indentedMembers_cons (level : Nat) (key : String) (value : Json)
    (members : Members) :
    ∃ rest, indentedMembers level ((key, value) :: members) =
      indentation level ++ (quoted key ++ rest) := by
  cases members with
  | nil => exact ⟨_, by rw [indentedMembers, String.append_assoc, String.append_assoc]⟩
  | cons next members =>
      refine ⟨": " ++ indented level value ++ ",\n" ++ indentedMembers level (next :: members), ?_⟩
      rw [indentedMembers_cons_cons]
      simp only [String.append_assoc]

/-- The items of an array are read back up to the bracket that closes it. -/
theorem readItems_indentedItems (depth level : Nat) (item : Json) (items : List Json)
    (hitems : ∀ v ∈ item :: items, ReadsBack depth level v) (fuel : Nat) (blanks rest : List Char)
    (hblanks : ∀ c ∈ blanks, isBlank c = true)
    (hfuel : (indentedItems level (item :: items)).toList.length < fuel) :
    readItems fuel depth
        ((indentedItems level (item :: items)).toList ++ '\n' :: (blanks ++ ']' :: rest)) =
      .ok (item :: items, rest) := by
  induction items generalizing item fuel with
  | nil =>
      obtain ⟨fuel, rfl⟩ := Nat.exists_eq_add_one_of_ne_zero (Nat.ne_zero_of_lt hfuel)
      have hread := hitems item List.mem_cons_self fuel ('\n' :: (blanks ++ ']' :: rest))
        (by simp [indentedItems] at hfuel ⊢; omega) (endsNumber_newline _)
      have hclose : skipBlanks ('\n' :: (blanks ++ ']' :: rest)) = ']' :: rest := by
        rw [skipBlanks, List.dropWhile_cons_of_pos (by rfl), ← skipBlanks,
          skipBlanks_append hblanks, skipBlanks_cons (by rfl)]
      simp only [indentedItems, String.toList_append, List.append_assoc, readItems,
        readValue_append_of_blank fun _ => isBlank_of_mem_indentation, hread, hclose]
  | cons next items ih =>
      obtain ⟨fuel, rfl⟩ := Nat.exists_eq_add_one_of_ne_zero (Nat.ne_zero_of_lt hfuel)
      rw [indentedItems_cons_cons] at hfuel ⊢
      simp only [String.toList_append, List.length_append] at hfuel
      have hread := hitems item List.mem_cons_self fuel
        (',' :: '\n' :: ((indentedItems level (next :: items)).toList
          ++ '\n' :: (blanks ++ ']' :: rest))) (by omega) (endsNumber_comma _)
      have hnext := ih next (fun v hv => hitems v (List.mem_cons_of_mem _ hv)) fuel
        (by simp at hfuel; omega)
      have hcomma : ",\n".toList = [',', '\n'] := rfl
      simp only [String.toList_append, List.append_assoc, hcomma, List.cons_append,
        List.nil_append, readItems, readValue_append_of_blank fun _ => isBlank_of_mem_indentation,
        hread, skipBlanks_cons (by rfl : isBlank ',' = false), readItems_newline, hnext]

/-- The members of an object are read back up to the brace that closes it. -/
theorem readMembers_indentedMembers (depth level : Nat) (member : String × Json) (members : Members)
    (hmembers : ∀ m ∈ member :: members, ReadsBack depth level m.2) (fuel : Nat)
    (blanks rest : List Char) (hblanks : ∀ c ∈ blanks, isBlank c = true)
    (hfuel : (indentedMembers level (member :: members)).toList.length < fuel) :
    readMembers fuel depth ((indentedMembers level (member :: members)).toList
        ++ '\n' :: (blanks ++ '\x7d' :: rest)) = .ok (member :: members, rest) := by
  have hspace : ∀ fuel depth chars,
      readValue fuel depth (' ' :: chars) = readValue fuel depth chars := fun fuel depth chars =>
    readValue_append_of_blank (show ∀ c ∈ [' '], isBlank c = true by simp [isBlank]) fuel depth
      chars
  have hcolon : ": ".toList = [':', ' '] := rfl
  have hcomma : ",\n".toList = [',', '\n'] := rfl
  induction members generalizing member fuel with
  | nil =>
      obtain ⟨key, value⟩ := member
      obtain ⟨fuel, rfl⟩ := Nat.exists_eq_add_one_of_ne_zero (Nat.ne_zero_of_lt hfuel)
      simp only [indentedMembers, String.toList_append, List.length_append] at hfuel
      have hread := hmembers (key, value) List.mem_cons_self fuel
        ('\n' :: (blanks ++ '\x7d' :: rest)) (by dsimp only; omega) (endsNumber_newline _)
      have hclose : skipBlanks ('\n' :: (blanks ++ '\x7d' :: rest)) = '\x7d' :: rest := by
        rw [skipBlanks, List.dropWhile_cons_of_pos (by rfl), ← skipBlanks,
          skipBlanks_append hblanks, skipBlanks_cons (by rfl)]
      simp only [indentedMembers, String.toList_append, List.append_assoc, toList_quoted, hcolon,
        List.cons_append, List.nil_append, readMembers,
        skipBlanks_append fun _ => isBlank_of_mem_indentation,
        skipBlanks_cons (by rfl : isBlank '"' = false), readStringToken_escaped,
        skipBlanks_cons (by rfl : isBlank ':' = false), hspace, hread, hclose]
  | cons next members ih =>
      obtain ⟨key, value⟩ := member
      obtain ⟨fuel, rfl⟩ := Nat.exists_eq_add_one_of_ne_zero (Nat.ne_zero_of_lt hfuel)
      rw [indentedMembers_cons_cons] at hfuel ⊢
      simp only [String.toList_append, List.length_append] at hfuel
      have hread := hmembers (key, value) List.mem_cons_self fuel
        (',' :: '\n' :: ((indentedMembers level (next :: members)).toList
          ++ '\n' :: (blanks ++ '\x7d' :: rest)))
        (by dsimp only; omega) (endsNumber_comma _)
      have hnext := ih next (fun m hm => hmembers m (List.mem_cons_of_mem _ hm)) fuel
        (by simp only [hcomma, List.length_cons, List.length_nil] at hfuel; omega)
      simp only [String.toList_append, List.append_assoc, toList_quoted, hcolon, hcomma,
        List.cons_append, List.nil_append, readMembers,
        skipBlanks_append fun _ => isBlank_of_mem_indentation,
        skipBlanks_cons (by rfl : isBlank '"' = false), readStringToken_escaped,
        skipBlanks_cons (by rfl : isBlank ':' = false), hspace, hread,
        skipBlanks_cons (by rfl : isBlank ',' = false), readMembers_newline, hnext]

variable {levels depth : Nat}

theorem readsBack_null (depth level : Nat) : ReadsBack depth level .null := by
  intro fuel rest hfuel _
  obtain ⟨fuel, rfl⟩ := Legible.exists_fuel (.null : Legible 0 .null) hfuel
  have hword := readWord_append "null" .null rest
  simpa [indented, readValue, skipBlanks_cons (by rfl : isBlank 'n' = false)] using hword

theorem readsBack_bool (depth level : Nat) (value : Bool) : ReadsBack depth level (.bool value) := by
  intro fuel rest hfuel _
  obtain ⟨fuel, rfl⟩ := Legible.exists_fuel (.bool value : Legible 0 _) hfuel
  cases value with
  | true =>
      have hword := readWord_append "true" (.bool true) rest
      simpa [indented, readValue, skipBlanks_cons (by rfl : isBlank 't' = false)] using hword
  | false =>
      have hword := readWord_append "false" (.bool false) rest
      simpa [indented, readValue, skipBlanks_cons (by rfl : isBlank 'f' = false)] using hword

theorem readsBack_int (depth level : Nat) {n : Int} (hmin : minInt ≤ n) (hmax : n ≤ maxInt) :
    ReadsBack depth level (.int n) := by
  intro fuel rest hfuel hrest
  obtain ⟨fuel, rfl⟩ := Legible.exists_fuel (.int hmin hmax : Legible 0 _) hfuel
  have hnumber := Number.read_toString hmin hmax hrest
  obtain ⟨c, more, htext, hc⟩ := exists_lead_toString n
  have hlead : IsLead c := by
    rcases hc with rfl | hc
    · exact .inr (by simp)
    · exact .inl hc
  rw [htext, List.cons_append] at hnumber
  rw [indented, htext, List.cons_append, readValue, skipBlanks_cons hlead.isBlank_eq_false]
  -- Neither a sign nor a digit begins any of the other values.
  split
  case h_1 heq => cases heq
  case h_8 heq =>
    obtain ⟨rfl, rfl⟩ := List.cons.inj heq
    rw [if_pos hc, hnumber]
  all_goals
    rename_i heq
    obtain ⟨rfl, -⟩ := List.cons.inj heq
    exact absurd hc (by decide)

theorem readsBack_string (depth level : Nat) (text : String) :
    ReadsBack depth level (.string text) := by
  intro fuel rest hfuel _
  obtain ⟨fuel, rfl⟩ := Legible.exists_fuel (.string text : Legible 0 _) hfuel
  simp [indented, toList_quoted, readValue, skipBlanks_cons (by rfl : isBlank '"' = false),
    readStringToken_escaped]

/-- An array is read back if its items are, one level further in. -/
theorem readsBack_array (hdepth : depth < maxDepth) {items : List Json}
    (hitems : ∀ item ∈ items, Legible levels item) (level : Nat)
    (hread : ∀ item ∈ items, ReadsBack (depth + 1) (level + 1) item) :
    ReadsBack depth level (.array items) := by
  intro fuel rest hfuel _
  obtain ⟨fuel, rfl⟩ := Legible.exists_fuel (.array hitems) hfuel
  have hdeep : ¬ depth ≥ maxDepth := Nat.not_le.mpr hdepth
  cases items with
  | nil =>
      simp [indented, readValue, skipBlanks_cons (by rfl : isBlank '[' = false),
        skipBlanks_cons (by rfl : isBlank ']' = false), hdeep]
  | cons item items =>
      have hall := readItems_indentedItems (depth + 1) (level + 1) item items hread fuel
        (indentation level).toList rest (fun _ => isBlank_of_mem_indentation)
        (by simp [indented] at hfuel; omega)
      obtain ⟨tail, hfirst⟩ := exists_indentedItems_cons (level + 1) item items
      obtain ⟨c, hhead, hlead⟩ := exists_lead (hitems item List.mem_cons_self).writable (level + 1)
      obtain ⟨more, htext⟩ := List.head?_eq_some_iff.mp hhead
      have hopen : "[\n".toList = ['[', '\n'] := rfl
      have hclose : "]".toList = [']'] := rfl
      have hbreak : "\n".toList = ['\n'] := rfl
      simp only [indented, String.toList_append, List.append_assoc, hopen, hclose, hbreak,
        List.cons_append, List.nil_append, readValue,
        skipBlanks_cons (by rfl : isBlank '[' = false), if_neg hdeep]
      split
      case h_1 heq =>
        rw [hfirst] at heq
        simp only [String.toList_append, List.append_assoc, skipBlanks_newline, htext,
          List.cons_append, skipBlanks_cons hlead.isBlank_eq_false] at heq
        exact absurd (List.cons.inj heq).1 hlead.ne_close
      case h_2 => rw [readItems_skipBlanks, readItems_newline, hall]

/-- An object is read back if the values of its members are, one level further in. -/
theorem readsBack_object (hdepth : depth < maxDepth) {members : Members}
    (hmembers : ∀ member ∈ members, Legible levels member.2) (level : Nat)
    (hread : ∀ member ∈ members, ReadsBack (depth + 1) (level + 1) member.2) :
    ReadsBack depth level (.object members) := by
  intro fuel rest hfuel _
  obtain ⟨fuel, rfl⟩ := Legible.exists_fuel (.object hmembers) hfuel
  have hdeep : ¬ depth ≥ maxDepth := Nat.not_le.mpr hdepth
  cases members with
  | nil =>
      simp [indented, readValue, skipBlanks_cons (by rfl : isBlank '\x7b' = false),
        skipBlanks_cons (by rfl : isBlank '\x7d' = false), hdeep]
  | cons member members =>
      have hall := readMembers_indentedMembers (depth + 1) (level + 1) member members hread fuel
        (indentation level).toList rest (fun _ => isBlank_of_mem_indentation)
        (by simp [indented] at hfuel; omega)
      obtain ⟨tail, hfirst⟩ := exists_indentedMembers_cons (level + 1) member.1 member.2 members
      have hopen : "\x7b\n".toList = ['\x7b', '\n'] := rfl
      have hclose : "\x7d".toList = ['\x7d'] := rfl
      have hbreak : "\n".toList = ['\n'] := rfl
      simp only [indented, String.toList_append, List.append_assoc, hopen, hclose, hbreak,
        List.cons_append, List.nil_append, readValue,
        skipBlanks_cons (by rfl : isBlank '\x7b' = false), if_neg hdeep]
      split
      case h_1 heq =>
        rw [hfirst] at heq
        simp only [String.toList_append, List.append_assoc, skipBlanks_newline, toList_quoted,
          List.cons_append, skipBlanks_cons (by rfl : isBlank '"' = false)] at heq
        exact absurd (List.cons.inj heq).1 (by decide)
      case h_2 => rw [readMembers_skipBlanks, readMembers_newline, hall]

/-- Every legible value is read back from its indented form. -/
theorem Legible.readsBack {v : Json} (hv : Legible levels v) (hdepth : depth + levels ≤ maxDepth)
    (level : Nat) : ReadsBack depth level v := by
  induction hv generalizing depth level with
  | null => exact readsBack_null depth level
  | bool value => exact readsBack_bool depth level value
  | int hmin hmax => exact readsBack_int depth level hmin hmax
  | string text => exact readsBack_string depth level text
  | array hitems ih =>
      exact readsBack_array (by omega) hitems level fun item hitem =>
        ih item hitem (by omega) (level + 1)
  | object hmembers ih =>
      exact readsBack_object (by omega) hmembers level fun member hmember =>
        ih member hmember (by omega) (level + 1)

/-- A document is read back as the value that it was written for. -/
theorem read_pretty {v : Json} (hv : Legible maxDepth v) : read v.pretty = .ok v := by
  have hread := hv.readsBack (by simp : 0 + maxDepth ≤ maxDepth) 0 (2 * v.pretty.toList.length + 2) []
    (by simp only [pretty]; omega) endsNumber_nil
  rw [List.append_nil] at hread
  simp only [read]
  rw [show v.pretty.toList = (indented 0 v).toList from rfl] at hread ⊢
  rw [hread]
  rfl

end SiteWatch.Json
