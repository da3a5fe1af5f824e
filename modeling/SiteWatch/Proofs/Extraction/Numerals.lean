/-
# The number of a text

The number of a text is looked for at one place only: the first run of digits, points, commas and
hyphens that begins with a digit or a hyphen. Commas in it count for nothing. Digits with at most one
point among them, and perhaps a hyphen in front, are a number, unless it is too large; anything else
is none, and then the text has no number, even if there are digits further on. So a hyphen between
letters hides every number behind it.
-/

import Mathlib.Data.List.TakeWhile
import SiteWatch.Extraction.Value
import SiteWatch.Proofs.Decimal.Overflow
import SiteWatch.Proofs.Time.RoundTrip

namespace SiteWatch

/-! ## Blanks around a text -/

/-- A text is what is left of it without the blanks at its ends, and these blanks. -/
theorem Text.exists_trimmed (chars : List Char) :
    ∃ front back, chars = front ++ (trimmed chars ++ back) ∧
      (∀ c ∈ front, isBlank c = true) ∧ ∀ c ∈ back, isBlank c = true := by
  refine ⟨chars.takeWhile isBlank, ((chars.dropWhile isBlank).reverse.takeWhile isBlank).reverse,
    ?_, List.all_eq_true.mp List.all_takeWhile, fun c hc => ?_⟩
  · rw [trimmed, ← List.reverse_append, List.takeWhile_append_dropWhile, List.reverse_reverse,
      List.takeWhile_append_dropWhile]
  · exact List.all_eq_true.mp List.all_takeWhile c (List.mem_reverse.mp hc)

/-! ## Plain numerals -/

namespace Decimal

/-- Digits, with at most one point among or beside them. -/
theorem wholeAndPart_eq_some {body whole part : List Char} :
    wholeAndPart body = some (whole, part) ↔
      (∀ c ∈ whole, c.isDigit = true) ∧ (∀ c ∈ part, c.isDigit = true) ∧
        (body = whole ∧ part = [] ∨ body = whole ++ '.' :: part) := by
  constructor
  · intro hread
    have hwhole : ∀ c ∈ body.takeWhile Char.isDigit, c.isDigit = true :=
      List.all_eq_true.mp List.all_takeWhile
    have hbody := (List.takeWhile_append_dropWhile (p := Char.isDigit) (l := body)).symm
    simp only [wholeAndPart] at hread
    split at hread
    · rename_i hrest
      cases hread
      rw [hrest, List.append_nil] at hbody
      exact ⟨hwhole, by simp, .inl ⟨hbody, rfl⟩⟩
    · rename_i rest hrest
      split at hread
      · rename_i hpart
        cases hread
        rw [hrest] at hbody
        exact ⟨hwhole, List.all_eq_true.mp hpart, .inr hbody⟩
      · cases hread
    · cases hread
  · rintro ⟨hwhole, hpart, ⟨rfl, rfl⟩ | rfl⟩
    · have htake : body.takeWhile Char.isDigit = body := List.takeWhile_eq_self_iff.mpr hwhole
      have hdrop : body.dropWhile Char.isDigit = [] := List.dropWhile_eq_nil_iff.mpr hwhole
      simp only [wholeAndPart, htake, hdrop]
    · have htake : (whole ++ '.' :: part).takeWhile Char.isDigit = whole := by
        rw [List.takeWhile_append_of_pos hwhole, List.takeWhile_cons_of_neg (by decide),
          List.append_nil]
      have hdrop : (whole ++ '.' :: part).dropWhile Char.isDigit = '.' :: part := by
        rw [List.dropWhile_append_of_pos hwhole, List.dropWhile_cons_of_neg (by decide)]
      simp only [wholeAndPart, htake, hdrop, List.all_eq_true.mpr hpart, if_true]

/-- Digits and at most one point are a plain numeral. -/
theorem exists_wholeAndPart {body : List Char} (hchars : ∀ c ∈ body, c.isDigit = true ∨ c = '.')
    (hpoint : body.count '.' ≤ 1) : ∃ whole part, wholeAndPart body = some (whole, part) := by
  have hbody := List.takeWhile_append_dropWhile (p := Char.isDigit) (l := body)
  have hwhole : ∀ c ∈ body.takeWhile Char.isDigit, c.isDigit = true :=
    List.all_eq_true.mp List.all_takeWhile
  cases hrest : body.dropWhile Char.isDigit with
  | nil =>
      rw [hrest, List.append_nil] at hbody
      exact ⟨_, [], wholeAndPart_eq_some.mpr ⟨hwhole, by simp, .inl ⟨hbody.symm, rfl⟩⟩⟩
  | cons d part =>
      rw [hrest] at hbody
      rw [← hbody] at hchars hpoint
      have hd : d = '.' := by
        have hstops := List.head_dropWhile_not (l := body) Char.isDigit (by simp [hrest])
        simp only [hrest, List.head_cons] at hstops
        exact (hchars d (by simp)).resolve_left (by simp [hstops])
      subst hd
      have hpart : ∀ c ∈ part, c.isDigit = true := by
        intro c hc
        refine (hchars c (by simp [hc])).resolve_right ?_
        rintro rfl
        have hmore := List.count_pos_iff.mpr hc
        rw [List.count_append, List.count_cons_self] at hpoint
        omega
      exact ⟨_, part, wholeAndPart_eq_some.mpr ⟨hwhole, hpart, .inr hbody.symm⟩⟩

end Decimal

namespace Transform

/-! ## Runs -/

/-- The first run of a text of characters that stand in numbers: before it there is no character that
a number may begin with, it begins with one, and goes on as long as it can. -/
structure IsFirstRun (text run : List Char) : Prop where
  starts : ∃ c rest, run = c :: rest ∧ startsNumber c = true
  within : ∀ c ∈ run, continuesNumber c = true
  split : ∃ before after, text = before ++ (run ++ after) ∧
    (∀ c ∈ before, startsNumber c = false) ∧
    ∀ c, after.head? = some c → continuesNumber c = false

/-- The digits of a run, as one number. -/
def significand (run : List Char) : Nat := Nat.ofDigitChars 10 (run.filter Char.isDigit) 0

/-- The number of digits behind the point of a run. -/
def places (run : List Char) : Nat := ((run.dropWhile (· ≠ '.')).filter Char.isDigit).length

/-- A run is a number that is not too large. -/
structure SpellsNumber (run : List Char) : Prop where
  digit : ∃ c ∈ run, c.isDigit = true
  hyphen : '-' ∉ run.tail
  point : run.count '.' ≤ 1
  size : significand run < Double.overflowBound * 10 ^ places run

/-- What the number of a text has to be. -/
structure FindsNumber (text : List Char) (found : Option Json) : Prop where
  /-- A text without digits has none. -/
  void : (∀ c ∈ text, c.isDigit = false) → found = none
  run : (∃ c ∈ text, c.isDigit = true) → ∃ run, IsFirstRun text run
  /-- A text with a run has one just if the run is a number that is not too large. -/
  yields_iff : ∀ run, IsFirstRun text run → ((∃ value, found = some value) ↔ SpellsNumber run)
  /-- It is the double precision number that is nearest to what the run spells. -/
  value : ∀ run, IsFirstRun text run → ∀ value, found = some value → ∃ x,
    Double.ofDecimal (run.head? = some '-') (significand run) (-(places run : Int)) = some x ∧
      value = .float x

theorem startsNumber_of_isDigit {c : Char} (hc : c.isDigit = true) : startsNumber c = true := by
  simp [startsNumber, hc]

theorem continuesNumber_of_starts {c : Char} (hc : startsNumber c = true) :
    continuesNumber c = true := by
  simp only [startsNumber, Bool.or_eq_true, decide_eq_true_eq] at hc
  rcases hc with hc | hc <;> simp [continuesNumber, hc]

/-- There is no other first run than what is left of a text without what no number begins with, as
far as a number goes on there. -/
theorem IsFirstRun.eq {text run : List Char} (hrun : IsFirstRun text run) :
    (text.dropWhile fun c => !startsNumber c).takeWhile continuesNumber = run := by
  obtain ⟨⟨c, rest, rfl, hc⟩, hwithin, before, after, rfl, hbefore, hafter⟩ := hrun
  have hend : after.takeWhile continuesNumber = [] := by
    cases after with
    | nil => rfl
    | cons d after => exact List.takeWhile_cons_of_neg (by simp [hafter d rfl])
  rw [List.dropWhile_append_of_pos (by simpa using hbefore), List.cons_append,
    List.dropWhile_cons_of_neg (by simp [hc]), ← List.cons_append,
    List.takeWhile_append_of_pos hwithin, hend, List.append_nil]

/-- A text with a character that a number may begin with has a first run. -/
theorem exists_isFirstRun {text : List Char} (hstart : ∃ c ∈ text, startsNumber c = true) :
    ∃ run, IsFirstRun text run := by
  obtain ⟨start, hmem, hstart⟩ := hstart
  have hsome : (text.dropWhile fun c => !startsNumber c) ≠ [] := by
    rw [ne_eq, List.dropWhile_eq_nil_iff]
    intro hnone
    simpa [hstart] using hnone start hmem
  have hstarts := List.head_dropWhile_not (fun c => !startsNumber c) hsome
  obtain ⟨c, rest, hrest⟩ := List.exists_cons_of_ne_nil hsome
  simp only [hrest, List.head_cons, Bool.not_eq_false'] at hstarts
  have htake := List.takeWhile_cons_of_pos (l := rest) (continuesNumber_of_starts hstarts)
  refine ⟨(c :: rest).takeWhile continuesNumber, ⟨c, _, htake, hstarts⟩,
    List.all_eq_true.mp List.all_takeWhile, text.takeWhile fun c => !startsNumber c,
    (c :: rest).dropWhile continuesNumber, ?_, ?_, ?_⟩
  · rw [List.takeWhile_append_dropWhile, ← hrest, List.takeWhile_append_dropWhile]
  · intro d hd
    simpa using List.all_eq_true.mp List.all_takeWhile d hd
  · intro d hd
    have hmore : (c :: rest).dropWhile continuesNumber ≠ [] := by
      rintro hnil
      rw [hnil] at hd
      cases hd
    have hstops := List.head_dropWhile_not continuesNumber hmore
    rw [List.head?_eq_some_head hmore, Option.some.injEq] at hd
    rwa [hd] at hstops

/-! ## What a run spells -/

section

variable {body whole part : List Char}

theorem ne_point_of_isDigit {c : Char} (hc : c.isDigit = true) : c ≠ '.' := by
  rintro rfl
  exact absurd hc (by decide)

/-- Without its commas a run has the digits that it has. -/
theorem filter_isDigit_filter (chars : List Char) :
    (chars.filter (· ≠ ',')).filter Char.isDigit = chars.filter Char.isDigit := by
  rw [List.filter_filter]
  refine List.filter_congr fun c _ => ?_
  by_cases hcomma : c = ','
  · subst hcomma
    decide
  · simp [hcomma]

theorem significand_filter (run : List Char) :
    significand (run.filter (· ≠ ',')) = significand run := by
  rw [significand, significand, filter_isDigit_filter]

theorem places_filter (run : List Char) : places (run.filter (· ≠ ',')) = places run := by
  induction run with
  | nil => rfl
  | cons c rest ih =>
      by_cases hcomma : c = ','
      · subst hcomma
        exact ih
      · rw [List.filter_cons_of_pos (by simpa using hcomma)]
        by_cases hpoint : c = '.'
        · subst hpoint
          exact congrArg List.length (filter_isDigit_filter rest)
        · have hskip (chars : List Char) : places (c :: chars) = places chars := by
            rw [places, places, List.dropWhile_cons_of_pos (by simpa using hpoint)]
          rw [hskip, hskip, ih]

/-- The digits of a plain numeral are those before and after its point. -/
theorem filter_isDigit_of_wholeAndPart (hbody : Decimal.wholeAndPart body = some (whole, part)) :
    body.filter Char.isDigit = whole ++ part := by
  obtain ⟨hwhole, hpart, ⟨rfl, rfl⟩ | rfl⟩ := Decimal.wholeAndPart_eq_some.mp hbody
  · rw [List.filter_eq_self.mpr hwhole, List.append_nil]
  · rw [List.filter_append, List.filter_cons_of_neg (by decide), List.filter_eq_self.mpr hwhole,
      List.filter_eq_self.mpr hpart]

theorem places_of_wholeAndPart (hbody : Decimal.wholeAndPart body = some (whole, part)) :
    places body = part.length := by
  obtain ⟨hwhole, hpart, hbody⟩ := Decimal.wholeAndPart_eq_some.mp hbody
  have hskip : ∀ c ∈ whole, decide (c ≠ '.') = true :=
    fun c hc => decide_eq_true (ne_point_of_isDigit (hwhole c hc))
  obtain ⟨rfl, rfl⟩ | rfl := hbody
  · rw [places, List.dropWhile_eq_nil_iff.mpr hskip]
    rfl
  · rw [places, List.dropWhile_append_of_pos hskip, List.dropWhile_cons_of_neg (by decide),
      List.filter_cons_of_neg (by decide), List.filter_eq_self.mpr hpart]

/-- A plain numeral is made of digits and at most one point. -/
theorem chars_of_wholeAndPart (hbody : Decimal.wholeAndPart body = some (whole, part)) :
    (∀ c ∈ body, c.isDigit = true ∨ c = '.') ∧ body.count '.' ≤ 1 := by
  obtain ⟨hwhole, hpart, hbody⟩ := Decimal.wholeAndPart_eq_some.mp hbody
  have hcount {digits : List Char} (hdigits : ∀ c ∈ digits, c.isDigit = true) :
      digits.count '.' = 0 :=
    List.count_eq_zero.mpr fun hmem => ne_point_of_isDigit (hdigits '.' hmem) rfl
  obtain ⟨rfl, rfl⟩ | rfl := hbody
  · exact ⟨fun c hc => .inl (hwhole c hc), by rw [hcount hwhole]; exact Nat.zero_le 1⟩
  · constructor
    · intro c hc
      rcases List.mem_append.mp hc with hc | hc
      · exact .inl (hwhole c hc)
      · rcases List.mem_cons.mp hc with rfl | hc
        · exact .inr rfl
        · exact .inl (hpart c hc)
    · rw [List.count_append, List.count_cons_self, hcount hwhole, hcount hpart]

/-- The number of a numeral without its sign. -/
def unsigned? (negative : Bool) (body : List Char) : Option Double :=
  match Decimal.wholeAndPart body with
  | none => none
  | some (whole, part) =>
    let digits := whole ++ part
    if digits.isEmpty then none
    else
      let significand := digits.foldl (fun sum c => 10 * sum + Json.Number.digitValue c) 0
      Double.ofDecimal negative significand (-(part.length : Int))

theorem read?_of_hyphen (body : List Char) : Decimal.read? ('-' :: body) = unsigned? true body := rfl

theorem read?_of_ne {chars : List Char} (hchars : ∀ body, chars ≠ '-' :: body) :
    Decimal.read? chars = unsigned? false chars := by
  unfold Decimal.read? unsigned?
  split
  rename_i negative rest hsign
  split at hsign
  · rename_i body
    exact absurd rfl (hchars body)
  · cases hsign
    rfl

theorem unsigned?_eq_some {negative : Bool} {x : Double} :
    unsigned? negative body = some x ↔
      (∃ c ∈ body, c.isDigit = true) ∧ (∀ c ∈ body, c.isDigit = true ∨ c = '.') ∧
        body.count '.' ≤ 1 ∧
        Double.ofDecimal negative (significand body) (-(places body : Int)) = some x := by
  have hread {whole part : List Char} (hbody : Decimal.wholeAndPart body = some (whole, part)) :
      unsigned? negative body = some x ↔ (∃ c ∈ body, c.isDigit = true) ∧
        Double.ofDecimal negative (significand body) (-(places body : Int)) = some x := by
    have hdigits := filter_isDigit_of_wholeAndPart hbody
    have hempty : (whole ++ part).isEmpty = true ↔ ¬ ∃ c ∈ body, c.isDigit = true := by
      rw [← hdigits, List.isEmpty_iff, List.filter_eq_nil_iff]
      push Not
      rfl
    have hvalue : (whole ++ part).foldl (fun sum c => 10 * sum + Json.Number.digitValue c) 0 =
        significand body := by
      rw [significand, hdigits]
      rfl
    simp only [unsigned?, hbody, hvalue, places_of_wholeAndPart hbody]
    by_cases hnone : (whole ++ part).isEmpty = true
    · rw [if_pos hnone]
      exact iff_of_false nofun fun hsome => hempty.mp hnone hsome.1
    · rw [if_neg hnone]
      exact (and_iff_right (not_not.mp (mt hempty.mpr hnone))).symm
  cases hbody : Decimal.wholeAndPart body with
  | none =>
      refine iff_of_false (by simp [unsigned?, hbody]) ?_
      rintro ⟨-, hchars, hpoint, -⟩
      obtain ⟨whole, part, hsome⟩ := Decimal.exists_wholeAndPart hchars hpoint
      cases hbody.symm.trans hsome
  | some parts =>
      obtain ⟨hchars, hpoint⟩ := chars_of_wholeAndPart hbody
      rw [hread hbody]
      exact ⟨fun hx => ⟨hx.1, hchars, hpoint, hx.2⟩, fun hx => ⟨hx.1, hx.2.2.2⟩⟩

/-- Behind its sign a run is a number just if there is no other hyphen and at most one point. -/
theorem unsigned?_filter_eq_some {negative : Bool} {x : Double}
    (hwithin : ∀ c ∈ body, continuesNumber c = true) :
    unsigned? negative (body.filter (· ≠ ',')) = some x ↔
      (∃ c ∈ body, c.isDigit = true) ∧ '-' ∉ body ∧ body.count '.' ≤ 1 ∧
        Double.ofDecimal negative (significand body) (-(places body : Int)) = some x := by
  have hdigit : (∃ c ∈ body.filter (· ≠ ','), c.isDigit = true) ↔
      ∃ c ∈ body, c.isDigit = true := by
    refine exists_congr fun c => ?_
    rw [List.mem_filter, and_assoc]
    refine and_congr_right fun _ => and_iff_right_of_imp fun hc => ?_
    exact decide_eq_true fun hcomma => absurd hc (by subst hcomma; decide)
  have hchars : (∀ c ∈ body.filter (· ≠ ','), c.isDigit = true ∨ c = '.') ↔ '-' ∉ body := by
    constructor
    · intro hall hhyphen
      have hplain := hall '-' (List.mem_filter.mpr ⟨hhyphen, by decide⟩)
      exact absurd hplain (by decide)
    · intro hnone c hc
      obtain ⟨hmem, hcomma⟩ := List.mem_filter.mp hc
      have hcontinues := hwithin c hmem
      simp only [continuesNumber, Bool.or_eq_true, decide_eq_true_eq] at hcontinues hcomma
      rcases hcontinues with ((hdigit | hpoint) | hsame) | hhyphen
      · exact .inl hdigit
      · exact .inr hpoint
      · exact absurd hsame hcomma
      · exact absurd (hhyphen ▸ hmem) hnone
  have hcount : (body.filter (· ≠ ',')).count '.' = body.count '.' :=
    List.count_filter (by decide)
  rw [unsigned?_eq_some, hdigit, hchars, hcount, significand_filter, places_filter]

end

/-! ## The number -/

section

variable {text : String} {run : List Char}

/-- The number of a text is what its first run spells. -/
theorem number?_eq_some (hrun : IsFirstRun text.toList run) {x : Double} :
    number? text = some x ↔
      (∃ c ∈ run, c.isDigit = true) ∧ '-' ∉ run.tail ∧ run.count '.' ≤ 1 ∧
        Double.ofDecimal (run.head? = some '-') (significand run) (-(places run : Int)) = some x := by
  rw [number?, numeral, hrun.eq]
  obtain ⟨⟨c, rest, rfl, hc⟩, hwithin, -⟩ := hrun
  obtain ⟨hcontinues, hrest⟩ := List.forall_mem_cons.mp hwithin
  simp only [startsNumber, Bool.or_eq_true, decide_eq_true_eq] at hc
  by_cases hhyphen : c = '-'
  · subst hhyphen
    have hsign : ('-' :: rest).filter (· ≠ ',') = '-' :: rest.filter (· ≠ ',') :=
      List.filter_cons_of_pos (by decide)
    have hdigit : (∃ c ∈ '-' :: rest, c.isDigit = true) ↔ ∃ c ∈ rest, c.isDigit = true := by
      simp
    rw [hsign, read?_of_hyphen, unsigned?_filter_eq_some hrest, hdigit,
      List.count_cons_of_ne (by decide)]
    rfl
  · have hfront : ∀ rest', (c :: rest).filter (· ≠ ',') ≠ '-' :: rest' := by
      intro rest' hsame
      have hcomma : c ≠ ',' := by
        rintro rfl
        exact absurd (hc.resolve_right hhyphen) (by decide)
      rw [List.filter_cons_of_pos (by simpa using hcomma)] at hsame
      exact hhyphen (List.cons.inj hsame).1
    have hsign : decide ((c :: rest).head? = some '-') = false :=
      decide_eq_false fun hsame => hhyphen (Option.some.inj hsame)
    have hhyphens : '-' ∉ c :: rest ↔ '-' ∉ (c :: rest).tail := by
      rw [List.tail_cons, List.mem_cons, or_iff_right (Ne.symm hhyphen)]
    rw [read?_of_ne hfront, unsigned?_filter_eq_some hwithin, hhyphens, hsign]

/-- The number is what the first run spells, where it is not too large. -/
theorem exists_number?_iff (hrun : IsFirstRun text.toList run) :
    (∃ x, number? text = some x) ↔ SpellsNumber run := by
  simp only [number?_eq_some hrun]
  constructor
  · rintro ⟨x, hdigit, hhyphen, hpoint, hx⟩
    refine ⟨hdigit, hhyphen, hpoint, ?_⟩
    rw [← Nat.not_le, ← Double.ofDecimal_eq_none_iff (run.head? = some '-'), hx]
    exact nofun
  · rintro ⟨hdigit, hhyphen, hpoint, hsize⟩
    rw [← Nat.not_le, ← Double.ofDecimal_eq_none_iff (run.head? = some '-')] at hsize
    obtain ⟨x, hx⟩ := Option.ne_none_iff_exists'.mp hsize
    exact ⟨x, hdigit, hhyphen, hpoint, hx⟩

/-- No blank stands in a number. -/
theorem not_continuesNumber_of_isBlank {c : Char} (hc : Text.isBlank c = true) :
    continuesNumber c = false := by
  rw [Bool.eq_false_iff]
  intro hcontinues
  simp only [continuesNumber, Bool.or_eq_true, decide_eq_true_eq] at hcontinues
  rcases hcontinues with ((hdigit | rfl) | rfl) | rfl
  · rw [Time.isBlank_of_isDigit hdigit] at hc
    cases hc
  all_goals exact absurd hc (by decide)

/-- A text has no number where none begins. -/
theorem number?_eq_none (hnone : ¬ ∃ c ∈ text.toList, startsNumber c = true) :
    number? text = none := by
  have hdrop : (text.toList.dropWhile fun c => !startsNumber c) = [] := by
    rw [List.dropWhile_eq_nil_iff]
    intro c hc
    simpa using fun hstart => hnone ⟨c, hc, hstart⟩
  rw [number?, numeral, hdrop]
  rfl

end

/-! ## Blanks around it -/

/-- Blanks around a text make no difference to its first run. -/
theorem IsFirstRun.of_trimmed {chars run : List Char} (hrun : IsFirstRun (Text.trimmed chars) run) :
    IsFirstRun chars run := by
  obtain ⟨front, back, hchars, hfront, hback⟩ := Text.exists_trimmed chars
  obtain ⟨hstarts, hwithin, before, after, htrimmed, hbefore, hafter⟩ := hrun
  refine ⟨hstarts, hwithin, front ++ before, after ++ back, ?_, ?_, ?_⟩
  · rw [hchars, htrimmed]
    simp
  · refine List.forall_mem_append.mpr ⟨fun c hc => ?_, hbefore⟩
    have hblank := not_continuesNumber_of_isBlank (hfront c hc)
    rw [Bool.eq_false_iff] at hblank ⊢
    exact mt continuesNumber_of_starts hblank
  · intro c hc
    cases after with
    | nil => exact not_continuesNumber_of_isBlank (hback c (List.mem_of_mem_head? hc))
    | cons d after => exact hafter c hc

theorem IsFirstRun.trimmed {chars run : List Char} (hrun : IsFirstRun chars run) :
    IsFirstRun (Text.trimmed chars) run := by
  obtain ⟨⟨start, rest, rfl, hstart⟩, -, before, after, hsplit, -⟩ := id hrun
  have hmem : start ∈ Text.trimmed chars := by
    obtain ⟨front, back, hchars, hfront, hback⟩ := Text.exists_trimmed chars
    have hsolid {c : Char} (hc : Text.isBlank c = true) : c ≠ start := by
      rintro rfl
      have hnot := not_continuesNumber_of_isBlank hc
      rw [continuesNumber_of_starts hstart] at hnot
      cases hnot
    have hmem : start ∈ front ++ (Text.trimmed chars ++ back) := by
      rw [← hchars, hsplit]
      simp
    simp only [List.mem_append] at hmem
    rcases hmem with hmem | hmem | hmem
    · exact absurd rfl (hsolid (hfront start hmem))
    · exact hmem
    · exact absurd rfl (hsolid (hback start hmem))
  obtain ⟨other, hother⟩ := exists_isFirstRun ⟨start, hmem, hstart⟩
  rwa [← hrun.eq, hother.of_trimmed.eq]

theorem valueOf?_number (base : Option String) (raw : String) :
    valueOf? (some .number) base raw = (number? (Text.trim raw)).map .float := by
  simp only [valueOf?]
  split
  · rename_i hempty
    rw [String.isEmpty_iff.mp hempty]
    rfl
  · rfl

/-- What the number transform makes of any text. -/
theorem findsNumber_of_text (base : Option String) (raw : String) :
    FindsNumber raw.toList (valueOf? (some .number) base raw) := by
  have htrim : (Text.trim raw).toList = Text.trimmed raw.toList := String.toList_ofList
  have hrun {run : List Char} (hfirst : IsFirstRun raw.toList run) :
      IsFirstRun (Text.trim raw).toList run := htrim ▸ hfirst.trimmed
  rw [valueOf?_number]
  refine ⟨fun hnone => ?_, fun hdigit => ?_, fun run hfirst => ?_, fun run hfirst value hvalue => ?_⟩
  · rw [Option.map_eq_none_iff]
    by_contra hsome
    obtain ⟨x, hx⟩ := Option.ne_none_iff_exists'.mp hsome
    by_cases hstart : ∃ c ∈ (Text.trim raw).toList, startsNumber c = true
    · obtain ⟨run, hfirst⟩ := exists_isFirstRun hstart
      obtain ⟨c, hc, hdigit⟩ := ((number?_eq_some hfirst).mp hx).1
      obtain ⟨-, -, before, after, hsplit, -⟩ := IsFirstRun.of_trimmed (htrim ▸ hfirst)
      have hmem : c ∈ raw.toList := by
        rw [hsplit]
        simp [hc]
      exact absurd hdigit (by simp [hnone c hmem])
    · cases hx.symm.trans (number?_eq_none hstart)
  · obtain ⟨c, hc, hdigit⟩ := hdigit
    exact exists_isFirstRun ⟨c, hc, startsNumber_of_isDigit hdigit⟩
  · rw [← exists_number?_iff (hrun hfirst)]
    simp
  · obtain ⟨x, hx, rfl⟩ := Option.map_eq_some_iff.mp hvalue
    exact ⟨x, ((number?_eq_some (hrun hfirst)).mp hx).2.2.2, rfl⟩

/-- A hyphen between letters hides the number behind it. -/
theorem number_behind_hyphen_is_lost :
    (∃ c ∈ "pre-order 12".toList, c.isDigit = true) ∧
      valueOf? (some .number) none "pre-order 12" = none ∧
      valueOf? (some .number) none "order 12" = some (.float ⟨false, 6755399441055744, -49⟩) := by
  refine ⟨⟨'1', by simp, rfl⟩, ?_, ?_⟩
  · rfl
  · rfl

end Transform

end SiteWatch
