/-
# Instants in writing

An instant is written with its date, its time of day and as many digits of the fraction as it needs,
and reading that text gives the instant back. The other way round, every instant that is read is one
that a calendar and a clock can show.
-/

import Mathlib.Algebra.GroupWithZero.Nat
import SiteWatch.Proofs.Outcome
import SiteWatch.Proofs.Time.Calendar
import SiteWatch.Time.Reading

namespace SiteWatch

/-- An instant that a calendar and a clock can show: its day is representable, its nanoseconds stay
within two seconds, and they reach the second one only at the end of a minute, in a leap second. -/
structure Instant.IsShown (t : Instant) : Prop where
  inRange : t.date.inRange = true
  nanos_lt : t.nanos < 2000000000
  leap : 1000000000 ≤ t.nanos → t.seconds % 60 = 59

/-! ## Numbers with zeros in front -/

namespace Date

theorem toList_padded (width n : Nat) : (padded width n).toList =
    List.replicate (width - (Nat.toDigits 10 n).length) '0' ++ Nat.toDigits 10 n := by
  have hlength : n.repr.length = (Nat.toDigits 10 n).length := by
    rw [← String.length_toList, Nat.toList_repr]
  simp [padded, hlength]

theorem isDigit_of_mem_padded {width n : Nat} {c : Char} (hc : c ∈ (padded width n).toList) :
    c.isDigit = true := by
  rw [toList_padded, List.mem_append] at hc
  rcases hc with hzero | hdigit
  · rw [(List.mem_replicate.mp hzero).2]
    rfl
  · exact Nat.isDigit_of_mem_toDigits (by decide) (by decide) hdigit

theorem padded_ne_nil (width n : Nat) : (padded width n).toList ≠ [] := by
  simp [toList_padded]

theorem exists_lead_padded (width n : Nat) :
    ∃ c digits, (padded width n).toList = c :: digits ∧ c.isDigit = true := by
  obtain ⟨c, digits, hdigits⟩ := List.exists_cons_of_ne_nil (padded_ne_nil width n)
  exact ⟨c, digits, hdigits, isDigit_of_mem_padded (hdigits ▸ List.mem_cons_self)⟩

theorem ofDigitChars_padded (width n : Nat) :
    Nat.ofDigitChars 10 (padded width n).toList 0 = n := by
  rw [toList_padded, Nat.ofDigitChars_append, Nat.ofDigitChars_replicate_zero, Nat.mul_zero,
    Nat.ofDigitChars_ten_toDigits]

/-- A number that fits its width fills it. -/
theorem length_padded {width n : Nat} (hwidth : 0 < width) (hn : n < 10 ^ width) :
    (padded width n).toList.length = width := by
  have hdigits := (Nat.length_toDigits_le_iff (by decide) hwidth).mpr hn
  rw [toList_padded, List.length_append, List.length_replicate]
  omega

end Date

namespace Time

/-! ## Reading numbers -/

theorem isDigit_bounds {c : Char} (hc : c.isDigit = true) : 48 ≤ c.toNat ∧ c.toNat ≤ 57 := by
  simp only [Char.isDigit, Bool.and_eq_true, decide_eq_true_eq] at hc
  exact ⟨UInt32.le_iff_toNat_le.mp hc.1, UInt32.le_iff_toNat_le.mp hc.2⟩

theorem isBlank_of_isDigit {c : Char} (hc : c.isDigit = true) : Text.isBlank c = false := by
  have hbounds := isDigit_bounds hc
  simp [Text.isBlank]
  omega

/-- Digits that fill their width, or that something else follows, are read as a number. -/
theorem number_digits {width n : Nat} {digits rest : List Char}
    (hdigits : ∀ c ∈ digits, c.isDigit = true) (hne : digits ≠ []) (hwidth : digits.length ≤ width)
    (hend : digits.length = width ∨ ∀ c, rest.head? = some c → c.isDigit = false)
    (hvalue : Nat.ofDigitChars 10 digits 0 = n) (hmax : n ≤ maxNumber) :
    number width (digits ++ rest) = .ok (n, rest) := by
  have hafter : (rest.take (width - digits.length)).takeWhile Char.isDigit = [] := by
    rcases hend with hfull | hother
    · simp [hfull]
    · cases rest with
      | nil => simp
      | cons c rest =>
          have hc : c.isDigit = false := hother c rfl
          cases width - digits.length with
          | zero => rfl
          | succ k => simp [hc]
  have hfront : ((digits ++ rest).take width).takeWhile Char.isDigit = digits := by
    rw [List.take_append, List.take_of_length_le hwidth, List.takeWhile_append_of_pos hdigits,
      hafter, List.append_nil]
  have hsum : digits.foldl (fun n c => n * 10 + (c.toNat - 48)) 0 = n := by
    rw [← hvalue, Nat.ofDigitChars_eq_foldl]
    simp [Nat.mul_comm]
  have hempty : (digits ++ rest).isEmpty = false := by simp [hne]
  simp only [number, hfront, hsum, hempty, List.isEmpty_iff, hne, Bool.false_eq_true, if_false,
    Nat.not_lt.mpr hmax, List.drop_left]

/-- A number with zeros in front that fits its width is read back. -/
theorem number_padded {width n : Nat} (hwidth : 0 < width) (hn : n < 10 ^ width)
    (hmax : n ≤ maxNumber) (rest : List Char) :
    number width ((Date.padded width n).toList ++ rest) = .ok (n, rest) := by
  have hlength := Date.length_padded hwidth hn
  exact number_digits (fun c => Date.isDigit_of_mem_padded) (Date.padded_ne_nil width n)
    (Nat.le_of_eq hlength) (.inl hlength) (Date.ofDigitChars_padded width n) hmax

/-- Nothing is cut off a text that begins with a digit. -/
theorem dropBlanks_padded (width n : Nat) (rest : List Char) :
    Text.dropBlanks ((Date.padded width n).toList ++ rest) =
      (Date.padded width n).toList ++ rest := by
  obtain ⟨c, digits, hdigits, hc⟩ := Date.exists_lead_padded width n
  simp [hdigits, Text.dropBlanks, isBlank_of_isDigit hc]

theorem bounded_padded {width low high n : Nat} (hwidth : 0 < width) (hn : n < 10 ^ width)
    (hmax : n ≤ maxNumber) (hlow : low ≤ n) (hhigh : n ≤ high) (rest : List Char) :
    bounded width low high ((Date.padded width n).toList ++ rest) = .ok (n, rest) := by
  rw [bounded, dropBlanks_padded, number_padded hwidth hn hmax]
  simp [bind, Except.bind, hlow, hhigh, pure, Except.pure]

/-! ## Reading dates -/

/-- After a sign every digit counts. -/
theorem number_of_sign {n : Nat} (hn : n ≤ maxNumber) (rest : List Char) :
    number ((Date.padded 4 n).toList ++ '-' :: rest).length
      ((Date.padded 4 n).toList ++ '-' :: rest) = .ok (n, '-' :: rest) := by
  refine number_digits (fun c => Date.isDigit_of_mem_padded) (Date.padded_ne_nil 4 n) (by simp)
    (.inr fun c hc => ?_) (Date.ofDigitChars_padded 4 n) hn
  cases hc
  rfl

/-- Four digits need no sign. -/
theorem year_padded {n : Nat} (hn : n < 10 ^ 4) (rest : List Char) :
    year ((Date.padded 4 n).toList ++ '-' :: rest) = .ok (n, '-' :: rest) := by
  have hread : number 4 ((Date.padded 4 n).toList ++ '-' :: rest) = .ok (n, '-' :: rest) :=
    number_padded (by decide) hn (by simp only [maxNumber]; omega) _
  have hlead : ∀ c more, (Date.padded 4 n).toList ++ '-' :: rest = c :: more →
      c.isDigit = true := by
    intro c more hsame
    obtain ⟨d, digits, hdigits, hd⟩ := Date.exists_lead_padded 4 n
    rw [hdigits, List.cons_append] at hsame
    rwa [← (List.cons.inj hsame).1]
  simp only [year, dropBlanks_padded]
  split
  · rename_i hminus
    exact absurd (hlead _ _ hminus) (by decide)
  · rename_i hplus
    exact absurd (hlead _ _ hplus) (by decide)
  · rw [hread]
    exact if_pos (by omega)

/-- A year is read back, whether or not it is written with a sign. -/
theorem year_yearText {y : Int} (hmin : Date.minYear ≤ y) (hmax : y ≤ Date.maxYear)
    (rest : List Char) :
    year ((Date.yearText y).toList ++ '-' :: rest) = .ok (y, '-' :: rest) := by
  simp only [Date.minYear, Date.maxYear] at hmin hmax
  have hsize : y.natAbs ≤ maxNumber := by
    simp only [maxNumber]
    omega
  have hrange : -2147483648 ≤ y ∧ y ≤ 2147483647 := by omega
  unfold Date.yearText
  split
  · rename_i hshort
    rw [year_padded (by omega), Int.toNat_of_nonneg hshort.1]
  · split
    · rename_i hnegative
      have htext : ("-" ++ Date.padded 4 y.natAbs).toList ++ '-' :: rest =
          '-' :: ((Date.padded 4 y.natAbs).toList ++ '-' :: rest) := by simp
      have hvalue : -(y.natAbs : Int) = y := by omega
      rw [htext, year]
      change (number _ _ >>= _) = _
      rw [number_of_sign hsize]
      simp only [bind, Except.bind, hvalue]
      exact if_pos hrange
    · rename_i hnonnegative
      have htext : ("+" ++ Date.padded 4 y.natAbs).toList ++ '-' :: rest =
          '+' :: ((Date.padded 4 y.natAbs).toList ++ '-' :: rest) := by simp
      have hvalue : (y.natAbs : Int) = y := by omega
      rw [htext, year]
      change (number _ _ >>= _) = _
      rw [number_of_sign hsize]
      simp only [bind, Except.bind, hvalue]
      exact if_pos hrange

/-- A year, month and day in the bounds of the calendar are read back. -/
theorem dateParts_text {date : Date} (hrange : date.inRange = true) {lenient : Bool}
    (rest : List Char) :
    dateParts lenient (date.text.toList ++ rest) = .ok (date.civil, rest) := by
  have hcivil := Date.ofCivil?_civil hrange
  obtain ⟨⟨y, m, d⟩, hparts⟩ : ∃ parts, parts = date.civil := ⟨_, rfl⟩
  rw [← hparts] at hcivil ⊢
  simp only [Date.ofCivil?] at hcivil
  split at hcivil
  · rename_i hbounds
    obtain ⟨hmin, hmax, hm1, hm12, hd1, hdays⟩ := hbounds
    have hd31 : d ≤ 31 := by
      refine Nat.le_trans hdays ?_
      unfold Date.daysInMonth
      split <;> (try split) <;> decide
    have htext : date.text.toList ++ rest = (Date.yearText y).toList ++ '-' ::
        ((Date.padded 2 m).toList ++ '-' :: ((Date.padded 2 d).toList ++ rest)) := by
      simp [Date.text, ← hparts]
    have hmonth : ∀ rest, bounded 2 1 12 ((Date.padded 2 m).toList ++ rest) = .ok (m, rest) :=
      bounded_padded (by decide) (by omega) (by simp only [maxNumber]; omega) hm1 hm12
    have hday : ∀ rest, bounded 2 1 31 ((Date.padded 2 d).toList ++ rest) = .ok (d, rest) :=
      bounded_padded (by decide) (by omega) (by simp only [maxNumber]; omega) hd1 hd31
    have hgap : ∀ rest, (if lenient then Text.dropBlanks ('-' :: rest) else '-' :: rest) =
        '-' :: rest := fun _ => ite_self _
    rw [htext, dateParts, year_yearText hmin hmax]
    simp only [bind, Except.bind, pure, Except.pure, hgap, literal, if_true, hmonth, hday]
  · cases hcivil

/-! ## Reading times of day -/

/-- A fraction of some digits. -/
theorem fraction_padded {places n : Nat} (hplaces : 0 < places ∧ places ≤ 9)
    (hn : n < 10 ^ places) (rest : List Char) :
    fraction ('.' :: ((Date.padded places n).toList ++ 'Z' :: rest)) =
      .ok (n * 10 ^ (9 - places), 'Z' :: rest) := by
  have hlength := Date.length_padded hplaces.1 hn
  have hpow : 10 ^ places ≤ 10 ^ 9 := Nat.pow_le_pow_right (by decide) hplaces.2
  have hsize : n ≤ maxNumber := Nat.le_trans (Nat.le_of_lt (Nat.lt_of_lt_of_le hn hpow)) (by decide)
  have hread : number 9 ((Date.padded places n).toList ++ 'Z' :: rest) = .ok (n, 'Z' :: rest) := by
    refine number_digits (fun c => Date.isDigit_of_mem_padded) (Date.padded_ne_nil places n)
      (by rw [hlength]; exact hplaces.2) (.inr fun c hc => ?_) (Date.ofDigitChars_padded places n) hsize
    cases hc
    rfl
  have hseen : ((Date.padded places n).toList ++ 'Z' :: rest).length - ('Z' :: rest).length =
      places := by
    rw [List.length_append, hlength]
    omega
  have hafter : ('Z' :: rest).dropWhile Char.isDigit = 'Z' :: rest := rfl
  rw [fraction, hread]
  simp only [bind, Except.bind, pure, Except.pure, hseen, hafter]
  rfl

/-- The fraction of a second is read back from the digits that it needs. -/
theorem fraction_fractionText (t : Instant) (rest : List Char) :
    fraction (t.fractionText.toList ++ 'Z' :: rest) =
      .ok (t.nanos % 1000000000, 'Z' :: rest) := by
  have hpoint : ∀ places n, ("." ++ Date.padded places n).toList ++ 'Z' :: rest =
      '.' :: ((Date.padded places n).toList ++ 'Z' :: rest) := by simp
  unfold Instant.fractionText
  simp only
  split
  · rename_i hwhole
    rw [hwhole]
    rfl
  · split
    · rw [hpoint, fraction_padded (by decide) (by omega)]
      congr 2
      omega
    · split
      · rw [hpoint, fraction_padded (by decide) (by omega)]
        congr 2
        omega
      · rw [hpoint, fraction_padded (by decide) (by omega)]
        congr 2
        omega

/-- The clock of an instant that is shown: its parts lie in their bounds, and only a leap second has
the number sixty. -/
theorem clock_bounds {t : Instant} (ht : t.IsShown) :
    t.clock.1 ≤ 23 ∧ t.clock.2.1 ≤ 59 ∧ t.clock.2.2 ≤ 60 ∧
      t.clock.1 * 3600 + t.clock.2.1 * 60 + t.clock.2.2 = t.secondOfDay + t.nanos / 1000000000 ∧
      (t.clock.2.2 = 60 ↔ 1000000000 ≤ t.nanos) := by
  have hnanos := ht.nanos_lt
  have hleap := ht.leap
  simp only [Instant.clock, Instant.secondOfDay, Instant.secondsPerDay, ← Int.mod_def']
  omega

/-- A text that an instant is written as gives the instant. -/
theorem readInstant_text {t : Instant} (ht : t.IsShown) : readInstant t.text = .ok t := by
  obtain ⟨hhour, hminute, hsecond, hsum, hleap⟩ := clock_bounds ht
  obtain ⟨⟨hour, minute, second⟩, hclock⟩ : ∃ parts, parts = t.clock := ⟨_, rfl⟩
  rw [← hclock] at hhour hminute hsecond hsum hleap
  simp only at hhour hminute hsecond hsum hleap
  have htext : t.text.toList = t.date.text.toList ++ 'T' :: ((Date.padded 2 hour).toList ++ ':' ::
      ((Date.padded 2 minute).toList ++ ':' :: ((Date.padded 2 second).toList ++
        (t.fractionText.toList ++ ['Z'])))) := by
    simp [Instant.text, ← hclock]
  have hnumber : ∀ {high n : Nat}, n ≤ high → high ≤ 60 → ∀ rest,
      bounded 2 0 high ((Date.padded 2 n).toList ++ rest) = .ok (n, rest) := by
    intro high n hn hhigh
    exact bounded_padded (by decide) (by omega) (by simp only [maxNumber]; omega) (Nat.zero_le n) hn
  have hgap : ∀ rest, Text.dropBlanks (':' :: rest) = ':' :: rest := fun _ => rfl
  have hzone : zoneOrUniversal (Text.dropBlanks ['Z']) = .ok (0, []) := rfl
  have hdate : dateOf t.date.civil = .ok t.date := by
    rw [dateOf, Date.ofCivil?_civil ht.inRange]
  have hfound : (⟨t.date.day * 86400 +
      ((hour * 3600 + minute * 60 + (second - if second = 60 then 1 else 0) : Nat) : Int) - 0,
      t.nanos % 1000000000 + (if second = 60 then 1 else 0) * 1000000000⟩ : Instant) = t := by
    have hnanos := ht.nanos_lt
    have hday : t.date.day * 86400 + (t.secondOfDay : Int) = t.seconds := by
      simp only [Instant.date, Instant.secondOfDay, Instant.secondsPerDay, ← Int.div_def,
        ← Int.mod_def']
      omega
    cases t
    simp only [Instant.mk.injEq] at hday hnanos hsum hleap ⊢
    split <;> omega
  rw [readInstant, htext, dateParts_text ht.inRange]
  simp only [bind, Except.bind, pure, Except.pure, hgap, literal, hnumber hhour (by decide),
    hnumber hminute (by decide), hnumber hsecond (by decide), fraction_fractionText, hdate, hzone,
    if_true, hfound, ht.inRange]
  rfl

/-! ## What is read -/

/-- What follows the date of an instant, after the sign between them. -/
def afterDate (day : Int × Nat × Nat) (rest : List Char) : Except Fault Instant := do
  let (hour, rest) ← bounded 2 0 23 rest
  let (_, rest) ← literal ':' (Text.dropBlanks rest)
  let (minute, rest) ← bounded 2 0 59 rest
  let (_, rest) ← literal ':' (Text.dropBlanks rest)
  let (second, rest) ← bounded 2 0 60 rest
  let (nanos, rest) ← fraction rest
  let (offset, rest) ← zoneOrUniversal (Text.dropBlanks rest)
  if ¬ (Text.dropBlanks rest).isEmpty then throw .tooLong
  let date ← dateOf day
  if offset.natAbs ≥ 86400 then throw .outOfRange
  let leap := if second = 60 then 1 else 0
  let wall : Int := date.day * 86400 + (hour * 3600 + minute * 60 + (second - leap) : Nat)
  let found : Instant := ⟨wall - offset, nanos + leap * 1000000000⟩
  if found.date.inRange then return found else throw .impossible

theorem readInstant_eq (text : String) :
    readInstant text = (do
      let (day, rest) ← dateParts true text.toList
      let rest ← match rest with
        | 't' :: rest | 'T' :: rest | ' ' :: rest => pure rest
        | [] => throw .tooShort
        | _ => throw .invalid
      afterDate day rest) :=
  rfl

theorem le_of_bounded {width low high n : Nat} {chars rest : List Char}
    (hread : bounded width low high chars = .ok (n, rest)) : n ≤ high := by
  simp only [bounded, bind_eq_ok] at hread
  obtain ⟨found, -, hread⟩ := hread
  split at hread
  · rename_i hbounds
    cases hread
    exact hbounds.2
  · cases hread

theorem number_lt {width n : Nat} {chars rest : List Char}
    (hread : number width chars = .ok (n, rest)) :
    chars.length - rest.length ≤ width ∧ n < 10 ^ (chars.length - rest.length) := by
  have hbound : ∀ (digits : List Char) (n : Nat), (∀ c ∈ digits, c.isDigit = true) →
      digits.foldl (fun n c => n * 10 + (c.toNat - 48)) n < (n + 1) * 10 ^ digits.length := by
    intro digits
    induction digits with
    | nil => intro n _; simp
    | cons c digits ih =>
        intro n hdigits
        have hc := isDigit_bounds (hdigits c List.mem_cons_self)
        have hrest := ih (n * 10 + (c.toNat - 48)) fun d hd =>
          hdigits d (List.mem_cons_of_mem _ hd)
        have hstep : (n * 10 + (c.toNat - 48) + 1) * 10 ^ digits.length ≤
            (n + 1) * 10 * 10 ^ digits.length :=
          Nat.mul_le_mul_right _ (by omega)
        rw [List.foldl_cons, List.length_cons, Nat.pow_succ']
        rw [Nat.mul_assoc] at hstep
        omega
  simp only [number] at hread
  split at hread
  · cases hread
  · split at hread
    · cases hread
    · split at hread
      · cases hread
      · cases hread
        have hshort : ((chars.take width).takeWhile Char.isDigit).length ≤ (chars.take width).length :=
          (List.takeWhile_prefix _).length_le
        rw [List.length_take] at hshort
        have hlength : chars.length -
            (chars.drop ((chars.take width).takeWhile Char.isDigit).length).length =
              ((chars.take width).takeWhile Char.isDigit).length := by
          rw [List.length_drop]
          omega
        rw [hlength]
        refine ⟨by omega, ?_⟩
        simpa using hbound _ 0 fun c hc =>
          List.all_eq_true.mp List.all_takeWhile c hc

theorem fraction_lt {chars rest : List Char} {n : Nat} (hread : fraction chars = .ok (n, rest)) :
    n < 1000000000 := by
  unfold fraction at hread
  split at hread
  · rename_i digits
    simp only [bind_eq_ok] at hread
    obtain ⟨⟨value, after⟩, hnumber, hread⟩ := hread
    cases hread
    obtain ⟨hplaces, hvalue⟩ := number_lt hnumber
    have hscale : 10 ^ (digits.length - after.length) * 10 ^ (9 - (digits.length - after.length)) =
        1000000000 := by
      rw [← Nat.pow_add, Nat.add_sub_cancel' hplaces]
    rw [← hscale]
    exact Nat.mul_lt_mul_of_pos_right hvalue (Nat.pow_pos (by decide))
  · cases hread
    decide

/-- What follows the sign of an offset. -/
def afterSign (negative : Bool) (rest : List Char) : Except Fault (Int × List Char) := do
  let (h1, h2) ← twoDigits rest
  if ¬ (h1.isDigit ∧ h2.isDigit) then throw .invalid
  let hours := (h1.toNat - 48) * 10 + (h2.toNat - 48)
  let rest := (rest.drop 2).dropWhile fun c => c = ':' || Text.isBlank c
  let (m1, m2) ← twoDigits rest
  if ¬ (m1.isDigit ∧ m2.isDigit) then throw .invalid
  if m1 > '5' then throw .outOfRange
  let minutes := (m1.toNat - 48) * 10 + (m2.toNat - 48)
  let seconds : Int := (hours * 3600 + minutes * 60 : Nat)
  return ((if negative then -seconds else seconds), rest.drop 2)

theorem zone_eq (chars : List Char) :
    zone chars = (do
      let (negative, rest) ← match chars with
        | '+' :: rest => pure (false, rest)
        | '-' :: rest => pure (true, rest)
        | '−' :: rest => pure (true, rest)
        | [] => throw .tooShort
        | _ => throw .invalid
      afterSign negative rest) :=
  rfl

/-- Offsets count whole minutes. -/
theorem afterSign_mod {negative : Bool} {chars rest : List Char} {offset : Int}
    (hread : afterSign negative chars = .ok (offset, rest)) : offset % 60 = 0 := by
  simp only [afterSign, bind_eq_ok, check_eq_ok] at hread
  obtain ⟨hours, -, -, minutes, -, -, -, hread⟩ := hread
  cases hread
  split <;> omega

theorem zoneOrUniversal_mod {chars rest : List Char} {offset : Int}
    (hread : zoneOrUniversal chars = .ok (offset, rest)) : offset % 60 = 0 := by
  have hzone : zone chars = .ok (offset, rest) → offset % 60 = 0 := by
    intro hread
    rw [zone_eq] at hread
    split at hread
    · exact afterSign_mod hread
    · exact afterSign_mod hread
    · exact afterSign_mod hread
    · cases hread
    · cases hread
  unfold zoneOrUniversal at hread
  split at hread
  · cases hread
    rfl
  · cases hread
    rfl
  · split at hread
    · cases hread
      rfl
    · exact hzone hread
  · exact hzone hread

theorem isShown_of_afterDate {day : Int × Nat × Nat} {rest : List Char} {t : Instant}
    (hread : afterDate day rest = .ok t) : t.IsShown := by
  simp only [afterDate, bind_eq_ok, check_eq_ok] at hread
  obtain ⟨⟨hour, _⟩, -, ⟨_, _⟩, -, ⟨minute, _⟩, -, ⟨_, _⟩, -, ⟨second, _⟩, hsecond,
    ⟨nanos, _⟩, hnanos, ⟨offset, _⟩, hoffset, -, date, -, -, hread⟩ := hread
  have hleap60 := le_of_bounded hsecond
  have hfraction := fraction_lt hnanos
  have hminutes := zoneOrUniversal_mod hoffset
  generalize hleap : (if second = 60 then 1 else 0) = leap at hread
  split at hread
  · rename_i hrange
    cases hread
    refine ⟨hrange, ?_, ?_⟩
    · dsimp only
      split at hleap <;> omega
    · dsimp only
      intro hlate
      split at hleap <;> omega
  · cases hread

/-- Whatever is read is an instant that a calendar and a clock can show. -/
theorem isShown_of_readInstant {text : String} {t : Instant} (hread : readInstant text = .ok t) :
    t.IsShown := by
  rw [readInstant_eq] at hread
  simp only [bind_eq_ok] at hread
  obtain ⟨⟨day, rest⟩, -, hread⟩ := hread
  split at hread
  · exact isShown_of_afterDate hread
  · exact isShown_of_afterDate hread
  · exact isShown_of_afterDate hread
  · cases hread
  · cases hread

end Time

end SiteWatch
