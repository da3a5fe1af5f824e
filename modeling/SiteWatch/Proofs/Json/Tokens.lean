/-
# Tokens read back

The tokens of a written JSON text are read back as what they were: a string in quotation marks,
whatever characters it holds, and an integer that is kept exactly, whatever follows it other than
more of a number.
-/

import SiteWatch.Json.Reader
import SiteWatch.Json.Writer

namespace SiteWatch.Json

/-! ## Strings -/

/-- The two hexadecimal digits of a control character. -/
theorem hexUnit?_hexDigit {n : Nat} (hn : n < 32) (rest : List Char) :
    hexUnit? ('0' :: '0' :: hexDigit (n / 16) :: hexDigit (n % 16) :: rest) = some (n, rest) := by
  have hdigits : ∀ n < 32, hexValue? (hexDigit (n / 16)) = some (n / 16) ∧
      hexValue? (hexDigit (n % 16)) = some (n % 16) := by decide
  have hzero : hexValue? '0' = some 0 := rfl
  obtain ⟨hhigh, hlow⟩ := hdigits n hn
  simp only [hexUnit?, hzero, hhigh, hlow, Option.bind_eq_bind, Option.bind_some, Option.pure_def,
    Option.some.injEq, Prod.mk.injEq, and_true]
  omega

/-- A control character is read back from its numeric escape. -/
theorem numericEscape_hexDigit {c : Char} (hc : c.toNat < 32) (rest : List Char) :
    numericEscape ('0' :: '0' :: hexDigit (c.toNat / 16) :: hexDigit (c.toNat % 16) :: rest) =
      .ok (c, rest) := by
  rw [numericEscape, hexUnit?_hexDigit hc]
  simp only [Nat.lt_trans hc (by decide : 32 < 0xD800), true_or, if_true, Char.ofNat_toNat]

/-- A character is read back from what stands for it inside a quoted string. -/
theorem readString_escapedChar (c : Char) (fuel : Nat) (read rest : List Char) :
    readString (fuel + 1) read (escapedChar c ++ rest) = readString fuel (c :: read) rest := by
  unfold escapedChar
  split
  case isTrue h => subst h; rfl
  split
  case isTrue h => subst h; rfl
  split
  case isTrue h => subst h; rfl
  split
  case isTrue h => subst h; rfl
  split
  case isTrue h => subst h; rfl
  split
  case isTrue h =>
    obtain rfl : c = Char.ofNat 8 := by rw [← h, Char.ofNat_toNat]
    rfl
  split
  case isTrue h =>
    obtain rfl : c = Char.ofNat 12 := by rw [← h, Char.ofNat_toNat]
    rfl
  split
  case isTrue hcontrol =>
    simp only [List.cons_append, List.nil_append, readString, numericEscape_hexDigit hcontrol]
    rfl
  case isFalse hquote hbackslash _ _ _ _ _ hplain =>
    simp only [List.singleton_append, readString, hquote, hbackslash, hplain, if_false]

/-- A string is read back from what stands between its quotation marks. -/
theorem readString_escaped (chars : List Char) (fuel : Nat) (read rest : List Char) :
    readString (chars.length + 1 + fuel) read (chars.flatMap escapedChar ++ '"' :: rest) =
      .ok (String.ofList (read.reverse ++ chars), rest) := by
  induction chars generalizing read with
  | nil =>
      rw [List.length_nil, Nat.zero_add, Nat.add_comm]
      simp [readString]
  | cons c chars ih =>
      have hfuel : (c :: chars).length + 1 + fuel = chars.length + 1 + fuel + 1 := by
        simp only [List.length_cons]
        omega
      rw [hfuel, List.flatMap_cons, List.append_assoc, readString_escapedChar, ih]
      simp

theorem length_le_flatMap_escapedChar (chars : List Char) :
    chars.length ≤ (chars.flatMap escapedChar).length := by
  have hone : ∀ c, 1 ≤ (escapedChar c).length := by
    intro c
    unfold escapedChar
    repeat' split
    all_goals simp
  induction chars with
  | nil => exact Nat.le_refl _
  | cons c chars ih =>
      have hc := hone c
      simp only [List.flatMap_cons, List.length_append, List.length_cons]
      omega

/-- The token of a string, after its opening quotation mark. -/
theorem readStringToken_escaped (text : String) (rest : List Char) :
    readStringToken (text.toList.flatMap escapedChar ++ '"' :: rest) = .ok (text, rest) := by
  obtain ⟨more, hmore⟩ : ∃ more, (text.toList.flatMap escapedChar ++ '"' :: rest).length + 1 =
      text.toList.length + 1 + more := by
    have hle := length_le_flatMap_escapedChar text.toList
    refine ⟨(text.toList.flatMap escapedChar).length - text.toList.length + rest.length + 1, ?_⟩
    simp only [List.length_append, List.length_cons]
    omega
  rw [readStringToken, hmore, readString_escaped]
  simp

theorem toList_quoted (text : String) :
    (quoted text).toList = '"' :: (text.toList.flatMap escapedChar ++ ['"']) := by
  simp [quoted]

/-- A string in quotation marks tells what it is of. -/
theorem quoted_append_inj {text other : String} {rest rest' : List Char}
    (hsame : (quoted text).toList ++ rest = (quoted other).toList ++ rest') :
    text = other ∧ rest = rest' := by
  rw [toList_quoted, toList_quoted] at hsame
  simp only [List.cons_append, List.append_assoc, List.nil_append, List.cons.injEq, true_and]
    at hsame
  have hread := readStringToken_escaped text rest
  rw [hsame, readStringToken_escaped] at hread
  exact Prod.mk.inj (Except.ok.inj hread.symm)

/-! ## Integers -/

/-- Whether a text goes on with something other than more of a number. -/
def EndsNumber (rest : List Char) : Prop :=
  ∀ c ∈ rest.head?, c.isDigit = false ∧ c ≠ '.' ∧ c ≠ 'e' ∧ c ≠ 'E'

theorem endsNumber_nil : EndsNumber [] := nofun

theorem endsNumber_cons {c : Char} (rest : List Char)
    (hc : c.isDigit = false ∧ c ≠ '.' ∧ c ≠ 'e' ∧ c ≠ 'E') : EndsNumber (c :: rest) := by
  intro other hother
  obtain rfl := Option.some.inj hother
  exact hc

theorem isDigit_of_mem_repr {n : Nat} {c : Char} (hc : c ∈ Nat.toDigits 10 n) :
    c.isDigit = true :=
  Nat.isDigit_of_mem_toDigits (by decide) (by decide) hc

/-- An integer begins with a sign or a digit. -/
theorem exists_lead_toString (n : Int) :
    ∃ c rest, (toString n).toList = c :: rest ∧ (c = '-' ∨ c.isDigit = true) := by
  cases n with
  | ofNat m =>
      have htext : (toString (Int.ofNat m)).toList = Nat.toDigits 10 m := Nat.toList_repr
      cases hdigits : Nat.toDigits 10 m with
      | nil => simp at hdigits
      | cons c rest =>
          refine ⟨c, rest, htext.trans hdigits, .inr (isDigit_of_mem_repr (n := m) ?_)⟩
          rw [hdigits]
          exact List.mem_cons_self
  | negSucc m =>
      refine ⟨'-', (m + 1).repr.toList, ?_, .inl rfl⟩
      show ("-" ++ Nat.repr (m + 1)).toList = _
      simp

/-- Digits that are followed by something else tell the number that they are of. -/
theorem toDigits_append_inj {n m : Nat} {rest rest' : List Char} (hrest : EndsNumber rest)
    (hrest' : EndsNumber rest')
    (hsame : Nat.toDigits 10 n ++ rest = Nat.toDigits 10 m ++ rest') : n = m ∧ rest = rest' := by
  have htake : ∀ {n : Nat} {rest : List Char}, EndsNumber rest →
      (Nat.toDigits 10 n ++ rest).takeWhile Char.isDigit = Nat.toDigits 10 n := by
    intro n rest hrest
    rw [List.takeWhile_append_of_pos fun c => isDigit_of_mem_repr]
    cases rest with
    | nil => simp
    | cons c rest => simp [(hrest c rfl).1]
  have hdigits : Nat.toDigits 10 n = Nat.toDigits 10 m := by
    rw [← htake hrest, hsame, htake hrest']
  refine ⟨?_, List.append_cancel_left (hdigits ▸ hsame)⟩
  rw [← Nat.ofDigitChars_ten_toDigits (n := n), hdigits, Nat.ofDigitChars_ten_toDigits]

/-- So does the text of an integer. -/
theorem toString_append_inj {n m : Int} {rest rest' : List Char} (hrest : EndsNumber rest)
    (hrest' : EndsNumber rest')
    (hsame : (toString n).toList ++ rest = (toString m).toList ++ rest') : n = m ∧ rest = rest' := by
  have hpos : ∀ n : Nat, (toString (Int.ofNat n)).toList = Nat.toDigits 10 n :=
    fun n => Nat.toList_repr
  have hneg : ∀ n : Nat, (toString (Int.negSucc n)).toList = '-' :: Nat.toDigits 10 (n + 1) := by
    intro n
    show ("-" ++ Nat.repr (n + 1)).toList = _
    simp
  have hsign : ∀ (n m : Nat) (rest rest' : List Char),
      Nat.toDigits 10 n ++ rest ≠ '-' :: (Nat.toDigits 10 m ++ rest') := by
    intro n m rest rest' hsame
    cases hdigits : Nat.toDigits 10 n with
    | nil => simp at hdigits
    | cons c digits =>
        have hc : c.isDigit = true := isDigit_of_mem_repr (hdigits ▸ List.mem_cons_self)
        rw [hdigits, List.cons_append] at hsame
        rw [(List.cons.inj hsame).1] at hc
        cases hc
  cases n with
  | ofNat n =>
      cases m with
      | ofNat m =>
          rw [hpos, hpos] at hsame
          obtain ⟨hn, htail⟩ := toDigits_append_inj hrest hrest' hsame
          exact ⟨by rw [hn], htail⟩
      | negSucc m =>
          rw [hpos, hneg] at hsame
          exact absurd hsame (hsign n (m + 1) rest rest')
  | negSucc n =>
      cases m with
      | ofNat m =>
          rw [hpos, hneg] at hsame
          exact absurd hsame.symm (hsign m (n + 1) rest' rest)
      | negSucc m =>
          rw [hneg, hneg] at hsame
          obtain ⟨hn, htail⟩ := toDigits_append_inj hrest hrest' (List.cons.inj hsame).2
          exact ⟨by rw [Nat.succ.inj hn], htail⟩

/-- Only zero begins with the digit zero. -/
theorem head?_toDigits {n : Nat} (hn : 0 < n) : (Nat.toDigits 10 n).head? ≠ some '0' := by
  induction n using Nat.strongRecOn with
  | ind n ih =>
    rcases Nat.lt_or_ge n 10 with hsmall | hlarge
    · rw [Nat.toDigits_of_lt_base hsmall]
      have hdigits : ∀ n < 10, 0 < n → [n.digitChar].head? ≠ some '0' := by decide
      exact hdigits n hsmall hn
    · have hfront := ih (n / 10) (by omega) (by omega)
      rw [Nat.toDigits_of_base_le (by decide) hlarge]
      cases hdigits : Nat.toDigits 10 (n / 10) with
      | nil => simp at hdigits
      | cons c digits =>
          rw [hdigits] at hfront
          simpa using hfront

namespace Number

/-- Digits are gathered as long as the significand holds them. -/
theorem gather_digits {digits : List Char} (hdigits : ∀ c ∈ digits, c.isDigit = true)
    (significand : Nat) (hsize : Nat.ofDigitChars 10 digits significand ≤ maxSignificand)
    {rest : List Char} (hrest : EndsNumber rest) :
    gather significand false 0 (digits ++ rest) =
      (Nat.ofDigitChars 10 digits significand, 0, rest) := by
  induction digits generalizing significand with
  | nil =>
      cases rest with
      | nil => rfl
      | cons c rest =>
          have hc := (hrest c rfl).1
          simp [gather, hc]
  | cons c digits ih =>
      have hnext : significand * 10 + digitValue c = 10 * significand + (c.toNat - '0'.toNat) := by
        rw [Nat.mul_comm]
        rfl
      rw [Nat.ofDigitChars_cons] at hsize ⊢
      have hle : significand * 10 + digitValue c ≤ maxSignificand := by
        rw [Nat.ofDigitChars_eq_ofDigitChars_zero] at hsize
        have hpow : 1 * (10 * significand + (c.toNat - '0'.toNat)) ≤
            10 ^ digits.length * (10 * significand + (c.toNat - '0'.toNat)) :=
          Nat.mul_le_mul_right _ (Nat.pow_pos (by decide))
        omega
      have hfits : ¬ (false = true ∨ significand * 10 + digitValue c > maxSignificand) := by
        simpa using hle
      rw [List.cons_append, gather, if_pos (hdigits c List.mem_cons_self), if_neg hfits, hnext]
      exact ih (fun d hd => hdigits d (List.mem_cons_of_mem _ hd)) _ hsize

/-- After the digits of an integer. -/
theorem continueWith_of_endsNumber (negative : Bool) (significand dropped : Nat) {rest : List Char}
    (hrest : EndsNumber rest) :
    readUnsigned.continueWith negative significand dropped rest =
      integer negative significand dropped rest := by
  unfold readUnsigned.continueWith
  split
  · exact absurd rfl (hrest '.' rfl).2.1
  · exact absurd rfl (hrest 'e' rfl).2.2.1
  · exact absurd rfl (hrest 'E' rfl).2.2.2
  · rfl

/-- The digits of a natural number other than zero are gathered. -/
theorem readUnsigned_of_pos (negative : Bool) {n : Nat} (hpos : 0 < n) (rest : List Char) :
    readUnsigned negative (Nat.toDigits 10 n ++ rest) =
      match gather 0 false 0 (Nat.toDigits 10 n ++ rest) with
      | (significand, dropped, rest) =>
        readUnsigned.continueWith negative significand dropped rest := by
  cases hhead : Nat.toDigits 10 n with
  | nil => simp at hhead
  | cons c digits =>
      have hnonzero : c ≠ '0' := by
        intro hzero
        exact head?_toDigits hpos (by rw [hhead, hzero]; rfl)
      have hc : c.isDigit = true :=
        isDigit_of_mem_repr (n := n) (by rw [hhead]; exact List.mem_cons_self)
      rw [List.cons_append]
      unfold readUnsigned
      split
      · rename_i heq
        cases heq
      · rename_i heq
        exact absurd (List.cons.inj heq).1 hnonzero
      · rename_i heq
        obtain ⟨rfl, -⟩ := List.cons.inj heq
        rw [if_pos hc]

/-- The digits of a natural number that is kept exactly. -/
theorem readUnsigned_repr (negative : Bool) {n : Nat} (hn : n ≤ maxSignificand) {rest : List Char}
    (hrest : EndsNumber rest) :
    readUnsigned negative (n.repr.toList ++ rest) = integer negative n 0 rest := by
  rw [Nat.toList_repr]
  rcases Nat.eq_zero_or_pos n with rfl | hpos
  · rw [Nat.toDigits_zero]
    cases rest with
    | nil => rfl
    | cons c rest =>
        have hc : c.isDigit = false := (hrest c rfl).1
        simp only [List.singleton_append, readUnsigned, hc]
        exact continueWith_of_endsNumber negative 0 0 hrest
  · have hdigits : ∀ c ∈ Nat.toDigits 10 n, c.isDigit = true := fun c => isDigit_of_mem_repr
    have hgather := gather_digits hdigits 0 (by simpa using hn) hrest
    rw [Nat.ofDigitChars_ten_toDigits] at hgather
    rw [readUnsigned_of_pos negative hpos, hgather]
    exact continueWith_of_endsNumber negative n 0 hrest

/-- An integer that is kept exactly is read back from its text. -/
theorem read_toString {n : Int} (hmin : minInt ≤ n) (hmax : n ≤ maxInt) {rest : List Char}
    (hrest : EndsNumber rest) : read ((toString n).toList ++ rest) = .ok (.int n, rest) := by
  cases n with
  | ofNat m =>
      have hm : m ≤ maxSignificand := by
        simp only [maxInt, Int.ofNat_eq_natCast] at hmax
        simp only [maxSignificand]
        omega
      have hdigits := readUnsigned_repr false hm hrest
      have htext : (toString (Int.ofNat m)).toList = m.repr.toList := rfl
      rw [htext, read]
      · simpa [integer] using hdigits
      · intro more hminus
        cases hhead : m.repr.toList with
        | nil => simp at hhead
        | cons c digits =>
            rw [hhead] at hminus
            have hc : c.isDigit = true :=
              isDigit_of_mem_repr (by rw [← Nat.toList_repr, hhead]; exact List.mem_cons_self)
            rw [(List.cons.inj hminus).1] at hc
            cases hc
  | negSucc m =>
      have hm : m + 1 ≤ 9223372036854775808 := by
        simp only [minInt] at hmin
        omega
      have hdigits := readUnsigned_repr true
        (n := m + 1) (Nat.le_trans hm (by decide)) hrest
      have htext : (toString (Int.negSucc m)).toList = '-' :: (m + 1).repr.toList := by
        show ("-" ++ Nat.repr (m + 1)).toList = _
        simp
      have hexact : ¬ (m + 1 = 0 ∨ m + 1 > 9223372036854775808) := by omega
      rw [htext, List.cons_append, read, hdigits]
      simp only [integer, Nat.lt_irrefl, if_false, if_true, if_neg hexact]
      rfl

end Number

end SiteWatch.Json
