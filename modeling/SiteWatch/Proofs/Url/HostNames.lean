/-
# Plain host names

Host names come in many spellings. One of small letters, digits, hyphens and full stops is taken as it
stands, unless it is the number of an address or one of its labels is encoded: the root of such a host
is read back with this name, and nothing else but the root.
-/

import Mathlib.Data.List.Basic
import SiteWatch.Url.Parse

namespace SiteWatch

/-! ## Parts between separators -/

namespace Text

theorem splitAt_go_ne_nil (separator : Char) (piece chars : List Char) :
    splitAt.go separator piece chars ≠ [] := by
  induction chars generalizing piece with
  | nil => simp [splitAt.go]
  | cons c rest ih =>
      rw [splitAt.go]
      split
      · simp
      · exact ih _

theorem intercalate_splitAt_go (separator : Char) (piece chars : List Char) :
    [separator].intercalate (splitAt.go separator piece chars) = piece.reverse ++ chars := by
  induction chars generalizing piece with
  | nil => simp [splitAt.go, List.intercalate]
  | cons c rest ih =>
      rw [splitAt.go]
      split
      · rename_i hc
        obtain ⟨first, more, hmore⟩ := List.exists_cons_of_ne_nil (splitAt_go_ne_nil separator [] rest)
        have hrest := ih []
        rw [hmore] at hrest ⊢
        simp only [List.intercalate, List.intersperse_cons_cons, List.flatten_cons] at hrest ⊢
        rw [hrest, hc]
        simp
      · rw [ih]
        simp

/-- The parts of a text, put together again. -/
theorem intercalate_splitAt (separator : Char) (chars : List Char) :
    [separator].intercalate (splitAt separator chars) = chars :=
  intercalate_splitAt_go separator [] chars

theorem subset_of_mem_splitAt_go {separator : Char} {piece chars part : List Char}
    (hpart : part ∈ splitAt.go separator piece chars) : part ⊆ piece ++ chars := by
  induction chars generalizing piece with
  | nil =>
      obtain rfl := List.mem_singleton.mp hpart
      simp
  | cons c rest ih =>
      rw [splitAt.go] at hpart
      split at hpart
      · rcases List.mem_cons.mp hpart with rfl | hrest
        · intro d hd
          simp [List.mem_reverse.mp hd]
        · intro d hd
          simpa using .inr (.inr (by simpa using ih hrest hd))
      · intro d hd
        simpa [or_left_comm, or_assoc] using ih hpart hd

/-- A part of a text has no characters of its own. -/
theorem subset_of_mem_splitAt {separator : Char} {chars part : List Char}
    (hpart : part ∈ splitAt separator chars) : part ⊆ chars :=
  subset_of_mem_splitAt_go hpart

theorem splitAt_of_not_mem {separator : Char} {chars : List Char} (hchars : separator ∉ chars) :
    splitAt separator chars = [chars] := by
  have hgo : ∀ piece, splitAt.go separator piece chars = [piece.reverse ++ chars] := by
    induction chars with
    | nil => simp [splitAt.go]
    | cons c rest ih =>
        intro piece
        obtain ⟨hc, hrest⟩ := List.ne_and_not_mem_of_not_mem_cons hchars
        rw [splitAt.go, if_neg hc.symm, ih hrest]
        simp
  exact hgo []

end Text

namespace Url

/-! ## Bytes of plain texts -/

theorem toList_loop (bytes : ByteArray) (i : Nat) (found : List UInt8) :
    ByteArray.toList.loop bytes i found = found.reverse ++ bytes.data.toList.drop i := by
  fun_induction ByteArray.toList.loop bytes i found with
  | case1 i found hi ih =>
      have hdrop := List.drop_eq_getElem_cons (l := bytes.data.toList) (i := i) (by simpa using hi)
      rw [ih, hdrop]
      simp [ByteArray.get!, hi]
  | case2 i found hi =>
      rw [List.drop_eq_nil_of_le (by simpa using hi), List.append_nil]

theorem toList_eq (bytes : ByteArray) : bytes.toList = bytes.data.toList :=
  toList_loop bytes 0 []

theorem percentDecode_of_not_mem {bytes : List UInt8} (hbytes : 37 ∉ bytes) :
    percentDecode bytes = bytes := by
  induction bytes with
  | nil => rfl
  | cons byte rest ih =>
      obtain ⟨hbyte, hrest⟩ := List.ne_and_not_mem_of_not_mem_cons hbytes
      unfold percentDecode
      split
      · rename_i heq
        exact absurd (List.cons.inj heq).1.symm hbyte
      · rename_i heq
        obtain ⟨rfl, rfl⟩ := List.cons.inj heq
        rw [ih hrest]
      · rename_i heq
        cases heq

/-! ## Plain names -/

/-- What holds of a few characters is tried out on them, not on all characters that there are. -/
theorem forall_mem_of_all {chars : List Char} {p : Char → Prop} [DecidablePred p]
    (hall : (chars.all fun c => decide (p c)) = true) : ∀ c ∈ chars, p c := by
  simpa using hall

/-- The characters of plain names. -/
def plainChars : List Char := "abcdefghijklmnopqrstuvwxyz0123456789-.".toList

/-- A host name that is taken as it stands. -/
structure IsPlainName (name : String) : Prop where
  ne_empty : name ≠ ""
  chars : ∀ c ∈ name.toList, c ∈ plainChars
  /-- No label is encoded. -/
  labels : ∀ label ∈ Text.splitAt '.' name.toList, ['x', 'n', '-', '-'].isPrefixOf label = false
  /-- The name is not the number of an address. -/
  number : Host.endsInNumber name.toList = false

namespace IsPlainName

theorem mapM_eq_some_self {α : Type} {f : α → Option α} {items : List α}
    (hitems : ∀ item ∈ items, f item = some item) : items.mapM f = some items := by
  induction items with
  | nil => rfl
  | cons item rest ih =>
      obtain ⟨hitem, hrest⟩ := List.forall_mem_cons.mp hitems
      rw [List.mapM_cons, hitem, ih hrest]
      rfl

theorem mapped_eq : ∀ c ∈ plainChars, Host.mapped c = [c] :=
  forall_mem_of_all (by decide)

theorem lt_128 : ∀ c ∈ plainChars, c.toNat < 128 :=
  forall_mem_of_all (by decide)

theorem percent_not_mem : ∀ c ∈ plainChars, 37 ∉ String.utf8EncodeChar c :=
  forall_mem_of_all (by decide)

theorem isForbidden_eq : ∀ c ∈ plainChars, Host.isForbidden c = false :=
  forall_mem_of_all (by decide)

variable {name : String} (hname : IsPlainName name)

include hname

theorem not_mem {c : Char} (hc : c ∉ plainChars) : c ∉ name.toList :=
  fun hmem => hc (hname.chars c hmem)

theorem utf8?_percentDecode : utf8? (percentDecode name.toUTF8.toList) = some name := by
  have hbytes : 37 ∉ name.toUTF8.toList := by
    have hencode : name.toUTF8.data.toList = name.toList.flatMap String.utf8EncodeChar := by
      rw [← String.ofList_toList (s := name), String.toUTF8, String.toByteArray_ofList]
      simp [List.utf8Encode]
    rw [toList_eq, hencode]
    intro hmem
    obtain ⟨c, hc, hbyte⟩ := List.mem_flatMap.mp hmem
    exact percent_not_mem c (hname.chars c hc) hbyte
  rw [percentDecode_of_not_mem hbytes, toList_eq, utf8?]
  exact dif_pos name.isValidUTF8

theorem asciiLabel?_eq {label : List Char} (hlabel : label ∈ Text.splitAt '.' name.toList) :
    Host.asciiLabel? label = some label := by
  have hascii : (label.all fun c => decide (c.toNat < 128)) = true :=
    List.all_eq_true.mpr fun c hc => decide_eq_true
      (lt_128 c (hname.chars c (Text.subset_of_mem_splitAt hlabel hc)))
  rw [Host.asciiLabel?, if_pos hascii, hname.labels label hlabel]
  rfl

theorem asciiDomain?_eq : Host.asciiDomain? name = some name := by
  have hmapped : name.toList.flatMap Host.mapped = name.toList := by
    have hsame : name.toList.flatMap Host.mapped = name.toList.flatMap ([·]) :=
      List.flatMap_congr fun c hc => mapped_eq c (hname.chars c hc)
    rw [hsame, List.flatMap_singleton']
  have hlabels : (Text.splitAt '.' name.toList).mapM Host.asciiLabel? =
      some (Text.splitAt '.' name.toList) :=
    mapM_eq_some_self fun _ => hname.asciiLabel?_eq
  have hforbidden : name.toList.any Host.isForbidden = false :=
    List.any_eq_false.mpr fun c hc => by simp [isForbidden_eq c (hname.chars c hc)]
  simp only [Host.asciiDomain?, hmapped, hlabels, Option.bind_eq_bind, Option.bind_some,
    Text.intercalate_splitAt, hforbidden]
  simp

theorem parse_eq : Host.parse name.toList = .ok (.domain name) := by
  have hempty : name.isEmpty = false := by simpa using hname.ne_empty
  unfold Host.parse
  split
  · rename_i rest hbracket
    exact absurd (hbracket ▸ List.mem_cons_self) (hname.not_mem (c := '[') (by decide))
  · simp only [String.ofList_toList, hname.utf8?_percentDecode, hname.asciiDomain?_eq, hempty,
      hname.number]
    rfl

/-! ## The root of a host -/

theorem readCredentials_eq : readCredentials true (name.toList ++ ['/']) =
    .ok ("", "", name.toList ++ ['/']) := by
  have hinside : ∀ c ∈ name.toList, (!(isSlash true c || endsPath c)) = true := by
    have hplain : ∀ c ∈ plainChars, (!(isSlash true c || endsPath c)) = true :=
      forall_mem_of_all (by decide)
    exact fun c hc => hplain c (hname.chars c hc)
  have hauthority : (name.toList ++ ['/']).takeWhile (fun c => !(isSlash true c || endsPath c)) =
      name.toList := by
    rw [List.takeWhile_append_of_pos hinside]
    simp [isSlash]
  simp only [readCredentials, hauthority,
    Text.splitAt_of_not_mem (hname.not_mem (c := '@') (by decide))]

theorem splitHost_eq : splitHost true false (name.toList ++ ['/']) = (name.toList, ['/']) := by
  have hplain : ∀ c ∈ plainChars, c ≠ ':' ∧ c ≠ '[' ∧ isSlash true c = false ∧
      endsPath c = false :=
    forall_mem_of_all (by decide)
  have hsplit : ∀ chars : List Char, (∀ c ∈ chars, c ∈ plainChars) →
      splitHost true false (chars ++ ['/']) = (chars, ['/']) := by
    intro chars hchars
    induction chars with
    | nil => rfl
    | cons c rest ih =>
        obtain ⟨hc, hrest⟩ := List.forall_mem_cons.mp hchars
        obtain ⟨hcolon, hbracket, hslash, hend⟩ := hplain c hc
        rw [List.cons_append, splitHost]
        simp [hcolon, hbracket, hslash, hend, ih hrest]
  exact hsplit _ hname.chars

theorem readAuthority_eq : readAuthority "https" (name.toList ++ ['/']) =
    .ok { scheme := "https", host := some (.domain name) } := by
  have hempty : name.toList.isEmpty = false := by simpa using hname.ne_empty
  have hspecial : isSpecialScheme "https" = true := by decide
  have hhost : readHost "https" (name.toList ++ ['/']) = .ok (.domain name, none, ['/']) := by
    simp only [readHost, hspecial, hname.splitHost_eq, hempty, hname.parse_eq]
    rfl
  have hroot : readPath true [] (dropSlash true ['/']) = ([""], none, none) := by decide +kernel
  simp only [readAuthority, hspecial, hname.readCredentials_eq, bind, Except.bind, hhost]
  rw [if_neg (by simp), if_neg (by simp), hroot]
  rfl

theorem parse_root : Url.parse s!"https://{name}/" =
    .ok { scheme := "https", host := some (.domain name) } := by
  have hplain : ∀ c ∈ plainChars, isSlash true c = false ∧
      (c ≠ '\t' ∧ c ≠ '\n') ∧ c ≠ '\r' :=
    forall_mem_of_all (by decide)
  have htext : s!"https://{name}/".toList = "https://".toList ++ (name.toList ++ ['/']) := by
    simp [toString]
  have hsignificant : significant ("https://".toList ++ (name.toList ++ ['/'])) =
      "https://".toList ++ (name.toList ++ ['/']) := by
    have hkept : ∀ c ∈ name.toList, (c ≠ '\t' ∧ c ≠ '\n') ∧ c ≠ '\r' :=
      fun c hc => (hplain c (hname.chars c hc)).2
    simpa [significant, isOuter] using hkept
  have hscheme : scheme? ("https://".toList ++ (name.toList ++ ['/'])) =
      some ("https", "//".toList ++ (name.toList ++ ['/'])) := rfl
  have hslash : ("//".toList ++ (name.toList ++ ['/'])).dropWhile (isSlash true) =
      name.toList ++ ['/'] := by
    obtain ⟨c, rest, hchars⟩ := List.exists_cons_of_ne_nil (l := name.toList)
      (by simpa using hname.ne_empty)
    have hc := (hplain c (hname.chars c (hchars ▸ List.mem_cons_self))).1
    change List.dropWhile _ ('/' :: '/' :: (name.toList ++ ['/'])) = _
    rw [List.dropWhile_cons_of_pos rfl, List.dropWhile_cons_of_pos rfl, hchars, List.cons_append,
      List.dropWhile_cons_of_neg (by simp [hc])]
  simp only [parse, read, htext, hsignificant, hscheme, readSchemed, hslash,
    hname.readAuthority_eq]
  rfl

end IsPlainName

end Url

end SiteWatch
