/-
# Names of files

Whatever a picture or a site is called, the file for it lies directly in the directory that it is
meant for. Its name is made of a few harmless characters, so that no part of it leads elsewhere, and
it is not hidden. Making a name harmless changes no name that is harmless already.

Writing such a file changes that one entry, and makes the directories that lead to it where they are
missing. The name of a stored result holds the moment of its storing, which has a sign from the year
10000 on; up to then it is harmless as well.
-/

import SiteWatch.Proofs.Execution
import SiteWatch.Proofs.Store.Contents

namespace SiteWatch

open Text (joinPath)

/-! ## Plain names -/

namespace Text

/-- A letter or digit of ASCII, a full stop, an underscore or a hyphen. -/
def IsPlainChar (c : Char) : Prop :=
  'A' ≤ c ∧ c ≤ 'Z' ∨ 'a' ≤ c ∧ c ≤ 'z' ∨ '0' ≤ c ∧ c ≤ '9' ∨ c = '.' ∨ c = '_' ∨ c = '-'

/-- All characters of a text are plain. -/
def IsPlain (text : String) : Prop := ∀ c ∈ text.toList, IsPlainChar c

/-- A text of plain characters that names an entry which is not hidden. -/
structure IsPlainName (name : String) : Prop where
  plain : IsPlain name
  ne_empty : name ≠ ""
  visible : name.toList.head? ≠ some '.'

theorem isNameChar_iff {c : Char} : isNameChar c = true ↔ IsPlainChar c := by
  have hupper : c.isUpper = true ↔ 'A' ≤ c ∧ c ≤ 'Z' := decide_eq_true_iff
  have hlower : c.isLower = true ↔ 'a' ≤ c ∧ c ≤ 'z' :=
    Bool.and_eq_true_iff.trans (and_congr decide_eq_true_iff decide_eq_true_iff)
  have hdigit : c.isDigit = true ↔ '0' ≤ c ∧ c ≤ '9' :=
    Bool.and_eq_true_iff.trans (and_congr decide_eq_true_iff decide_eq_true_iff)
  have htest : isNameChar c = (c.isUpper || c.isLower || c.isDigit || decide (c = '.') ||
      decide (c = '_') || decide (c = '-')) := rfl
  simp only [htest, IsPlainChar, Bool.or_eq_true, hupper, hlower, hdigit, decide_eq_true_eq,
    or_assoc]

theorem isPlainChar_of_isDigit {c : Char} (hc : c.isDigit = true) : IsPlainChar c := by
  rw [← isNameChar_iff]
  simp [isNameChar, Char.isAlphanum, hc]

instance (c : Char) : Decidable (IsPlainChar c) := decidable_of_iff _ isNameChar_iff

theorem all_isNameChar_iff {text : String} : text.toList.all isNameChar = true ↔ IsPlain text := by
  simp only [List.all_eq_true, isNameChar_iff, IsPlain]

instance (text : String) : Decidable (IsPlain text) := decidable_of_iff _ all_isNameChar_iff

@[simp]
theorem isPlain_append {first second : String} :
    IsPlain (first ++ second) ↔ IsPlain first ∧ IsPlain second := by
  simp only [IsPlain, String.toList_append, List.mem_append, or_imp, forall_and]

theorem IsPlainName.append {front ending : String} (hfront : IsPlainName front)
    (hending : IsPlain ending) : IsPlainName (front ++ ending) where
  plain := isPlain_append.mpr ⟨hfront.plain, hending⟩
  ne_empty hempty := hfront.ne_empty (String.append_eq_empty_iff.mp hempty).1
  visible := by
    have hne : front.toList ≠ [] := by simpa using hfront.ne_empty
    rw [String.toList_append, List.head?_append_of_ne_nil _ hne]
    exact hfront.visible

/-- A plain name leads to an entry, neither up nor into a directory below. -/
theorem IsPlainName.isEntryName {name : String} (hname : IsPlainName name) : IsEntryName name where
  slash hslash := absurd (isNameChar_iff.mpr (hname.plain '/' hslash)) (by decide)
  ne_empty := hname.ne_empty
  ne_dot := by
    rintro rfl
    exact hname.visible rfl
  ne_dots := by
    rintro rfl
    exact hname.visible rfl

theorem isPlainChar_of_mem_nameChars {text : List Char} {c : Char} (hc : c ∈ nameChars text) :
    IsPlainChar c := by
  obtain ⟨original, -, rfl⟩ := List.mem_map.mp (List.dropWhile_subset _ hc)
  rw [← isNameChar_iff]
  split
  · assumption
  · decide

/-- The name of a file is plain, whatever the text is. -/
theorem isPlainName_fileName (text : String) : IsPlainName (fileName text) := by
  rw [fileName]
  split
  · exact ⟨by decide, by decide, by decide⟩
  · rename_i hchars
    rw [List.isEmpty_iff] at hchars
    refine ⟨fun c hc => ?_, ?_, ?_⟩
    · rw [String.toList_ofList] at hc
      exact isPlainChar_of_mem_nameChars hc
    · simpa using hchars
    · rw [String.toList_ofList]
      intro hdot
      have hfirst := List.head?_dropWhile_not (· = '.')
        (text.toList.map fun c => if isNameChar c then c else '_')
      simp only [nameChars] at hdot
      rw [hdot] at hfirst
      simp at hfirst

example : fileName "../../etc/passwd" = "_.._etc_passwd" := by decide +kernel

/-- A plain name is the name of a file for itself. -/
theorem IsPlainName.fileName_eq {name : String} (hname : IsPlainName name) : fileName name = name := by
  have hkept : (name.toList.map fun c => if isNameChar c then c else '_') = name.toList := by
    refine (List.map_congr_left fun c hc => ?_).trans (List.map_id _)
    exact if_pos (isNameChar_iff.mpr (hname.plain c hc))
  have hne : name.toList ≠ [] := by simpa using hname.ne_empty
  obtain ⟨first, rest, hchars⟩ := List.exists_cons_of_ne_nil hne
  have hfirst : first ≠ '.' := by
    rintro rfl
    exact hname.visible (by rw [hchars]; rfl)
  have hall : nameChars name.toList = name.toList := by
    rw [nameChars, hkept, hchars, List.dropWhile_cons_of_neg (by simpa using hfirst)]
  rw [fileName, hall, if_neg (by simpa using hne), String.ofList_toList]

/-- The texts that are names of files for themselves are the plain names. -/
theorem fileName_eq_self_iff {name : String} : fileName name = name ↔ IsPlainName name :=
  ⟨fun hname => hname ▸ isPlainName_fileName name, IsPlainName.fileName_eq⟩

theorem fileName_fileName (text : String) : fileName (fileName text) = fileName text :=
  (isPlainName_fileName text).fileName_eq

end Text

/-! ## Moments in names -/

namespace Date

open Text (IsPlain isPlain_append)

theorem isPlain_padded (width n : Nat) : IsPlain (padded width n) :=
  fun _ hc => Text.isPlainChar_of_isDigit (isDigit_of_mem_padded hc)

/-- Only the years from 10000 on have a sign that is not plain. -/
theorem isPlain_yearText_iff {year : Int} : IsPlain (yearText year) ↔ year ≤ 9999 := by
  have hminus : IsPlain "-" := by decide
  have hplus : ¬ IsPlain "+" := by decide
  unfold yearText
  split
  · exact iff_of_true (isPlain_padded 4 _) (by omega)
  · split
    · exact iff_of_true (isPlain_append.mpr ⟨hminus, isPlain_padded 4 _⟩) (by omega)
    · exact iff_of_false (fun hsigned => hplus (isPlain_append.mp hsigned).1) (by omega)

theorem isPlain_text_iff {date : Date} : IsPlain date.text ↔ date.civil.1 ≤ 9999 := by
  have hminus : IsPlain "-" := by decide
  simp [text, hminus, isPlain_padded, isPlain_yearText_iff]

end Date

theorem Instant.isPlain_stamp_iff {t : Instant} :
    Text.IsPlain t.stamp ↔ t.date.civil.1 ≤ 9999 := by
  have hmarks : Text.IsPlain "T" ∧ Text.IsPlain "-" ∧ Text.IsPlain "Z" := by
    decide
  simp [stamp, hmarks, Date.isPlain_padded, Date.isPlain_text_iff]

/-! ## Files in a directory -/

/-- A name for a file with an ending, directly in a directory. -/
structure IsFileIn (directory ending name : String) : Prop where
  plain : Text.IsPlainName name
  ending : ∃ front, name = front ++ ending
  /-- It is one component of a path. -/
  single : FilePath.ofText name = [name]
  path : FilePath.ofText (joinPath directory name) = FilePath.ofText directory ++ [name]

theorem Text.IsPlainName.isFileIn {front ending : String} (hname : IsPlainName (front ++ ending))
    (directory : String) : IsFileIn directory ending (front ++ ending) where
  plain := hname
  ending := ⟨front, rfl⟩
  single := by
    have hempty : FilePath.ofText "" = [] := by simp [FilePath.ofText, FilePath.start, FilePath.enter]
    have hjoined : joinPath "" (front ++ ending) = front ++ ending := if_pos (by simp)
    simpa only [hjoined, hempty, List.nil_append] using FilePath.ofText_joinPath hname.isEntryName ""
  path := FilePath.ofText_joinPath hname.isEntryName directory

theorem isFileIn_pictureFile (directory text : String) :
    IsFileIn directory ".png" (pictureFile text) := by
  have hplain := Text.isPlainName_fileName text
  rw [pictureFile]
  split
  · rename_i hends
    obtain ⟨front, hfront⟩ := List.isSuffixOf_iff_suffix.mp hends
    have hname : Text.fileName text = String.ofList front ++ ".png" := by
      rw [← String.ofList_toList (s := Text.fileName text), ← hfront, String.ofList_append,
        String.ofList_toList]
    rw [hname] at hplain ⊢
    exact hplain.isFileIn directory
  · have hpng : Text.IsPlain ".png" := by decide
    exact (hplain.append hpng).isFileIn directory

namespace ResultFolder

/-- The name of a result is that of its site, the moment, and what parts it from earlier ones. -/
theorem exists_nameFor_eq (siteId : String) (now : Instant) (attempt : Nat) :
    ∃ count, Text.IsPlain count ∧ nameFor siteId now attempt =
      Text.fileName siteId ++ ("_" ++ now.stamp ++ count) ++ ".json" := by
  have hstem : stem siteId now = Text.fileName siteId ++ "_" ++ now.stamp := rfl
  rw [nameFor_eq]
  cases attempt with
  | zero => exact ⟨"", by decide, by simp [baseFor, hstem, String.append_assoc]⟩
  | succ attempt =>
      have hdigits : Text.IsPlain (toString (attempt + 1)) := by
        intro c hc
        rw [Nat.toString_eq_repr, Nat.toList_repr] at hc
        exact Text.isPlainChar_of_isDigit (Json.isDigit_of_mem_repr hc)
      exact ⟨"_" ++ toString (attempt + 1), Text.isPlain_append.mpr ⟨by decide, hdigits⟩,
        by simp only [baseFor, hstem, String.append_assoc]⟩

/-- Up to the year 9999 the files of results lie directly in the directory of their day. -/
theorem isFileIn_nameFor_iff {directory siteId : String} {now : Instant} {attempt : Nat} :
    IsFileIn directory ".json" (nameFor siteId now attempt) ↔ now.date.civil.1 ≤ 9999 := by
  obtain ⟨count, hcount, hname⟩ := exists_nameFor_eq siteId now attempt
  have hsite := Text.isPlainName_fileName siteId
  have hparts : Text.IsPlain ("_" ++ now.stamp ++ count) ↔ now.date.civil.1 ≤ 9999 := by
    simp only [Text.isPlain_append, Instant.isPlain_stamp_iff, hcount, and_true, and_iff_right_iff_imp]
    exact fun _ => by decide
  rw [hname]
  constructor
  · intro hfile
    have hplain := hfile.plain.plain
    rw [Text.isPlain_append, Text.isPlain_append] at hplain
    exact hparts.mp hplain.1.2
  · intro hyear
    exact ((hsite.append (hparts.mpr hyear)).append (by decide)).isFileIn directory

end ResultFolder

/-! ## What is written -/

namespace Files

variable {files ready written : Files} {directory : FilePath} {name : String} {content : ByteArray}

/-- Nothing has changed but the entry of a name in a directory, and the directories on the way to it,
which are made where they are missing. -/
structure ChangesOnly (directory : FilePath) (name : String) (files after : Files) : Prop where
  others : ∀ path, path ≠ directory ++ [name] → ¬ path <+: directory →
    after.node? path = files.node? path
  way : ∀ path, path <+: directory → after.node? path = files.node? path ∨
    files.node? path = none ∧ after.node? path = some .directory

theorem ChangesOnly.refl (directory : FilePath) (name : String) (files : Files) :
    ChangesOnly directory name files files where
  others _ _ _ := rfl
  way _ _ := .inl rfl

/-- Directories are made. -/
theorem changesOnly_makeDirectories (hmake : files.makeDirectories directory = .ok ready)
    (name : String) : ChangesOnly directory name files ready := by
  obtain ⟨hpath, hpaved⟩ := paves_of_makeDirectories hmake
  refine ⟨fun path _ haside => hpaved.others path haside, fun path hway => ?_⟩
  have hmade := hpaved.nodes path hway
  cases hnode : files.node? path with
  | none => exact .inr ⟨rfl, hmade⟩
  | some node =>
      cases node with
      | directory => exact .inl hmade
      | file content => exact absurd hnode (hpath.clear path hway content)

/-- A file is written into a directory that is made for it. -/
theorem ChangesOnly.write (hready : ChangesOnly directory name files ready)
    (hwrite : ready.write (directory ++ [name]) content = .ok written) :
    ChangesOnly directory name files written := by
  obtain ⟨-, -, -, rfl⟩ := write_concat_eq_ok.mp hwrite
  constructor
  · intro path hother haside
    rw [node?_set_of_ne hother]
    exact hready.others path hother haside
  · intro path hway
    have hother : path ≠ directory ++ [name] := by
      rintro rfl
      exact not_prefix_of_prefix_parent name (List.prefix_refl directory) hway
    rw [node?_set_of_ne hother]
    exact hready.way path hway

theorem changesOnly_writeInto {directory : String} (hname : Text.IsEntryName name) :
    ChangesOnly (FilePath.ofText directory) name files
      (files.writeInto directory name content).2 := by
  simp only [writeInto]
  split
  · exact .refl _ _ _
  · rename_i ready hmake
    have hready := changesOnly_makeDirectories hmake name
    split
    · exact hready
    · rename_i written hwrite
      rw [FilePath.ofText_joinPath hname] at hwrite
      exact hready.write hwrite

end Files

/-- A page is captured into a directory. -/
structure Page.CapturesInto {σ F : Type} (page : Page σ F) (directory name : String) (limit : Nat)
    (files : σ → Files) (setFiles : Files → σ → σ) : Prop where
  named : IsFileIn directory ".png" (pictureFile name)
  /-- Where no picture is taken nothing is written, and where one is, its file is. -/
  writes : ∀ (meantime : Meantime σ) outcome s t,
    (page.capture (.inFiles directory files setFiles) name limit).run.CanEnd meantime outcome t s →
      (∃ cause, (page.screenshot.timeout limit).run.CanEnd meantime (.error cause) t s) ∨
        ∃ picture u after, (page.screenshot.timeout limit).run.CanEnd meantime (.ok picture) u s ∧
          t = setFiles after u ∧
          Files.ChangesOnly (FilePath.ofText directory) (pictureFile name) (files u) after
  answer : ∀ (meantime : Meantime σ) path s t,
    (page.capture (.inFiles directory files setFiles) name limit).run.CanEnd meantime (.ok path) t s →
      path = joinPath directory (pictureFile name)

/-- To save a picture is to write its file. -/
theorem Album.canEnd_save_inFiles {σ : Type} {directory file : String} {files : σ → Files}
    {setFiles : Files → σ → σ} {meantime : Meantime σ} {picture : ByteArray} {outcome : Outcome Unit}
    {s t : σ}
    (hends : (Attempt.step ((inFiles directory files setFiles).save file picture)).run.CanEnd
      meantime outcome t s) :
    t = setFiles ((files s).writeInto directory file picture).2 s := hends.2.symm

theorem Page.capturesInto {σ F : Type} (page : Page σ F) (directory name : String) (limit : Nat)
    (files : σ → Files) (setFiles : Files → σ → σ) :
    page.CapturesInto directory name limit files setFiles where
  named := isFileIn_pictureFile directory name
  writes meantime outcome s t hends := by
    rcases Attempt.canEnd_bind.mp hends with ⟨cause, hfailed, -⟩ | ⟨picture, u, htaken, hsaved⟩
    · exact .inl ⟨cause, hfailed⟩
    · have hafter : t = setFiles ((files u).writeInto directory (pictureFile name) picture).2 u := by
        rcases Attempt.canEnd_bind.mp hsaved with ⟨cause, hfailed, -⟩ | ⟨_, v, hwritten, -, rfl⟩
        · exact Album.canEnd_save_inFiles hfailed
        · exact Album.canEnd_save_inFiles hwritten
      exact .inr ⟨picture, u, _, htaken, hafter,
        Files.changesOnly_writeInto (isFileIn_pictureFile directory name).plain.isEntryName⟩
  answer meantime path s t hends := by
    obtain ⟨picture, u, -, hsaved⟩ := Attempt.canEnd_bind_ok.mp hends
    obtain ⟨_, v, -, hpath, -⟩ := Attempt.canEnd_bind_ok.mp hsaved
    exact (Except.ok.inj hpath).symm

namespace ResultFolder

/-- Results of a site that are stored at a moment are saved into the directory of the day. -/
structure SavesInto (folder : ResultFolder) (siteId : String) (now : Instant) : Prop where
  named : ∀ attempt, IsFileIn (folder.dayDirectory now.date) ".json" (nameFor siteId now attempt) ↔
    now.date.civil.1 ≤ 9999
  writes : ∀ result files, ∃ attempt,
    Files.ChangesOnly (FilePath.ofText (folder.dayDirectory now.date)) (nameFor siteId now attempt)
      files (folder.save siteId result now files).2 ∧
    ∀ saved, (folder.save siteId result now files).1 = .ok saved →
      saved.name = nameFor siteId now attempt ∧
        saved.path = joinPath (folder.dayDirectory now.date) saved.name

theorem savesInto (folder : ResultFolder) (siteId : String) (now : Instant) :
    folder.SavesInto siteId now where
  named _ := isFileIn_nameFor_iff
  writes result files := by
    cases hmake : files.makeDirectories (FilePath.ofText (folder.dayDirectory now.date)) with
    | error fault =>
        simp only [save, hmake]
        exact ⟨0, .refl _ _ _, fun saved hsaved => by cases hsaved⟩
    | ok ready =>
        obtain ⟨attempt, hattempt, hfirst⟩ :=
          exists_isFirstFree (folder.dayDirectory now.date) siteId now ready
        have hready := Files.changesOnly_makeDirectories hmake (nameFor siteId now attempt)
        refine ⟨attempt, ?_⟩
        simp only [save, hmake]
        rw [saveFrom_eq hfirst (Nat.zero_le attempt) (by omega)]
        cases hwrite : ready.write (pathFor (folder.dayDirectory now.date) siteId now attempt)
            (stored siteId result now (nameFor siteId now attempt)).toJson.pretty.toUTF8 with
        | error fault => exact ⟨hready, fun saved hsaved => by cases hsaved⟩
        | ok written =>
            refine ⟨hready.write hwrite, fun saved hsaved => ?_⟩
            obtain rfl := Except.ok.inj hsaved
            exact ⟨rfl, rfl⟩

end ResultFolder

/-! ## All files -/

/-- Whatever a picture or a site is called, its file lies directly in the directory that is meant for
it, under a plain name with the ending of its kind, and nothing else is written; the moments of the
years up to 9999 are those that give results such names. Making a name plain gives a plain name, and
leaves plain names, and those alone, as they are. -/
theorem filesStayInDirectories {σ F : Type} (page : Page σ F) (pictures picture siteId : String)
    (limit : Nat) (files : σ → Files) (setFiles : Files → σ → σ) (results : ResultFolder)
    (now : Instant) :
    page.CapturesInto pictures picture limit files setFiles ∧ results.SavesInto siteId now ∧
      (∀ text, Text.IsPlainName (Text.fileName text)) ∧
      (∀ text, Text.fileName (Text.fileName text) = Text.fileName text) ∧
      ∀ name, Text.fileName name = name ↔ Text.IsPlainName name :=
  ⟨page.capturesInto pictures picture limit files setFiles, results.savesInto siteId now,
    Text.isPlainName_fileName, Text.fileName_fileName, fun _ => Text.fileName_eq_self_iff⟩

end SiteWatch
