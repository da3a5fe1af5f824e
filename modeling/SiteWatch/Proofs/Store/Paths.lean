/-
# Paths in writing

A path that is written with slashes is split at them. The path of an entry that is written with that
of its directory leads to this entry, as long as its name is one.
-/

import Mathlib.Data.String.Basic
import SiteWatch.Store.Files

namespace SiteWatch

namespace Text

/-- A text that names an entry of a directory: it has no slash and is neither empty nor a way to the
directory itself or up from it. -/
structure IsEntryName (name : String) : Prop where
  slash : '/' ∉ name.toList
  ne_empty : name ≠ ""
  ne_dot : name ≠ "."
  ne_dots : name ≠ ".."

/-! ## Names of documents -/

theorem slash_not_mem_fileName (text : String) : '/' ∉ (fileName text).toList := by
  have hchars : '/' ∉ nameChars text.toList := by
    intro hslash
    obtain ⟨c, -, hc⟩ := List.mem_map.mp (List.dropWhile_subset _ hslash)
    by_cases hname : isNameChar c = true
    · rw [if_pos hname] at hc
      rw [hc] at hname
      exact absurd hname (by decide)
    · rw [if_neg hname] at hc
      exact absurd hc (by decide)
  rw [fileName]
  split
  · decide
  · rwa [String.toList_ofList]

theorem append_json_ne {before other : String} (hother : other.length < 5) :
    before ++ ".json" ≠ other := by
  rintro rfl
  rw [String.length_append] at hother
  exact absurd hother (Nat.not_lt.mpr (Nat.le_add_left 5 _))

theorem isEntryName_json {before : String} (hslash : '/' ∉ before.toList) :
    IsEntryName (before ++ ".json") where
  slash := by
    rw [String.toList_append, List.mem_append, not_or]
    exact ⟨hslash, by decide⟩
  ne_empty := append_json_ne (by decide)
  ne_dot := append_json_ne (by decide)
  ne_dots := append_json_ne (by decide)

/-- A name that ends like one has the ending of JSON documents. -/
theorem extension?_json {before : String} (hbefore : before ≠ "") :
    extension? (before ++ ".json") = some "json" := by
  have hne : before ++ ".json" ≠ ".." := append_json_ne (by decide)
  cases hchars : before.toList.reverse with
  | nil => exact absurd (by simpa using hchars) hbefore
  | cons c rest => simp [extension?, hne, hchars]

end Text

namespace FilePath

open Text (IsEntryName joinPath)

theorem enter_of_isEntryName {name : String} (hname : IsEntryName name) (path : FilePath) :
    path.enter name = path ++ [name] := by
  simp [enter, hname.ne_empty, hname.ne_dot, hname.ne_dots]

theorem start_append {first : List Char} (hfirst : first ≠ []) (rest : List Char) :
    start (first ++ rest) = start first := by
  rw [start, start, List.head?_append_of_ne_nil _ hfirst]

/-- A name behind a slash leads to an entry of what stands before the slash. -/
theorem ofText_append {text : String} {before : List Char} {name : String}
    (hname : IsEntryName name) (htext : text.toList = before ++ '/' :: name.toList) :
    ofText text = ((before.splitOn '/').map String.ofList).foldl enter (start text.toList) ++ [name] := by
  rw [ofText, htext, List.splitOn_append_cons_self, List.splitOn_eq_singleton hname.slash,
    List.map_append, List.foldl_append]
  simp [enter_of_isEntryName hname]

/-- The path of an entry that is written with that of its directory. -/
theorem ofText_joinPath {name : String} (hname : IsEntryName name) (directory : String) :
    ofText (joinPath directory name) = ofText directory ++ [name] := by
  have hrelative : joinPath.startsWithSlash name = false := by
    cases hchars : name.toList with
    | nil => simp [joinPath.startsWithSlash, hchars]
    | cons c rest =>
        have hslash : c ≠ '/' := by
          rintro rfl
          exact hname.slash (hchars ▸ List.mem_cons_self)
        simp [joinPath.startsWithSlash, hchars, hslash]
  by_cases hempty : directory = ""
  · subst hempty
    have hstart : start name.toList = [] := by
      simpa [start, joinPath.startsWithSlash] using hrelative
    rw [joinPath, if_pos (by simp), ofText, hstart, List.splitOn_eq_singleton hname.slash]
    simp [ofText, start, enter, hname.ne_empty, hname.ne_dot, hname.ne_dots]
  · have hchars : directory.toList ≠ [] := by simpa using hempty
    have hdirectory : ¬ (joinPath.startsWithSlash name || directory.isEmpty) = true := by
      simp [hrelative, hempty]
    by_cases hlast : directory.toList.getLast? = some '/'
    · obtain ⟨before, hbefore⟩ := List.getLast?_eq_some_iff.mp hlast
      have htext : (directory ++ name).toList = before ++ '/' :: name.toList := by
        simp [hbefore]
      have hstart : start (before ++ '/' :: name.toList) = start (before ++ ['/']) := by
        rw [List.append_cons]
        exact start_append (by simp) _
      -- The slash that ends the directory adds nothing to its path.
      rw [joinPath, if_neg hdirectory, if_pos hlast, ofText_append hname htext, ofText,
        htext, hbefore, hstart, List.splitOn_append_cons_self]
      simp [enter]
    · have htext : (directory ++ "/" ++ name).toList = directory.toList ++ '/' :: name.toList := by
        simp
      rw [joinPath, if_neg hdirectory, if_neg hlast, ofText_append hname htext, htext,
        start_append hchars, ofText]

end FilePath

end SiteWatch
