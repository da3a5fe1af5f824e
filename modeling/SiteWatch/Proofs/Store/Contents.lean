/-
# Who touches a file

What a tree has at a path, whether or not directories lead there, is the content of that path. The
operations of the program each have names of their own to write under, so the content of a path is
changed by nobody but its owner. Others can at most remove it, together with a directory above it.
-/

import SiteWatch.Proofs.Store.RegisterFile
import SiteWatch.Proofs.Store.ResultFolder
import SiteWatch.Scrape.Step
import SiteWatch.Store.Layout
import SiteWatch.Store.Pictures

namespace SiteWatch

namespace Files

variable {files after last ready written : Files} {path other parent : FilePath}
  {content : ByteArray} {own name : String}

/-! ## Contents -/

/-- The bytes of the plain file at a path. -/
def content? (files : Files) (path : FilePath) : Option ByteArray :=
  match files.node? path with
  | some (.file content) => some content
  | _ => none

theorem content?_congr (hnode : after.node? path = files.node? path) :
    after.content? path = files.content? path := by
  rw [content?, content?, hnode]

theorem content?_set_of_ne {node : FileNode} (hother : other ≠ path) :
    (files.set path node).content? other = files.content? other :=
  content?_congr (node?_set_of_ne hother)

/-- What is read from a path is its content. -/
theorem content?_of_read (hread : files.read path = .ok content) :
    files.content? path = some content := by
  have hfound := read_eq_ok.mp hread
  rcases List.eq_nil_or_concat path with rfl | ⟨above, last, rfl⟩
  · cases hfound
  · rw [List.concat_eq_append] at hfound ⊢
    rw [content?, (find_concat_eq_ok.mp hfound).2.2]

/-- Making directories changes the content of no path. -/
theorem content?_makeDirectories (hmake : files.makeDirectories path = .ok ready)
    (other : FilePath) : ready.content? other = files.content? other := by
  obtain ⟨hpath, hpaved⟩ := paves_of_makeDirectories hmake
  by_cases hway : other <+: path
  · have hnone : files.content? other = none := by
      have hclear := hpath.clear other hway
      rw [content?]
      split
      · exact absurd ‹_› (hclear _)
      · rfl
    rw [hnone, content?, hpaved.nodes other hway]
  · exact content?_congr (hpaved.others other hway)

theorem content?_write (hwrite : files.write path content = .ok written) (hother : other ≠ path) :
    written.content? other = files.content? other := by
  obtain ⟨above, last, rfl⟩ := exists_of_write hwrite
  obtain ⟨-, -, -, rfl⟩ := write_concat_eq_ok.mp hwrite
  exact content?_set_of_ne hother

theorem content?_place (hplace : files.place path content = .ok written) (hother : other ≠ path) :
    written.content? other = files.content? other := by
  obtain ⟨ready, hready, hwrite⟩ := bind_eq_ok.mp hplace
  rw [content?_write hwrite hother, content?_makeDirectories hready]

theorem content?_remove_of_aside (haside : ¬ path <+: other) :
    (files.remove path).content? other = files.content? other :=
  content?_congr (node?_remove haside)

theorem content?_remove_below (hway : path <+: other) (hother : other ≠ []) :
    (files.remove path).content? other = none := by
  have hnone : (files.remove path).node? other = none := by
    rw [node?, if_neg (by simpa using hother), Option.map_eq_none_iff, List.find?_eq_none]
    intro entry hentry hsame
    have haside := (List.mem_filter.mp hentry).2
    rw [beq_iff_eq.mp hsame, List.isPrefixOf_iff_prefix.mpr hway] at haside
    cases haside
  rw [content?, hnone]

/-! ## Files that are spared -/

/-- The content of a path is as it was, or it is gone. -/
def Spares (path : FilePath) (files after : Files) : Prop :=
  after.content? path = files.content? path ∨ after.content? path = none

theorem Spares.refl (path : FilePath) (files : Files) : files.Spares path files := .inl rfl

theorem Spares.trans (hfirst : Spares path files after) (hlast : Spares path after last) :
    Spares path files last := by
  rcases hlast with hsame | hgone
  · rw [Spares, hsame]
    exact hfirst
  · exact .inr hgone

theorem spares_remove (files : Files) (path : FilePath) (hother : other ≠ []) :
    Spares other files (files.remove path) := by
  by_cases hway : path <+: other
  · exact .inr (content?_remove_below hway hother)
  · exact .inl (content?_remove_of_aside hway)

theorem concat_ne_concat (hown : own ≠ name) (parent above : FilePath) :
    parent ++ [own] ≠ above ++ [name] := by
  intro hsame
  exact hown (List.append_singleton_inj.mp hsame).2

/-- A file that is written into a directory leaves files of other names alone, wherever they are. -/
theorem content?_writeInto {directory : String} (hname : Text.IsEntryName name)
    (hown : own ≠ name) :
    (files.writeInto directory name content).2.content? (parent ++ [own]) =
      files.content? (parent ++ [own]) := by
  simp only [writeInto]
  split
  · rfl
  · rename_i ready hready
    split
    · exact content?_makeDirectories hready _
    · rename_i written hwrite
      rw [FilePath.ofText_joinPath hname] at hwrite
      exact (content?_write hwrite (concat_ne_concat hown _ _)).trans
        (content?_makeDirectories hready _)

end Files

/-! ## The names of the operations -/

theorem getLast?_pictureFile (text : String) : (pictureFile text).toList.getLast? = some 'g' := by
  rw [pictureFile]
  split
  · rename_i hending
    obtain ⟨before, hbefore⟩ := List.isSuffixOf_iff_suffix.mp hending
    rw [← hbefore]
    simp
  · simp

theorem isEntryName_pictureFile (text : String) : Text.IsEntryName (pictureFile text) := by
  have hlast := getLast?_pictureFile text
  refine ⟨?_, ?_, ?_, ?_⟩
  · rw [pictureFile]
    split
    · exact Text.slash_not_mem_fileName text
    · rw [String.toList_append, List.mem_append, not_or]
      exact ⟨Text.slash_not_mem_fileName text, by decide⟩
  all_goals
    intro hname
    rw [hname] at hlast
    exact absurd hlast (by decide)

namespace ResultFolder

theorem underscore_mem_nameFor (siteId : String) (now : Instant) (attempt : Nat) :
    '_' ∈ (nameFor siteId now attempt).toList := by
  rw [nameFor_eq, String.toList_append]
  cases attempt <;> simp [baseFor, toList_stem]

end ResultFolder

namespace StoreLayout

/-- The name of the register's file. -/
def registerName : String := "registrations.json"

/-- The path of the register's file. -/
def registerPath (layout : StoreLayout) : FilePath :=
  FilePath.ofText layout.dataDir ++ [registerName]

theorem ofText_registrationsFile (layout : StoreLayout) :
    FilePath.ofText layout.registrationsFile = layout.registerPath := by
  have hname : Text.IsEntryName ("registrations" ++ ".json") := Text.isEntryName_json (by decide)
  exact FilePath.ofText_joinPath hname layout.dataDir

theorem registerName_ne_pictureFile (text : String) : registerName ≠ pictureFile text := by
  intro hname
  have hlast := getLast?_pictureFile text
  rw [← hname] at hlast
  exact absurd hlast (by decide)

theorem registerName_ne_nameFor (siteId : String) (now : Instant) (attempt : Nat) :
    registerName ≠ ResultFolder.nameFor siteId now attempt := by
  intro hname
  have hmem := ResultFolder.underscore_mem_nameFor siteId now attempt
  rw [← hname] at hmem
  exact absurd hmem (by decide)

end StoreLayout

/-! ## What the operations do to the file of a register -/

namespace Files

variable {files : Files}

theorem content?_savePicture (directory text : String) (picture : ByteArray) (parent : FilePath) :
    (files.writeInto directory (pictureFile text) picture).2.content?
        (parent ++ [StoreLayout.registerName]) =
      files.content? (parent ++ [StoreLayout.registerName]) :=
  content?_writeInto (isEntryName_pictureFile text) (StoreLayout.registerName_ne_pictureFile text)

end Files

namespace ResultFolder

variable {files : Files}

theorem content?_saveFrom (directory siteId : String) (result : ScrapeResult) (now : Instant)
    (files : Files) (tries attempt : Nat) (parent : FilePath) :
    (saveFrom directory siteId result now files tries attempt).2.content?
        (parent ++ [StoreLayout.registerName]) =
      files.content? (parent ++ [StoreLayout.registerName]) := by
  induction tries generalizing attempt with
  | zero => rfl
  | succ tries ih =>
      simp only [saveFrom]
      split
      · exact ih (attempt + 1)
      · split
        · rfl
        · rename_i written hwrite
          rw [FilePath.ofText_joinPath (isEntryName_nameFor siteId now attempt)] at hwrite
          exact Files.content?_write hwrite
            (Files.concat_ne_concat (StoreLayout.registerName_ne_nameFor siteId now attempt) _ _)

theorem content?_save (folder : ResultFolder) (siteId : String) (result : ScrapeResult)
    (now : Instant) (files : Files) (parent : FilePath) :
    (folder.save siteId result now files).2.content? (parent ++ [StoreLayout.registerName]) =
      files.content? (parent ++ [StoreLayout.registerName]) := by
  simp only [save]
  split
  · rfl
  · rename_i ready hready
    rw [content?_saveFrom, Files.content?_makeDirectories hready]

/-- Days that are pruned take at most what is below them along. -/
theorem spares_removeDays (folder : ResultFolder) {path : FilePath} (hpath : path ≠ [])
    (files : Files) (removed : Nat) (names : List String) :
    Files.Spares path files (folder.removeDays files removed names).2 := by
  induction names generalizing files removed with
  | nil => exact .refl path files
  | cons name rest ih =>
      simp only [removeDays]
      split
      · exact .refl path files
      · exact (files.spares_remove _ hpath).trans (ih _ _)

theorem spares_prune (folder : ResultFolder) {path : FilePath} (hpath : path ≠ []) (cutoff : Date)
    (files : Files) : Files.Spares path files (folder.prune cutoff files).2 := by
  simp only [prune]
  split
  · exact .refl path files
  · exact .refl path files
  · exact folder.spares_removeDays hpath files 0 _

end ResultFolder

namespace RegisterFile

variable {file : RegisterFile} {register : Register} {files after : Files} {parent : FilePath}
  {name : String} {cause : Failure}

theorem replaces_of_write (hwrite : file.write register files = (.ok (), after)) :
    file.Replaces register files after := by
  simp only [write] at hwrite
  split at hwrite
  · cases hwrite
  · rename_i drafted hdraft
    split at hwrite
    · cases hwrite
    · rename_i written hcommit
      cases hwrite
      exact ⟨drafted, hdraft, hcommit⟩

/-- A register that is written is the content of its file. -/
theorem content?_of_write (hwrite : file.write register files = (.ok (), after)) :
    after.content? (FilePath.ofText file.path) = some register.document.toUTF8 :=
  Files.content?_of_read (replaces_of_write hwrite).read_eq

/-- A write that fails leaves the content of the file alone. -/
theorem content?_of_write_error (hpath : FilePath.ofText file.path = parent ++ [name])
    (hwrite : file.write register files = (.error cause, after)) :
    after.content? (parent ++ [name]) = files.content? (parent ++ [name]) := by
  simp only [write] at hwrite
  split at hwrite
  · cases hwrite
    rfl
  · rename_i drafted hdraft
    split at hwrite
    · cases hwrite
      rw [writeDraft, draftPath_eq hpath] at hdraft
      exact Files.content?_place hdraft (Files.concat_ne_concat (draftName_ne name).symm _ _)
    · cases hwrite

/-- A write spares the files of other registers. -/
theorem spares_write {above : FilePath} (hpath : FilePath.ofText file.path = parent ++ [name])
    (hother : above ≠ parent) (register : Register) (files : Files) :
    Files.Spares (above ++ [name]) files (file.write register files).2 := by
  have hdraftPath : above ++ [name] ≠ file.draftPath := by
    rw [draftPath_eq hpath]
    exact Files.concat_ne_concat (draftName_ne name).symm _ _
  simp only [write]
  split
  · exact .refl _ files
  · rename_i drafted hdraft
    have hdrafted : Files.Spares (above ++ [name]) files drafted :=
      .inl (Files.content?_place hdraft hdraftPath)
    split
    · exact hdrafted
    · rename_i written hcommit
      obtain ⟨content, -, placed, hplaced, rfl⟩ := Files.rename_eq_ok.mp hcommit
      have hkept : Files.Spares (above ++ [name]) drafted placed := by
        refine .inl (Files.content?_write hplaced ?_)
        rw [hpath]
        simpa using hother
      exact (hdrafted.trans hkept).trans (placed.spares_remove _ (by simp))

end RegisterFile

end SiteWatch
