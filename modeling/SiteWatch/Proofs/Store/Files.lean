/-
# Trees of files

What is found at a path is settled by the entries on the way there. From this follow when a file can
be written and renamed, that it then holds what was written, and what else stays as it is.
-/

import Mathlib.Data.List.Induction
import Mathlib.Data.List.Nodup
import Mathlib.Data.String.Basic
import SiteWatch.Proofs.Outcome
import SiteWatch.Store.Files

namespace SiteWatch.Files

variable {files : Files} {path : FilePath} {node : FileNode}

/-! ## Entries -/

theorem find?_setEntry (path : FilePath) (node : FileNode) (entries : List (FilePath × FileNode))
    (other : FilePath) : (setEntry path node entries).find? (·.1 == other) =
      if path = other then some (path, node) else entries.find? (·.1 == other) := by
  induction entries with
  | nil => by_cases hother : path = other <;> simp [setEntry, hother]
  | cons entry rest ih =>
      by_cases hentry : entry.1 = path
      · by_cases hother : path = other <;> simp [setEntry, hentry, hother]
      · by_cases hfound : entry.1 = other
        · have hother : path ≠ other := fun hpath => hentry (hfound.trans hpath.symm)
          simp [setEntry, hfound, hother, hother.symm]
        · simp [setEntry, hentry, hfound, ih]

theorem node?_set_self (hpath : path ≠ []) : (files.set path node).node? path = some node := by
  simp [node?, set, find?_setEntry, hpath]

theorem node?_set_of_ne {other : FilePath} (hother : other ≠ path) :
    (files.set path node).node? other = files.node? other := by
  simp [node?, set, find?_setEntry, hother.symm]

theorem mem_entries_iff (hpath : path ≠ []) :
    path ∈ files.entries.map Prod.fst ↔ files.node? path ≠ none := by
  simp only [node?, List.isEmpty_iff, hpath, if_false, ne_eq, Option.map_eq_none_iff,
    List.find?_eq_none, List.mem_map]
  constructor
  · rintro ⟨entry, hentry, rfl⟩ hnone
    exact hnone entry hentry (by simp)
  · intro hsome
    by_contra hnone
    refine hsome fun entry hentry hfound => hnone ⟨entry, hentry, ?_⟩
    simpa using hfound

theorem map_fst_setEntry (path : FilePath) (node : FileNode) (entries : List (FilePath × FileNode)) :
    (setEntry path node entries).map Prod.fst =
      if path ∈ entries.map Prod.fst then entries.map Prod.fst else entries.map Prod.fst ++ [path] := by
  induction entries with
  | nil => rfl
  | cons entry rest ih =>
      by_cases hentry : entry.1 = path
      · simp [setEntry, hentry]
      · rw [setEntry, if_neg (by simpa using hentry), List.map_cons, ih, List.map_cons]
        by_cases hpath : path ∈ rest.map Prod.fst
        · rw [if_pos hpath, if_pos (List.mem_cons_of_mem _ hpath)]
        · rw [if_neg hpath, if_neg (by simpa [Ne.symm hentry] using hpath), List.cons_append]

/-- An entry that was not there makes the table longer by one. -/
theorem length_entries_set (hpath : path ∉ files.entries.map Prod.fst) :
    (files.set path node).entries.length = files.entries.length + 1 := by
  rw [← List.length_map (f := Prod.fst), set, map_fst_setEntry, if_neg hpath, List.length_append,
    List.length_map, List.length_singleton]

/-- Every path stands once in the table. -/
def IsTable (files : Files) : Prop := (files.entries.map Prod.fst).Nodup

theorem IsTable.set (hfiles : files.IsTable) (path : FilePath) (node : FileNode) :
    (files.set path node).IsTable := by
  rw [IsTable, Files.set, map_fst_setEntry]
  by_cases hpath : path ∈ files.entries.map Prod.fst
  · rwa [if_pos hpath]
  · rw [if_neg hpath]
    exact List.nodup_append.mpr ⟨hfiles, by simp, fun own hown other hother => by
      rintro rfl
      exact hpath (List.mem_singleton.mp hother ▸ hown)⟩

theorem node?_remove {other : FilePath} (hother : ¬ path <+: other) :
    (files.remove path).node? other = files.node? other := by
  have hkeep : (files.entries.filter fun entry => !path.isPrefixOf entry.1).find? (·.1 == other) =
      files.entries.find? (·.1 == other) := by
    rw [List.find?_filter]
    refine congrFun (congrArg List.find? (funext fun entry => ?_)) _
    by_cases hentry : entry.1 = other
    · have hout : path.isPrefixOf other = false := by
        rwa [Bool.eq_false_iff, ne_eq, List.isPrefixOf_iff_prefix]
      simp [hentry, hout]
    · simp [hentry]
  simp only [node?, remove, hkeep]

theorem node?_remove_self (hpath : path ≠ []) : (files.remove path).node? path = none := by
  have hgone : (files.entries.filter fun entry => !path.isPrefixOf entry.1).find? (·.1 == path) =
      none := by
    rw [List.find?_eq_none]
    rintro entry hentry hfound
    obtain rfl : entry.1 = path := by simpa using hfound
    have hout := (List.mem_filter.mp hentry).2
    rw [Bool.not_eq_true', Bool.eq_false_iff, ne_eq, List.isPrefixOf_iff_prefix] at hout
    exact hout (List.prefix_refl _)
  simp [node?, remove, hgone, hpath]

/-! ## The way to an entry -/

theorem walk_append (files : Files) (above : FilePath) (current : FileNode)
    (first rest : FilePath) : files.walk above current (first ++ rest) =
      files.walk above current first >>= fun next => files.walk (above ++ first) next rest := by
  induction first generalizing above current with
  | nil => simp [walk, bind, Except.bind]
  | cons name first ih =>
      rw [List.cons_append]
      cases current with
      | file content => rfl
      | directory =>
          simp only [walk]
          split
          · rfl
          · split
            · rfl
            · rw [ih, List.append_assoc, List.singleton_append]

/-- The last step to an entry. -/
theorem find_concat (files : Files) (parent : FilePath) (name : String) :
    files.find (parent ++ [name]) = files.find parent >>= fun current =>
      files.walk parent current [name] := by
  simp only [find, walk_append, List.nil_append]

/-- What is found at a path depends on the entries on the way there. -/
theorem find_congr {others : Files} (path : FilePath)
    (hnodes : ∀ way, way <+: path → files.node? way = others.node? way) :
    files.find path = others.find path := by
  induction path using List.reverseRecOn with
  | nil => rfl
  | append_singleton parent name ih =>
      have hparent := ih fun way hway => hnodes way (hway.trans (List.prefix_append _ _))
      have hlast := hnodes (parent ++ [name]) (List.prefix_refl _)
      simp only [find_concat, hparent, walk, hlast]

theorem find_set_of_aside {other : FilePath} (hother : ¬ path <+: other) :
    (files.set path node).find other = files.find other := by
  refine find_congr other fun way hway => node?_set_of_ne ?_
  rintro rfl
  exact hother hway

theorem find_remove_of_aside {other : FilePath} (hother : ¬ path <+: other) :
    (files.remove path).find other = files.find other :=
  find_congr other fun _ hway => node?_remove fun hpath => hother (hpath.trans hway)

theorem find_concat_of_directory {parent : FilePath} (hparent : files.find parent = .ok .directory)
    (name : String) : files.find (parent ++ [name]) =
      if name.utf8ByteSize > maxNameBytes then .error .nameTooLong
      else match files.node? (parent ++ [name]) with
        | none => .error .notFound
        | some node => .ok node := by
  rw [find_concat, hparent]
  rfl

/-- A name that is short enough leads from a directory to the entry that is there. -/
theorem find_concat_eq_ok {parent : FilePath} {name : String} :
    files.find (parent ++ [name]) = .ok node ↔ files.find parent = .ok .directory ∧
      name.utf8ByteSize ≤ maxNameBytes ∧ files.node? (parent ++ [name]) = some node := by
  constructor
  · intro hfound
    obtain ⟨current, hparent, hwalk⟩ := bind_eq_ok.mp (find_concat files parent name ▸ hfound)
    cases current with
    | file content => cases hwalk
    | directory =>
        refine ⟨hparent, ?_⟩
        rw [find_concat_of_directory hparent] at hfound
        split at hfound
        · cases hfound
        · split at hfound
          · cases hfound
          · cases hfound
            exact ⟨by omega, by assumption⟩
  · rintro ⟨hparent, hname, hnode⟩
    simp [find_concat_of_directory hparent, hnode, Nat.not_lt.mpr hname]

/-- What is found leads to whatever is on the way there. -/
theorem exists_find_of_prefix {way : FilePath} (hfound : files.find path = .ok node)
    (hway : way <+: path) : ∃ above, files.find way = .ok above := by
  obtain ⟨rest, rfl⟩ := hway
  rw [find, walk_append] at hfound
  obtain ⟨above, habove, -⟩ := bind_eq_ok.mp hfound
  exact ⟨above, habove⟩

theorem node?_ne_none_of_find (hfound : files.find path = .ok node) : files.node? path ≠ none := by
  rcases List.eq_nil_or_concat path with rfl | ⟨parent, name, rfl⟩
  · simp [node?]
  · rw [List.concat_eq_append] at hfound ⊢
    simp [(find_concat_eq_ok.mp hfound).2.2]

/-- A new entry hides nothing that was found. -/
theorem find_set_of_new {new : FilePath} {added : FileNode} (hnew : files.node? new = none)
    (hfound : files.find path = .ok node) : (files.set new added).find path = .ok node := by
  rw [find_set_of_aside, hfound]
  intro hway
  obtain ⟨above, habove⟩ := exists_find_of_prefix hfound hway
  exact node?_ne_none_of_find habove hnew

theorem has_eq_true : files.has path = true ↔ ∃ node, files.find path = .ok node := by
  rw [has]
  cases hfound : files.find path <;> simp [Except.toOption]

theorem has_eq_false : files.has path = false ↔ ∀ node, files.find path ≠ .ok node := by
  rw [← Bool.not_eq_true, has_eq_true, not_exists]

/-! ## Files that are written -/

/-- A file can be written under a name that is short enough, in a directory, where there is no
directory; and then it stands there. -/
theorem write_concat_eq_ok {parent : FilePath} {name : String} {content : ByteArray}
    {written : Files} : files.write (parent ++ [name]) content = .ok written ↔
      files.find parent = .ok .directory ∧ name.utf8ByteSize ≤ maxNameBytes ∧
        files.node? (parent ++ [name]) ≠ some .directory ∧
        written = files.set (parent ++ [name]) (.file content) := by
  simp only [write, List.dropLast_concat]
  constructor
  · intro hwrite
    split at hwrite
    · cases hwrite
    · rename_i old hold
      cases hwrite
      obtain ⟨hparent, hname, hnode⟩ := find_concat_eq_ok.mp hold
      exact ⟨hparent, hname, by simp [hnode], rfl⟩
    · rename_i hold
      split at hwrite
      · rename_i hparent
        cases hwrite
        rw [find_concat_of_directory hparent] at hold
        split at hold
        · cases hold
        · split at hold
          · rename_i hnode
            exact ⟨hparent, by omega, by simp [hnode], rfl⟩
          · cases hold
      · cases hwrite
      · cases hwrite
    · cases hwrite
  · rintro ⟨hparent, hname, hnode, rfl⟩
    rw [find_concat_of_directory hparent, if_neg (Nat.not_lt.mpr hname)]
    cases hentry : files.node? (parent ++ [name]) with
    | none => simp only [hparent]
    | some entry =>
        cases entry with
        | file old => rfl
        | directory => exact absurd hentry hnode

theorem exists_of_write {content : ByteArray} {written : Files}
    (hwrite : files.write path content = .ok written) : ∃ parent name, path = parent ++ [name] := by
  rcases List.eq_nil_or_concat path with rfl | ⟨parent, name, hpath⟩
  · cases hwrite
  · exact ⟨parent, name, by rw [hpath, List.concat_eq_append]⟩

theorem read_eq_ok {content : ByteArray} :
    files.read path = .ok content ↔ files.find path = .ok (.file content) := by
  simp only [read]
  split <;> simp_all

theorem read_write {content : ByteArray} {written : Files}
    (hwrite : files.write path content = .ok written) : written.read path = .ok content := by
  obtain ⟨parent, name, rfl⟩ := exists_of_write hwrite
  obtain ⟨hparent, hname, -, rfl⟩ := write_concat_eq_ok.mp hwrite
  rw [read_eq_ok, find_concat_eq_ok, find_set_of_aside, node?_set_self (by simp)]
  · exact ⟨hparent, hname, rfl⟩
  · intro hleads
    have hlength := hleads.length_le
    rw [List.length_append, List.length_singleton] at hlength
    omega

theorem rename_eq_ok {source target : FilePath} {renamed : Files} :
    files.rename source target = .ok renamed ↔ ∃ content, files.read source = .ok content ∧
      ∃ written, files.write target content = .ok written ∧ renamed = written.remove source := by
  simp only [rename, bind_eq_ok]
  refine exists_congr fun content => and_congr_right fun _ => exists_congr fun written =>
    and_congr_right fun _ => ?_
  exact ⟨fun hrenamed => (Except.ok.inj hrenamed).symm, fun hrenamed => congrArg _ hrenamed.symm⟩

/-- A file that is renamed holds what it held before. -/
theorem read_rename {source target : FilePath} {content : ByteArray} {renamed : Files}
    (hrename : files.rename source target = .ok renamed) (hread : files.read source = .ok content)
    (hsource : ¬ source <+: target) : renamed.read target = .ok content := by
  obtain ⟨found, hfound, written, hwrite, rfl⟩ := rename_eq_ok.mp hrename
  obtain rfl : content = found := by simpa [hread] using hfound
  rw [read_eq_ok, find_remove_of_aside hsource, ← read_eq_ok]
  exact read_write hwrite

/-! ## Directories that are made -/

/-- Directories lead to a path or can be made there: no file stands in the way, and every name is
short enough. -/
structure IsPassable (files : Files) (path : FilePath) : Prop where
  clear : ∀ way, way <+: path → ∀ content, files.node? way ≠ some (.file content)
  names : ∀ name ∈ path, name.utf8ByteSize ≤ maxNameBytes

theorem find_eq_directory (hnames : ∀ name ∈ path, name.utf8ByteSize ≤ maxNameBytes)
    (hnodes : ∀ way, way <+: path → files.node? way = some .directory) :
    files.find path = .ok .directory := by
  induction path using List.reverseRecOn with
  | nil => rfl
  | append_singleton parent name ih =>
      have hparent := ih (fun other hother => hnames other (List.mem_append_left _ hother))
        fun way hway => hnodes way (hway.trans (List.prefix_append _ _))
      exact find_concat_eq_ok.mpr
        ⟨hparent, hnames name (by simp), hnodes _ (List.prefix_refl _)⟩

/-- Directories stand on the whole way to a path by now, and nothing else has changed. -/
structure Paves (files : Files) (path : FilePath) (ready : Files) : Prop where
  nodes : ∀ way, way <+: path → ready.node? way = some .directory
  others : ∀ other, ¬ other <+: path → ready.node? other = files.node? other

/-- Making directories hides nothing that was found. -/
theorem Paves.find_eq {other : FilePath} {ready : Files} (hpaved : files.Paves path ready)
    (hpath : files.IsPassable path) (hfound : files.find other = .ok node) :
    ready.find other = .ok node := by
  induction other using List.reverseRecOn generalizing node with
  | nil => exact hfound
  | append_singleton parent name ih =>
      obtain ⟨hparent, hname, hnode⟩ := find_concat_eq_ok.mp hfound
      refine find_concat_eq_ok.mpr ⟨ih hparent, hname, ?_⟩
      by_cases hway : parent ++ [name] <+: path
      · rw [hpaved.nodes _ hway]
        cases node with
        | directory => rfl
        | file content => exact absurd hnode (hpath.clear _ hway content)
      · rw [hpaved.others _ hway, hnode]

/-- The next directory on a passable way is made, unless it is there. -/
theorem IsPassable.exists_makeBelow_cons {above rest : FilePath} {name : String}
    (hpath : files.IsPassable (above ++ name :: rest)) :
    ∃ made : Files, files.makeBelow above (name :: rest) = made.makeBelow (above ++ [name]) rest ∧
      made.node? (above ++ [name]) = some .directory ∧
      ∀ other, other ≠ above ++ [name] → made.node? other = files.node? other := by
  have hname := hpath.names name (by simp)
  have hclear := hpath.clear (above ++ [name]) (by simp)
  simp only [makeBelow, Nat.not_lt.mpr hname, if_false]
  cases hnode : files.node? (above ++ [name]) with
  | none => exact ⟨_, rfl, node?_set_self (by simp), fun _ hother => node?_set_of_ne hother⟩
  | some entry =>
      cases entry with
      | directory => exact ⟨files, rfl, hnode, fun _ _ => rfl⟩
      | file content => exact absurd hnode (hclear content)

/-- Below the directories that stand already, the others on a passable way are made. -/
theorem IsPassable.exists_makeBelow {above rest : FilePath}
    (hpath : files.IsPassable (above ++ rest))
    (habove : ∀ way, way <+: above → files.node? way = some .directory) :
    ∃ ready, files.makeBelow above rest = .ok ready ∧ files.Paves (above ++ rest) ready := by
  induction rest generalizing above files with
  | nil => exact ⟨files, rfl, by simpa using habove, fun _ _ => rfl⟩
  | cons name rest ih =>
      obtain ⟨made, hmake, hmade, hsame⟩ := hpath.exists_makeBelow_cons
      have hnodes : ∀ way, way <+: above ++ [name] → made.node? way = some .directory := by
        intro way hway
        by_cases hnew : way = above ++ [name]
        · exact hnew ▸ hmade
        · rw [hsame way hnew]
          exact habove way ((List.prefix_concat_iff.mp hway).resolve_left hnew)
      have hagain : made.IsPassable (above ++ [name] ++ rest) := by
        refine ⟨fun way hway content => ?_, by simpa using hpath.names⟩
        by_cases hnew : way = above ++ [name]
        · simp [hnew, hmade]
        · rw [hsame way hnew]
          exact hpath.clear way (by simpa using hway) content
      obtain ⟨ready, hready, hpaved⟩ := ih hagain hnodes
      rw [List.append_assoc, List.singleton_append] at hpaved
      refine ⟨ready, hmake ▸ hready, hpaved.nodes, fun other hother => ?_⟩
      rw [hpaved.others other hother, hsame]
      rintro rfl
      exact hother (by simp)

/-- Where a path is passable its directories are made, and nothing else changes. -/
theorem IsPassable.exists_makeDirectories (hpath : files.IsPassable path) :
    ∃ ready, files.makeDirectories path = .ok ready ∧ files.Paves path ready := by
  have habove : ∀ way, way <+: [] → files.node? way = some .directory := by
    intro way hway
    rw [List.prefix_nil.mp hway]
    rfl
  exact hpath.exists_makeBelow habove

theorem not_prefix_of_prefix_parent {parent way : FilePath} (name : String)
    (hway : way <+: parent) : ¬ parent ++ [name] <+: way := by
  intro hleads
  have hlength := (hleads.trans hway).length_le
  rw [List.length_append, List.length_singleton] at hlength
  omega

/-- Directories that could be made down to a path lead over no file and bear short names. -/
theorem isPassable_of_makeBelow {above rest : FilePath} {ready : Files}
    (hmake : files.makeBelow above rest = .ok ready) (habove : files.IsPassable above) :
    files.IsPassable (above ++ rest) := by
  induction rest generalizing above files with
  | nil => simpa using habove
  | cons name rest ih =>
      simp only [makeBelow] at hmake
      split at hmake
      · cases hmake
      · rename_i hname
        have hnames : ∀ own ∈ above ++ [name], own.utf8ByteSize ≤ maxNameBytes := by
          intro own hown
          rcases List.mem_append.mp hown with hown | hown
          · exact habove.names own hown
          · rw [List.mem_singleton.mp hown]
            omega
        rw [← List.singleton_append, ← List.append_assoc]
        split at hmake
        · rename_i hnode
          -- The new directory is the only entry in which the two trees differ.
          have hback : ∀ way, (files.set (above ++ [name]) .directory).IsPassable way →
              files.IsPassable way := by
            intro way hway
            refine ⟨fun part hpart content hfile => ?_, hway.names⟩
            by_cases hnew : part = above ++ [name]
            · rw [hnew, hnode] at hfile
              cases hfile
            · exact hway.clear part hpart content ((node?_set_of_ne hnew).trans hfile)
          apply hback
          apply ih hmake
          refine ⟨fun part hpart content => ?_, hnames⟩
          by_cases hnew : part = above ++ [name]
          · simp [hnew, node?_set_self]
          · rw [node?_set_of_ne hnew]
            exact habove.clear part ((List.prefix_concat_iff.mp hpart).resolve_left hnew) content
        · rename_i hnode
          apply ih hmake
          refine ⟨fun part hpart content hfile => ?_, hnames⟩
          by_cases hnew : part = above ++ [name]
          · rw [hnew, hnode] at hfile
            cases hfile
          · exact habove.clear part ((List.prefix_concat_iff.mp hpart).resolve_left hnew) content
              hfile
        · cases hmake

theorem IsTable.makeBelow {above rest : FilePath} {ready : Files} (hfiles : files.IsTable)
    (hmake : files.makeBelow above rest = .ok ready) : ready.IsTable := by
  induction rest generalizing above files with
  | nil =>
      obtain rfl := Except.ok.inj hmake
      exact hfiles
  | cons name rest ih =>
      simp only [Files.makeBelow] at hmake
      split at hmake
      · cases hmake
      · split at hmake
        · exact ih (hfiles.set _ _) hmake
        · exact ih hfiles hmake
        · cases hmake

/-- Directories that could be made stand on the whole way now, and nothing else has changed. -/
theorem paves_of_makeDirectories {ready : Files} (hmake : files.makeDirectories path = .ok ready) :
    files.IsPassable path ∧ files.Paves path ready := by
  have hroot : files.IsPassable [] := by
    refine ⟨fun way hway content => ?_, by simp⟩
    rw [List.prefix_nil.mp hway]
    simp [node?]
  have hpath : files.IsPassable path := isPassable_of_makeBelow hmake hroot
  obtain ⟨other, hother, hpaved⟩ := hpath.exists_makeDirectories
  obtain rfl : ready = other := Except.ok.inj (hmake.symm.trans hother)
  exact ⟨hpath, hpaved⟩

/-- A directory that is found is passable. -/
theorem isPassable_of_find (hfound : files.find path = .ok .directory) : files.IsPassable path := by
  induction path using List.reverseRecOn with
  | nil =>
      refine ⟨fun way hway content => ?_, by simp⟩
      rw [List.prefix_nil.mp hway]
      simp [node?]
  | append_singleton parent name ih =>
      obtain ⟨hparent, hname, hnode⟩ := find_concat_eq_ok.mp hfound
      refine ⟨fun way hway content => ?_, fun own hown => ?_⟩
      · rcases List.prefix_concat_iff.mp hway with rfl | hway
        · simp [hnode]
        · exact (ih hparent).clear way hway content
      · rcases List.mem_append.mp hown with hown | hown
        · exact (ih hparent).names own hown
        · rwa [List.mem_singleton.mp hown]

/-! ## Files in a directory -/

section

variable {parent : FilePath} {name draft : String} {content : ByteArray} {placed renamed : Files}

/-- A file stands in a directory by now, and the other names there lead where they led. -/
structure Places (files : Files) (parent : FilePath) (name : String) (content : ByteArray)
    (placed : Files) : Prop where
  directory : placed.find parent = .ok .directory
  short : name.utf8ByteSize ≤ maxNameBytes
  own : placed.node? (parent ++ [name]) = some (.file content)
  others : ∀ other, other ≠ name → placed.node? (parent ++ [other]) = files.node? (parent ++ [other])

theorem Paves.places {ready : Files} (hpaved : files.Paves parent ready)
    (hparent : files.IsPassable parent) (hname : name.utf8ByteSize ≤ maxNameBytes) :
    files.Places parent name content (ready.set (parent ++ [name]) (.file content)) where
  directory := by
    rw [find_set_of_aside (not_prefix_of_prefix_parent name (List.prefix_refl parent))]
    exact find_eq_directory hparent.names hpaved.nodes
  short := hname
  own := node?_set_self (by simp)
  others other hother := by
    rw [node?_set_of_ne (by simpa using hother)]
    exact hpaved.others _ (not_prefix_of_prefix_parent other (List.prefix_refl parent))

theorem places_of_place (hplace : files.place (parent ++ [name]) content = .ok placed) :
    files.Places parent name content placed := by
  rw [place, List.dropLast_concat] at hplace
  obtain ⟨ready, hready, hwrite⟩ := bind_eq_ok.mp hplace
  obtain ⟨hparent, hpaved⟩ := paves_of_makeDirectories hready
  obtain ⟨-, hname, -, rfl⟩ := write_concat_eq_ok.mp hwrite
  exact hpaved.places hparent hname

theorem Places.read_own (hplaced : files.Places parent name content placed) :
    placed.read (parent ++ [name]) = .ok content :=
  read_eq_ok.mpr (find_concat_eq_ok.mpr ⟨hplaced.directory, hplaced.short, hplaced.own⟩)

/-- A file is placed wherever directories lead or can be made, under a short name that no directory
bears. -/
theorem IsPassable.exists_place (hparent : files.IsPassable parent)
    (hname : name.utf8ByteSize ≤ maxNameBytes)
    (hclear : files.node? (parent ++ [name]) ≠ some .directory) (content : ByteArray) :
    ∃ placed, files.place (parent ++ [name]) content = .ok placed := by
  obtain ⟨ready, hready, hpaved⟩ := hparent.exists_makeDirectories
  refine ⟨ready.set (parent ++ [name]) (.file content), ?_⟩
  rw [place, List.dropLast_concat, hready]
  refine write_concat_eq_ok.mpr
    ⟨find_eq_directory hparent.names hpaved.nodes, hname, ?_, rfl⟩
  rwa [hpaved.others _ (not_prefix_of_prefix_parent name (List.prefix_refl parent))]

/-- A file has moved to another name in its directory. -/
structure Moves (parent : FilePath) (draft name : String) (content : ByteArray)
    (renamed : Files) : Prop where
  directory : renamed.find parent = .ok .directory
  short : name.utf8ByteSize ≤ maxNameBytes
  own : renamed.node? (parent ++ [name]) = some (.file content)
  gone : renamed.node? (parent ++ [draft]) = none

theorem moves_of_rename (hdraft : draft ≠ name)
    (hread : files.read (parent ++ [draft]) = .ok content)
    (hrename : files.rename (parent ++ [draft]) (parent ++ [name]) = .ok renamed) :
    Moves parent draft name content renamed := by
  obtain ⟨found, hfound, written, hwrite, rfl⟩ := rename_eq_ok.mp hrename
  obtain rfl : content = found := Except.ok.inj (hread.symm.trans hfound)
  obtain ⟨hparent, hname, -, rfl⟩ := write_concat_eq_ok.mp hwrite
  have haside : ∀ own, ¬ parent ++ [own] <+: parent := fun own =>
    not_prefix_of_prefix_parent own (List.prefix_refl parent)
  refine ⟨?_, hname, ?_, node?_remove_self (by simp)⟩
  · rw [find_remove_of_aside (haside draft), find_set_of_aside (haside name), hparent]
  · rw [node?_remove, node?_set_self (by simp)]
    rw [List.prefix_append_right_inj]
    simpa using hdraft

theorem Moves.read_own (hmoved : Moves parent draft name content renamed) :
    renamed.read (parent ++ [name]) = .ok content :=
  read_eq_ok.mpr (find_concat_eq_ok.mpr ⟨hmoved.directory, hmoved.short, hmoved.own⟩)

/-- A file can take a short name in its directory that no directory bears. -/
theorem exists_rename (hread : files.read (parent ++ [draft]) = .ok content)
    (hname : name.utf8ByteSize ≤ maxNameBytes)
    (hclear : files.node? (parent ++ [name]) ≠ some .directory) :
    ∃ renamed, files.rename (parent ++ [draft]) (parent ++ [name]) = .ok renamed := by
  have hparent := (find_concat_eq_ok.mp (read_eq_ok.mp hread)).1
  exact ⟨_, rename_eq_ok.mpr
    ⟨content, hread, _, write_concat_eq_ok.mpr ⟨hparent, hname, hclear, rfl⟩, rfl⟩⟩

end

/-- A file is replaced by way of a draft wherever directories lead there or can be made, both names
are short enough and no directory bears them; and then it can be replaced again. -/
theorem IsPassable.exists_replace {parent : FilePath} {name draft : String}
    (hparent : files.IsPassable parent) (hdraft : draft ≠ name)
    (hnames : ∀ own ∈ [name, draft], own.utf8ByteSize ≤ maxNameBytes)
    (hclear : ∀ own ∈ [name, draft], files.node? (parent ++ [own]) ≠ some .directory)
    (content : ByteArray) :
    ∃ drafted renamed, files.place (parent ++ [draft]) content = .ok drafted ∧
      drafted.rename (parent ++ [draft]) (parent ++ [name]) = .ok renamed ∧
      renamed.IsPassable parent ∧
      ∀ own ∈ [name, draft], renamed.node? (parent ++ [own]) ≠ some .directory := by
  obtain ⟨drafted, hplace⟩ :=
    hparent.exists_place (hnames draft (by simp)) (hclear draft (by simp)) content
  have hplaced := places_of_place hplace
  have hother : drafted.node? (parent ++ [name]) ≠ some .directory := by
    rw [hplaced.others name hdraft.symm]
    exact hclear name (by simp)
  obtain ⟨renamed, hrename⟩ := exists_rename hplaced.read_own (hnames name (by simp)) hother
  have hmoved := moves_of_rename hdraft hplaced.read_own hrename
  refine ⟨drafted, renamed, hplace, hrename, isPassable_of_find hmoved.directory, ?_⟩
  simp [hmoved.own, hmoved.gone]

/-! ## Directories that are listed -/

/-- The names of a directory are those of its entries. -/
theorem mem_names_iff {names : List String} (hnames : files.names path = .ok names) (name : String) :
    name ∈ names ↔ files.node? (path ++ [name]) ≠ none := by
  rw [← mem_entries_iff (by simp)]
  unfold Files.names at hnames
  split at hnames
  · cases hnames
  · cases hnames
  · obtain rfl := Except.ok.inj hnames
    simp only [List.mem_filterMap, List.mem_map]
    refine exists_congr fun entry => and_congr_right fun _ => ?_
    rcases List.eq_nil_or_concat entry.1 with hnil | ⟨parent, last, hlast⟩
    · simp [hnil]
    · rw [List.concat_eq_append] at hlast
      simp only [hlast, List.dropLast_concat, List.getLast?_concat]
      by_cases hparent : parent = path
      · simp [hparent, eq_comm]
      · simp [hparent]

theorem exists_names (hpath : files.find path = .ok .directory) :
    ∃ names, files.names path = .ok names := by
  simp only [Files.names, hpath]
  exact ⟨_, rfl⟩

theorem nodup_names {names : List String} (hnames : files.names path = .ok names)
    (hfiles : files.IsTable) : names.Nodup := by
  unfold Files.names at hnames
  split at hnames
  · cases hnames
  · cases hnames
  · obtain rfl := Except.ok.inj hnames
    have hkeys : files.entries.filterMap (fun entry =>
          if entry.1.dropLast == path then entry.1.getLast? else none) =
        (files.entries.map Prod.fst).filterMap fun key =>
          if key.dropLast == path then key.getLast? else none := by
      rw [List.filterMap_map]
      rfl
    rw [hkeys]
    refine List.Nodup.filterMap (fun key other name hkey hother => ?_) hfiles
    have hown : ∀ key : FilePath, name ∈ (if key.dropLast == path then key.getLast? else none) →
        key = path ++ [name] := by
      intro key hname
      by_cases hparent : key.dropLast = path
      · rw [if_pos (by simpa using hparent)] at hname
        rw [← hparent]
        exact (List.dropLast_append_getLast? name hname).symm
      · rw [if_neg (by simpa using hparent)] at hname
        cases hname
    rw [hown key hkey, hown other hother]

/-- The documents of a directory are told in the order of their names. -/
theorem pairwise_documents {directory : String} {names : List String}
    (hnames : files.documents directory = .ok names) : names.Pairwise (· ≤ ·) := by
  unfold documents at hnames
  split at hnames
  · cases hnames
    exact .nil
  · cases hnames
  · cases hnames
    have htrans : ∀ a b c : String, decide (a ≤ b) → decide (b ≤ c) → decide (a ≤ c) := by
      intro a b c hab hbc
      exact decide_eq_true (le_trans (of_decide_eq_true hab) (of_decide_eq_true hbc))
    have htotal : ∀ a b : String, decide (a ≤ b) || decide (b ≤ a) := by
      intro a b
      simpa using le_total a b
    exact (List.pairwise_mergeSort htrans htotal _).imp of_decide_eq_true

end SiteWatch.Files
