/-
# Days that have expired

Pruning takes away the days of a folder that are too old, with all that is stored below them, and
nothing else. Every day that is removed is counted once. What is left has no such day, so that
pruning again finds nothing to do, and pruning to one age and then to another comes to the same as
pruning to the smaller one at once. A result that was saved stands in the directory of the day on
which it was saved, and the name of that directory is read as that day; so a result goes with its day.
-/

import SiteWatch.Proofs.Store.ResultFolder

namespace SiteWatch

open Text (joinPath)

/-! ## Names of days -/

namespace Time

/-- The characters that dates are made of. -/
def isDayChar (c : Char) : Bool := c.isDigit || Text.isBlank c || c = '-' || c = '+'

/-- Reading has passed over characters that dates are made of. -/
def Passes (chars rest : List Char) : Prop :=
  ∃ front, chars = front ++ rest ∧ ∀ c ∈ front, isDayChar c = true

theorem Passes.trans {chars between rest : List Char} (hfirst : Passes chars between)
    (hlast : Passes between rest) : Passes chars rest := by
  obtain ⟨front, rfl, hfront⟩ := hfirst
  obtain ⟨more, rfl, hmore⟩ := hlast
  exact ⟨front ++ more, (List.append_assoc _ _ _).symm, List.forall_mem_append.mpr ⟨hfront, hmore⟩⟩

theorem passes_dropWhile (p : Char → Bool) (hp : ∀ c, p c = true → isDayChar c = true)
    (chars : List Char) : Passes chars (chars.dropWhile p) := by
  refine ⟨chars.takeWhile p, List.takeWhile_append_dropWhile.symm, fun c hc => hp c ?_⟩
  exact List.all_eq_true.mp List.all_takeWhile c hc

theorem passes_dropBlanks (chars : List Char) : Passes chars (Text.dropBlanks chars) :=
  passes_dropWhile Text.isBlank (fun c hc => by simp [isDayChar, hc]) chars

theorem passes_cons {c : Char} (hc : isDayChar c = true) (rest : List Char) :
    Passes (c :: rest) rest :=
  ⟨[c], rfl, by simpa using hc⟩

theorem passes_of_literal {c : Char} (hc : isDayChar c = true) {chars rest : List Char}
    (hread : literal c chars = .ok ((), rest)) : Passes chars rest := by
  unfold literal at hread
  split at hread
  · cases hread
  · split at hread
    · rename_i hsame
      cases hread
      exact passes_cons (hsame ▸ hc) rest
    · cases hread

theorem passes_of_number {width n : Nat} {chars rest : List Char}
    (hread : number width chars = .ok (n, rest)) : Passes chars rest := by
  simp only [number] at hread
  split at hread
  · cases hread
  · split at hread
    · cases hread
    · split at hread
      · cases hread
      · cases hread
        refine ⟨(chars.take width).takeWhile Char.isDigit, ?_, fun c hc => ?_⟩
        · exact List.prefix_iff_eq_append.mp
            ((List.takeWhile_prefix _).trans (List.take_prefix width chars)) |>.symm
        · have hdigit := List.all_eq_true.mp List.all_takeWhile c hc
          simp [isDayChar, hdigit]

theorem passes_of_bounded {width low high n : Nat} {chars rest : List Char}
    (hread : bounded width low high chars = .ok (n, rest)) : Passes chars rest := by
  simp only [bounded, bind_eq_ok] at hread
  obtain ⟨⟨value, after⟩, hnumber, hread⟩ := hread
  split at hread
  · cases hread
    exact (passes_dropBlanks chars).trans (passes_of_number hnumber)
  · cases hread

/-- A number that is given a sign and a range. -/
theorem passes_of_signed (sign : Nat → Int) {width : Nat} {chars rest : List Char} {y : Int}
    (hread : (number width chars >>= fun found =>
      (pure (sign found.1, found.2) : Except Fault (Int × List Char)) >>= fun signed =>
        if -2147483648 ≤ signed.1 ∧ signed.1 ≤ 2147483647 then pure (signed.1, signed.2)
        else throw .outOfRange) = .ok (y, rest)) : Passes chars rest := by
  obtain ⟨⟨n, after⟩, hnumber, hread⟩ := bind_eq_ok.mp hread
  obtain ⟨signed, hsigned, hread⟩ := bind_eq_ok.mp hread
  cases hsigned
  split at hread
  · cases hread
    exact passes_of_number hnumber
  · cases hread

theorem passes_of_year {chars rest : List Char} {y : Int} (hread : year chars = .ok (y, rest)) :
    Passes chars rest := by
  refine (passes_dropBlanks chars).trans ?_
  simp only [year] at hread
  split at hread
  · rename_i digits hminus
    rw [hminus]
    exact (passes_cons (by decide) digits).trans (passes_of_signed (fun n => -(n : Int)) hread)
  · rename_i digits hplus
    rw [hplus]
    exact (passes_cons (by decide) digits).trans (passes_of_signed (fun n => (n : Int)) hread)
  · exact passes_of_signed (fun n => (n : Int)) hread

/-- A text that is read as a day is made of nothing but the characters of dates. -/
theorem isDayChar_of_readDay {text : String} {day : Date} (hread : readDay text = .ok day) :
    ∀ c ∈ text.toList, isDayChar c = true := by
  simp only [readDay, dateParts, Bool.false_eq_true, if_false, bind_eq_ok] at hread
  obtain ⟨⟨parts, afterDay⟩, ⟨⟨y, afterYear⟩, hyear, ⟨⟨⟩, afterFirst⟩, hfirst, ⟨m, afterMonth⟩,
    hmonth, ⟨⟨⟩, afterSecond⟩, hsecond, ⟨d, rest⟩, hday, hparts⟩, hread⟩ := hread
  cases hparts
  have hpasses : Passes text.toList rest :=
    ((((passes_of_year hyear).trans (passes_of_literal (by decide) hfirst)).trans
      (passes_of_bounded hmonth)).trans (passes_of_literal (by decide) hsecond)).trans
        (passes_of_bounded hday)
  obtain ⟨front, htext, hfront⟩ := hpasses
  split at hread
  · rename_i hend
    obtain rfl : rest = [] := List.isEmpty_iff.mp hend
    rwa [htext, List.append_nil]
  · cases hread

/-- A text that is read as a day can be the name of an entry. -/
theorem isEntryName_of_readDay {text : String} {day : Date} (hread : readDay text = .ok day) :
    Text.IsEntryName text where
  slash hslash := absurd (isDayChar_of_readDay hread '/' hslash) (by decide)
  ne_empty := by
    rintro rfl
    cases hread
  ne_dot := by
    rintro rfl
    exact absurd (isDayChar_of_readDay hread '.' (by decide)) (by decide)
  ne_dots := by
    rintro rfl
    exact absurd (isDayChar_of_readDay hread '.' (by decide)) (by decide)

/-- Every day is read back from the name of its directory. -/
theorem readDay_text {date : Date} (hrange : date.inRange = true) : readDay date.text = .ok date := by
  have hparts : dateParts false date.text.toList = .ok (date.civil, []) := by
    rw [← List.append_nil date.text.toList, dateParts_text hrange]
  simp only [readDay, hparts, bind, Except.bind, List.isEmpty_nil, if_true, dateOf,
    Date.ofCivil?_civil hrange]

end Time

theorem Date.minusDays?_eq_some {today earlier : Date} {days : Nat} :
    today.minusDays? days = some earlier ↔
      earlier.day = today.day - days ∧ earlier.inRange = true := by
  simp only [minusDays?, Option.ite_none_right_eq_some, Option.some.injEq]
  constructor
  · rintro ⟨hrange, rfl⟩
    exact ⟨rfl, hrange⟩
  · rintro ⟨hday, hrange⟩
    obtain rfl : (⟨today.day - days⟩ : Date) = earlier := congrArg Date.mk hday.symm
    exact ⟨hrange, rfl⟩

/-- The fewer of two numbers of days lead to the later of the two days. -/
theorem Date.exists_minusDays?_min {today first second : Date} {days others : Nat}
    (hfirst : today.minusDays? days = some first) (hsecond : today.minusDays? others = some second) :
    ∃ latest, today.minusDays? (min days others) = some latest ∧
      latest.day = max first.day second.day := by
  have hdays := (minusDays?_eq_some.mp hfirst).1
  have hothers := (minusDays?_eq_some.mp hsecond).1
  rcases Nat.le_total days others with hle | hle
  · exact ⟨first, by rw [min_eq_left hle, hfirst], by omega⟩
  · exact ⟨second, by rw [min_eq_right hle, hsecond], by omega⟩

/-! ## Trees without some of their paths -/

namespace Files

variable {files : Files} {paths : List FilePath} {path : FilePath} {node : FileNode}

/-- The tree without some entries and what lies below them. -/
def removeAll (files : Files) (paths : List FilePath) : Files :=
  ⟨files.entries.filter fun entry => paths.all fun path => !path.isPrefixOf entry.1⟩

theorem removeAll_nil (files : Files) : files.removeAll [] = files := by
  simp [removeAll]

theorem removeAll_removeAll (files : Files) (paths others : List FilePath) :
    (files.removeAll paths).removeAll others = files.removeAll (paths ++ others) := by
  simp only [removeAll, List.filter_filter, List.all_append, Bool.and_comm]

theorem removeAll_cons (files : Files) (path : FilePath) (paths : List FilePath) :
    (files.remove path).removeAll paths = files.removeAll (path :: paths) := by
  simp only [removeAll, remove, List.filter_filter, List.all_cons, Bool.and_comm]

/-- It makes no difference in which order and how often paths are removed. -/
theorem removeAll_congr {others : List FilePath} (hsame : ∀ path, path ∈ paths ↔ path ∈ others) :
    files.removeAll paths = files.removeAll others := by
  have hall (entry : FilePath × FileNode) :
      (paths.all fun path => !path.isPrefixOf entry.1) =
        others.all fun path => !path.isPrefixOf entry.1 := by
    rw [Bool.eq_iff_iff, List.all_eq_true, List.all_eq_true]
    exact forall_congr' fun path => imp_congr_left (hsame path)
  simp only [removeAll, hall]

theorem node?_removeAll (hpath : ∀ own ∈ paths, ¬ own <+: path) :
    (files.removeAll paths).node? path = files.node? path := by
  induction paths generalizing files with
  | nil => rw [removeAll_nil]
  | cons own paths ih =>
      obtain ⟨hown, hothers⟩ := List.forall_mem_cons.mp hpath
      rw [← removeAll_cons, ih hothers, node?_remove hown]

theorem find_removeAll (hpath : ∀ own ∈ paths, ¬ own <+: path) :
    (files.removeAll paths).find path = files.find path :=
  find_congr path fun _ hway => node?_removeAll fun own hown hleads =>
    hpath own hown (hleads.trans hway)

/-- What is removed is gone, and so is all below it. -/
theorem node?_removeAll_eq_none {own : FilePath} (hown : own ∈ paths) (hsome : own ≠ [])
    (hpath : own <+: path) : (files.removeAll paths).node? path = none := by
  have hne : path ≠ [] := by
    rintro rfl
    exact hsome (List.prefix_nil.mp hpath)
  by_contra hnode
  obtain ⟨entry, hentry, rfl⟩ := List.mem_map.mp ((mem_entries_iff hne).mpr hnode)
  have hkept := List.all_eq_true.mp (List.mem_filter.mp hentry).2 own hown
  rw [Bool.not_eq_true', Bool.eq_false_iff, ne_eq, List.isPrefixOf_iff_prefix] at hkept
  exact hkept hpath

theorem node?_of_removeAll (hsome : [] ∉ paths) (hnode : (files.removeAll paths).node? path = some node) :
    files.node? path = some node := by
  rw [← hnode, node?_removeAll]
  intro own hown hleads
  rw [node?_removeAll_eq_none hown (fun hnil => hsome (hnil ▸ hown)) hleads] at hnode
  cases hnode

theorem IsTable.removeAll (hfiles : files.IsTable) (paths : List FilePath) :
    (files.removeAll paths).IsTable :=
  hfiles.sublist (List.filter_sublist.map Prod.fst)

end Files

/-! ## Folders that can be pruned -/

namespace ResultFolder

variable {folder : ResultFolder} {files : Files} {cutoff : Date} {name : String}

/-- The path of an entry of a folder. -/
def entryPath (folder : ResultFolder) (name : String) : FilePath :=
  FilePath.ofText folder.root ++ [name]

theorem entryPath_ne_nil (folder : ResultFolder) (name : String) : folder.entryPath name ≠ [] := by
  simp [entryPath]

/-- Paths below entries lead through one of them. -/
theorem entryPath_inj {other : String} {path : FilePath} (hpath : folder.entryPath name <+: path)
    (hother : folder.entryPath other <+: path) : name = other := by
  have hlength : (folder.entryPath name).length = (folder.entryPath other).length := by
    simp [entryPath]
  have hsame := List.prefix_of_prefix_length_le hpath hother (Nat.le_of_eq hlength)
  exact List.singleton_inj.mp (List.append_cancel_left (hsame.eq_of_length hlength))

/-- A folder is a directory or not there at all, and none of its plain files is named like a day. -/
structure IsPrunable (folder : ResultFolder) (files : Files) : Prop where
  table : files.IsTable
  root : files.find (FilePath.ofText folder.root) = .ok .directory ∨
    files.find (FilePath.ofText folder.root) = .error .notFound
  days : ∀ name day, Time.readDay name = .ok day → ∀ content,
    files.node? (folder.entryPath name) ≠ some (.file content)

/-- An entry of a folder is named like a day before another. -/
structure Expires (folder : ResultFolder) (cutoff : Date) (files : Files) (name : String) : Prop where
  root : files.find (FilePath.ofText folder.root) = .ok .directory
  entry : files.node? (folder.entryPath name) ≠ none
  day : ∃ day, Time.readDay name = .ok day ∧ day.day < cutoff.day

/-- Expired days were removed, all of them and nothing else, and each was counted once. -/
structure Prunes (folder : ResultFolder) (cutoff : Date) (files after : Files) (removed : Nat) :
    Prop where
  count : ∃ names : List String, names.Nodup ∧ names.length = removed ∧
    ∀ name, name ∈ names ↔ folder.Expires cutoff files name
  gone : ∀ name, folder.Expires cutoff files name →
    ∀ path, folder.entryPath name <+: path → after.node? path = none
  kept : ∀ path, (∀ name, folder.Expires cutoff files name → ¬ folder.entryPath name <+: path) →
    after.node? path = files.node? path

theorem isBefore_eq_true :
    isBefore cutoff name = true ↔ ∃ day, Time.readDay name = .ok day ∧ day.day < cutoff.day := by
  unfold isBefore
  cases Time.readDay name <;> simp

/-- Names of days that no plain file bears are removed one after another. -/
theorem removeDays_eq {names : List String} (hnames : ∀ name ∈ names, Text.IsEntryName name)
    (hdays : ∀ name ∈ names, ∀ content, files.node? (folder.entryPath name) ≠ some (.file content))
    (removed : Nat) :
    folder.removeDays files removed names =
      (.ok (removed + names.length), files.removeAll (names.map folder.entryPath)) := by
  induction names generalizing files removed with
  | nil => simp [removeDays, Files.removeAll_nil]
  | cons name rest ih =>
      obtain ⟨hname, hrest⟩ := List.forall_mem_cons.mp hnames
      obtain ⟨hday, hothers⟩ := List.forall_mem_cons.mp hdays
      have hpath : FilePath.ofText (joinPath folder.root name) = folder.entryPath name :=
        FilePath.ofText_joinPath hname folder.root
      have hfile : files.isFile (folder.entryPath name) = false := by
        unfold Files.isFile
        split
        · rename_i content hfound
          exact absurd (Files.find_concat_eq_ok.mp hfound).2.2 (hday content)
        · rfl
      have hleft : ∀ other ∈ rest, ∀ content,
          (files.remove (folder.entryPath name)).node? (folder.entryPath other) ≠
            some (.file content) := by
        intro other hother content hnode
        have hone : files.remove (folder.entryPath name) =
            files.removeAll [folder.entryPath name] := by
          rw [← Files.removeAll_cons, Files.removeAll_nil]
        rw [hone] at hnode
        exact hothers other hother content
          (Files.node?_of_removeAll (by simp [entryPath]) hnode)
      simp only [removeDays, hpath, hfile, Bool.false_eq_true, if_false]
      rw [ih hrest hleft, Files.removeAll_cons, List.map_cons, List.length_cons,
        Nat.add_assoc, Nat.add_comm 1]

/-- The expired entries of a folder are among its names. -/
theorem mem_filter_isBefore_iff (hroot : files.find (FilePath.ofText folder.root) = .ok .directory)
    {entries : List String} (hentries : files.names (FilePath.ofText folder.root) = .ok entries) :
    name ∈ entries.filter (isBefore cutoff) ↔ folder.Expires cutoff files name := by
  rw [List.mem_filter, Files.mem_names_iff hentries, isBefore_eq_true]
  exact ⟨fun hname => ⟨hroot, hname.1, hname.2⟩, fun hname => ⟨hname.entry, hname.day⟩⟩

/-- What pruning does in one go. -/
theorem IsPrunable.exists_prune_eq (hfolder : folder.IsPrunable files) (cutoff : Date) :
    ∃ names : List String, names.Nodup ∧ (∀ name, name ∈ names ↔ folder.Expires cutoff files name) ∧
      folder.prune cutoff files =
        (.ok names.length, files.removeAll (names.map folder.entryPath)) := by
  obtain hroot | hroot := hfolder.root
  · obtain ⟨entries, hentries⟩ := Files.exists_names hroot
    refine ⟨(entries.filter (isBefore cutoff)).mergeSort fun a b => decide (a ≤ b), ?_, ?_, ?_⟩
    · exact (List.mergeSort_perm _ _).nodup_iff.mpr
        ((Files.nodup_names hentries hfolder.table).filter _)
    · intro name
      rw [List.mem_mergeSort, mem_filter_isBefore_iff hroot hentries]
    · have hday : ∀ name ∈ (entries.filter (isBefore cutoff)).mergeSort fun a b => decide (a ≤ b),
          ∃ day, Time.readDay name = .ok day := by
        intro name hname
        rw [List.mem_mergeSort, mem_filter_isBefore_iff hroot hentries] at hname
        obtain ⟨day, hread, -⟩ := hname.day
        exact ⟨day, hread⟩
      simp only [prune, hentries]
      rw [removeDays_eq, Nat.zero_add]
      · intro name hname
        obtain ⟨day, hread⟩ := hday name hname
        exact Time.isEntryName_of_readDay hread
      · intro name hname
        obtain ⟨day, hread⟩ := hday name hname
        exact hfolder.days name day hread
  · refine ⟨[], .nil, fun name => ?_, ?_⟩
    · refine iff_of_false List.not_mem_nil fun hname => ?_
      cases hroot.symm.trans hname.root
    · simp [prune, Files.names, hroot, Files.removeAll_nil]

/-- Where nothing has expired, there is nothing to do. -/
theorem IsPrunable.prune_eq_of_none (hfolder : folder.IsPrunable files)
    (hnone : ∀ name, ¬ folder.Expires cutoff files name) :
    folder.prune cutoff files = (.ok 0, files) := by
  obtain ⟨names, -, hmem, hprune⟩ := hfolder.exists_prune_eq cutoff
  obtain rfl : names = [] :=
    List.eq_nil_iff_forall_not_mem.mpr fun name hname => hnone name ((hmem name).mp hname)
  rw [hprune, List.map_nil, Files.removeAll_nil, List.length_nil]

section

variable {names : List String}

theorem prunes_removeAll (hnodup : names.Nodup)
    (hmem : ∀ name, name ∈ names ↔ folder.Expires cutoff files name) :
    folder.Prunes cutoff files (files.removeAll (names.map folder.entryPath)) names.length where
  count := ⟨names, hnodup, rfl, hmem⟩
  gone name hname path hpath :=
    Files.node?_removeAll_eq_none (List.mem_map_of_mem ((hmem name).mpr hname))
      (folder.entryPath_ne_nil name) hpath
  kept path hpath := by
    refine Files.node?_removeAll fun own hown => ?_
    obtain ⟨name, hname, rfl⟩ := List.mem_map.mp hown
    exact hpath name ((hmem name).mp hname)

/-- The root of a folder is none of its entries. -/
theorem find_root_removeAll (folder : ResultFolder) (files : Files) (names : List String) :
    (files.removeAll (names.map folder.entryPath)).find (FilePath.ofText folder.root) =
      files.find (FilePath.ofText folder.root) := by
  refine Files.find_removeAll fun own hown => ?_
  obtain ⟨name, -, rfl⟩ := List.mem_map.mp hown
  exact Files.not_prefix_of_prefix_parent name (List.prefix_refl _)

/-- A folder can be pruned again. -/
theorem IsPrunable.removeAll (hfolder : folder.IsPrunable files) (names : List String) :
    folder.IsPrunable (files.removeAll (names.map folder.entryPath)) where
  table := hfolder.table.removeAll _
  root := by
    rw [find_root_removeAll]
    exact hfolder.root
  days name day hread content hnode := by
    refine hfolder.days name day hread content (Files.node?_of_removeAll ?_ hnode)
    simp [entryPath]

/-- What has expired before the later of two days either has before the first one, or is left when
that is gone and has before the second one. -/
theorem expires_max_iff {other latest : Date} (hlatest : latest.day = max cutoff.day other.day)
    (hmem : ∀ name, name ∈ names ↔ folder.Expires cutoff files name) (name : String) :
    folder.Expires latest files name ↔ folder.Expires cutoff files name ∨
      folder.Expires other (files.removeAll (names.map folder.entryPath)) name := by
  constructor
  · rintro ⟨hroot, hentry, day, hread, hday⟩
    by_cases hcutoff : day.day < cutoff.day
    · exact .inl ⟨hroot, hentry, day, hread, hcutoff⟩
    · refine .inr ⟨(folder.find_root_removeAll files names).trans hroot, ?_, day, hread, by omega⟩
      rw [Files.node?_removeAll]
      · exact hentry
      · intro own hown hleads
        obtain ⟨gone, hgone, rfl⟩ := List.mem_map.mp hown
        obtain rfl := entryPath_inj hleads (List.prefix_refl _)
        obtain ⟨early, hearly, hbefore⟩ := ((hmem gone).mp hgone).day
        cases hearly.symm.trans hread
        exact hcutoff hbefore
  · rintro (⟨hroot, hentry, day, hread, hday⟩ | ⟨hroot, hentry, day, hread, hday⟩)
    · exact ⟨hroot, hentry, day, hread, by omega⟩
    · refine ⟨(folder.find_root_removeAll files names).symm.trans hroot, ?_, day, hread, by omega⟩
      obtain ⟨node, hnode⟩ := Option.ne_none_iff_exists'.mp hentry
      rw [Files.node?_of_removeAll (by simp [entryPath]) hnode]
      exact nofun

/-- A file that was saved below a day goes just if that day has expired. -/
theorem has_removeAll_of_read {day : Date} {file : String} {content : ByteArray}
    (hday : day.inRange = true)
    (hread : files.read (folder.entryPath day.text ++ [file]) = .ok content)
    (hmem : ∀ name, name ∈ names ↔ folder.Expires cutoff files name) :
    (files.removeAll (names.map folder.entryPath)).has (folder.entryPath day.text ++ [file]) =
      false ↔ day.day < cutoff.day := by
  have hfound := Files.read_eq_ok.mp hread
  obtain ⟨hdirectory, -, -⟩ := Files.find_concat_eq_ok.mp hfound
  obtain ⟨hroot, -, hentry⟩ := Files.find_concat_eq_ok.mp hdirectory
  constructor
  · intro hgone
    by_contra hlater
    rw [Files.has_eq_false, Files.find_removeAll] at hgone
    · exact hgone _ hfound
    · intro own hown hleads
      obtain ⟨name, hname, rfl⟩ := List.mem_map.mp hown
      obtain rfl := entryPath_inj hleads (List.prefix_append _ _)
      obtain ⟨early, hearly, hbefore⟩ := ((hmem _).mp hname).day
      cases hearly.symm.trans (Time.readDay_text hday)
      exact hlater hbefore
  · intro hbefore
    have hexpires : folder.Expires cutoff files day.text :=
      ⟨hroot, Option.ne_none_iff_exists'.mpr ⟨_, hentry⟩, day, Time.readDay_text hday, hbefore⟩
    rw [Files.has_eq_false]
    intro node hnode
    refine Files.node?_ne_none_of_find hnode ?_
    exact Files.node?_removeAll_eq_none (List.mem_map_of_mem ((hmem _).mpr hexpires))
      (folder.entryPath_ne_nil _) (List.prefix_append _ _)

end

/-- A file is saved below the day of its save, with some content. -/
theorem exists_read_of_save {siteId : String} {result : ScrapeResult} {now : Instant}
    {saved : Files} {file : SavedFile} (hday : now.date.inRange = true)
    (hsave : folder.save siteId result now files = (.ok file, saved)) :
    FilePath.ofText file.path = folder.entryPath now.date.text ++ [file.name] ∧
      ∃ content, saved.read (FilePath.ofText file.path) = .ok content := by
  have hdirectory : FilePath.ofText (folder.dayDirectory now.date) =
      folder.entryPath now.date.text :=
    FilePath.ofText_joinPath (Time.isEntryName_of_readDay (Time.readDay_text hday)) folder.root
  have hfrom {ready : Files} {tries attempt : Nat}
      (hsave : saveFrom (folder.dayDirectory now.date) siteId result now ready tries attempt =
        (.ok file, saved)) :
      FilePath.ofText file.path = folder.entryPath now.date.text ++ [file.name] ∧
        ∃ content, saved.read (FilePath.ofText file.path) = .ok content := by
    induction tries generalizing attempt with
    | zero => cases hsave
    | succ tries ih =>
        simp only [saveFrom] at hsave
        split at hsave
        · exact ih hsave
        · split at hsave
          · cases hsave
          · rename_i written hwrite
            cases hsave
            refine ⟨?_, _, Files.read_write hwrite⟩
            rw [FilePath.ofText_joinPath (isEntryName_nameFor siteId now attempt), hdirectory]
  simp only [save] at hsave
  split at hsave
  · cases hsave
  · exact hfrom hsave

/-- Pruning a folder comes to an end with all days removed that lie before the age that is kept, and
nothing else, and tells how many. Pruning it again removes nothing; pruning it to another age then
leaves what pruning it to the smaller of the two leaves. A result that was saved at some moment and is
still there goes just if the day of that moment lies before the age that is kept. -/
theorem IsPrunable.exists_prunes (hfolder : folder.IsPrunable files) {keepDays : Nat} {today : Date}
    (hcutoff : today.minusDays? keepDays = some cutoff) :
    ∃ removed after, folder.pruneOlderThan? keepDays today files = some (.ok removed, after) ∧
      folder.Prunes cutoff files after removed ∧
      folder.pruneOlderThan? keepDays today after = some (.ok 0, after) ∧
      (∀ otherDays other, today.minusDays? otherDays = some other → ∃ more most last,
        folder.pruneOlderThan? otherDays today after = some (.ok more, last) ∧
        folder.pruneOlderThan? (min keepDays otherDays) today files = some (.ok most, last)) ∧
      ∀ siteId result now before file saved,
        folder.save siteId result now before = (.ok file, saved) → now.date.inRange = true →
        files.read (FilePath.ofText file.path) = saved.read (FilePath.ofText file.path) →
        (after.has (FilePath.ofText file.path) = false ↔ now.date.day < cutoff.day) := by
  obtain ⟨names, hnodup, hmem, hprune⟩ := hfolder.exists_prune_eq cutoff
  have hprunes := folder.prunes_removeAll hnodup hmem
  have hafter := hfolder.removeAll names
  refine ⟨_, _, ?_, hprunes, ?_, ?_, ?_⟩
  · rw [pruneOlderThan?, hcutoff, Option.map_some, hprune]
  · have hnone (name : String) :
        ¬ folder.Expires cutoff (files.removeAll (names.map folder.entryPath)) name := by
      intro hexpires
      refine hexpires.entry (hprunes.gone name ?_ _ (List.prefix_refl _))
      exact (expires_max_iff (max_self _).symm hmem name).mpr (.inr hexpires)
    rw [pruneOlderThan?, hcutoff, Option.map_some, hafter.prune_eq_of_none hnone]
  · intro otherDays other hother
    obtain ⟨later, -, hlater, hagain⟩ := hafter.exists_prune_eq other
    obtain ⟨latest, hleast, hlatest⟩ := Date.exists_minusDays?_min hcutoff hother
    obtain ⟨all, -, hall, honce⟩ := hfolder.exists_prune_eq latest
    have hsame : files.removeAll ((names ++ later).map folder.entryPath) =
        files.removeAll (all.map folder.entryPath) := by
      refine Files.removeAll_congr fun path => ?_
      simp only [List.mem_map, List.mem_append, hall, expires_max_iff hlatest hmem, hmem, hlater]
    refine ⟨later.length, all.length, files.removeAll (all.map folder.entryPath), ?_, ?_⟩
    · rw [pruneOlderThan?, hother, Option.map_some, hagain, Files.removeAll_removeAll,
        ← List.map_append, hsame]
    · rw [pruneOlderThan?, hleast, Option.map_some, honce]
  · intro siteId result now before file saved hsave hday hkept
    obtain ⟨hpath, content, hread⟩ := exists_read_of_save hday hsave
    rw [hread, hpath] at hkept
    rw [hpath]
    exact has_removeAll_of_read hday hkept hmem

end ResultFolder

/-! ## A folder with days and other entries -/

namespace Rehearsal

/-- Two days that are too old, one of them with a result, the first day that is kept, and two entries
that are no days. -/
def shelf : Files where
  entries :=
    [(["results"], .directory), (["results", "2026-02-12"], .directory),
     (["results", "2026-02-11"], .directory),
     (["results", "2026-02-11", "a.json"], .file "{}".toUTF8),
     (["results", " 2026-1-2"], .directory), (["results", "2026-02-31"], .directory),
     (["results", "README"], .file "days".toUTF8)]

theorem ofText_results : FilePath.ofText results.root = ["results"] := by decide +kernel

theorem isPrunable_shelf : results.IsPrunable shelf where
  table := by
    unfold Files.IsTable
    decide +kernel
  root := .inl (by rw [ofText_results]; rfl)
  days name day hread content hnode := by
    -- The only plain file at the top is no day.
    obtain rfl : name = "README" := by
      rw [ResultFolder.entryPath, ofText_results] at hnode
      by_contra hname
      simp only [shelf, Files.node?, List.singleton_append, List.isEmpty_cons, Bool.false_eq_true,
        if_false] at hnode
      obtain ⟨entry, hentry, hfile⟩ := Option.map_eq_some_iff.mp hnode
      have hfound := List.find?_some hentry
      have hmem := List.mem_of_find?_eq_some hentry
      simp only [List.mem_cons, List.not_mem_nil, or_false] at hmem
      -- Two entries are plain files: one below a day, and one at the top.
      rcases hmem with rfl | rfl | rfl | rfl | rfl | rfl | rfl <;> cases hfile
      · simp at hfound
      · simp only [beq_iff_eq, List.cons.injEq] at hfound
        exact hname hfound.2.1.symm
    cases hread

/-- The days before the oldest one that is kept go, however they are written, and nothing else. -/
theorem exists_prunes_shelf :
    results.IsPrunable shelf ∧
      (Date.ofCivil 2026 3 14).minusDays? 30 = some (Date.ofCivil 2026 2 12) ∧
      (∀ name, results.Expires (Date.ofCivil 2026 2 12) shelf name ↔
        name ∈ ["2026-02-11", " 2026-1-2"]) ∧
      ∃ removed after,
        results.pruneOlderThan? 30 (Date.ofCivil 2026 3 14) shelf = some (.ok removed, after) ∧
        results.Prunes (Date.ofCivil 2026 2 12) shelf after removed ∧ removed = 2 := by
  have hcutoff : (Date.ofCivil 2026 3 14).minusDays? 30 = some (Date.ofCivil 2026 2 12) := by
    decide +kernel
  have hroot : shelf.find (FilePath.ofText results.root) = .ok .directory := by
    rw [ofText_results]
    rfl
  have hentries : shelf.names (FilePath.ofText results.root) =
      .ok ["2026-02-12", "2026-02-11", " 2026-1-2", "2026-02-31", "README"] := by
    rw [ofText_results]
    rfl
  have hold : ["2026-02-12", "2026-02-11", " 2026-1-2", "2026-02-31", "README"].filter
      (ResultFolder.isBefore (Date.ofCivil 2026 2 12)) = ["2026-02-11", " 2026-1-2"] := by
    decide +kernel
  have hexpires (name : String) : results.Expires (Date.ofCivil 2026 2 12) shelf name ↔
      name ∈ ["2026-02-11", " 2026-1-2"] := by
    rw [← ResultFolder.mem_filter_isBefore_iff hroot hentries, hold]
  obtain ⟨removed, after, hprune, hprunes, -⟩ := isPrunable_shelf.exists_prunes hcutoff
  obtain ⟨names, hnodup, hlength, hmem⟩ := hprunes.count
  have hperm : names.Perm ["2026-02-11", " 2026-1-2"] :=
    (List.perm_ext_iff_of_nodup hnodup (by decide)).mpr fun name => (hmem name).trans (hexpires name)
  exact ⟨isPrunable_shelf, hcutoff, hexpires, removed, after, hprune, hprunes,
    hlength.symm.trans hperm.length_eq⟩

end Rehearsal

end SiteWatch
