/-
# Stored results are kept

Every save makes a file of its own, whatever is in the directory of the day, and whatever the name of
the site and the moment are: of one more names than there are entries one is free. No other file is
changed, so that what was stored is read back unchanged after any number of further saves.
-/

import Mathlib.Data.List.Nodup
import Mathlib.Data.Nat.Find
import SiteWatch.Proofs.Scrape.Format
import SiteWatch.Proofs.Store.Files
import SiteWatch.Proofs.Store.Paths
import SiteWatch.Store.ResultFolder

namespace SiteWatch

open Text (joinPath)

/-! ## Names -/

namespace Date

theorem slash_not_mem_padded (width n : Nat) : '/' ∉ (padded width n).toList := by
  intro hslash
  exact absurd (isDigit_of_mem_padded hslash) (by decide)

theorem slash_not_mem_text (date : Date) : '/' ∉ date.text.toList := by
  have hyear : ∀ year, '/' ∉ (yearText year).toList := by
    intro year
    simp only [yearText]
    split
    · exact slash_not_mem_padded _ _
    · split <;> simp [slash_not_mem_padded]
  simp [text, hyear, slash_not_mem_padded]

end Date

theorem Instant.slash_not_mem_stamp (t : Instant) : '/' ∉ t.stamp.toList := by
  simp [stamp, Date.slash_not_mem_text, Date.slash_not_mem_padded]

namespace ResultFolder

/-- The name for a number of earlier attempts, without its ending. -/
def baseFor (siteId : String) (now : Instant) : Nat → String
  | 0 => stem siteId now
  | attempt + 1 => stem siteId now ++ "_" ++ toString (attempt + 1)

theorem nameFor_eq (siteId : String) (now : Instant) (attempt : Nat) :
    nameFor siteId now attempt = baseFor siteId now attempt ++ ".json" := by
  cases attempt with
  | zero => rfl
  | succ attempt => rfl

theorem toList_stem (siteId : String) (now : Instant) :
    (stem siteId now).toList = (Text.fileName siteId).toList ++ '_' :: now.stamp.toList := by
  show (Text.fileName siteId ++ "_" ++ now.stamp).toList = _
  simp

theorem toList_baseFor_succ (siteId : String) (now : Instant) (attempt : Nat) :
    (baseFor siteId now (attempt + 1)).toList =
      (stem siteId now).toList ++ '_' :: Nat.toDigits 10 (attempt + 1) := by
  simp [baseFor]

theorem slash_not_mem_baseFor (siteId : String) (now : Instant) (attempt : Nat) :
    '/' ∉ (baseFor siteId now attempt).toList := by
  have hstem : '/' ∉ (stem siteId now).toList := by
    simp [toList_stem, Text.slash_not_mem_fileName, Instant.slash_not_mem_stamp]
  cases attempt with
  | zero => exact hstem
  | succ attempt =>
      rw [toList_baseFor_succ, List.mem_append, List.mem_cons]
      rintro (hslash | hslash | hslash)
      · exact hstem hslash
      · cases hslash
      · exact absurd (Json.isDigit_of_mem_repr hslash) (by decide)

theorem baseFor_ne_empty (siteId : String) (now : Instant) (attempt : Nat) :
    baseFor siteId now attempt ≠ "" := by
  intro hempty
  have hchars := congrArg String.toList hempty
  cases attempt with
  | zero => simp [baseFor, toList_stem] at hchars
  | succ attempt => simp [toList_baseFor_succ] at hchars

theorem isEntryName_nameFor (siteId : String) (now : Instant) (attempt : Nat) :
    Text.IsEntryName (nameFor siteId now attempt) := by
  rw [nameFor_eq]
  exact Text.isEntryName_json (slash_not_mem_baseFor siteId now attempt)

theorem extension?_nameFor (siteId : String) (now : Instant) (attempt : Nat) :
    Text.extension? (nameFor siteId now attempt) = some "json" := by
  rw [nameFor_eq]
  exact Text.extension?_json (baseFor_ne_empty siteId now attempt)

/-- Every attempt has a name of its own. -/
theorem nameFor_inj {siteId : String} {now : Instant} {attempt other : Nat}
    (hname : nameFor siteId now attempt = nameFor siteId now other) : attempt = other := by
  have hbase : (baseFor siteId now attempt).toList = (baseFor siteId now other).toList := by
    rw [nameFor_eq, nameFor_eq] at hname
    have hchars := congrArg String.toList hname
    rw [String.toList_append, String.toList_append] at hchars
    exact List.append_cancel_right hchars
  cases attempt with
  | zero =>
      cases other with
      | zero => rfl
      | succ other => simp [baseFor] at hbase
  | succ attempt =>
      cases other with
      | zero => simp [baseFor] at hbase
      | succ other =>
          rw [toList_baseFor_succ, toList_baseFor_succ] at hbase
          have hdigits := List.tail_eq_of_cons_eq (List.append_cancel_left hbase)
          rw [← List.append_nil (Nat.toDigits 10 (attempt + 1)),
            ← List.append_nil (Nat.toDigits 10 (other + 1))] at hdigits
          exact (Json.toDigits_append_inj Json.endsNumber_nil Json.endsNumber_nil hdigits).1

/-! ## The first free name -/

section

variable {directory siteId : String} {result : ScrapeResult} {now : Instant} {files : Files}

/-- The path of a file under the name for a number of earlier attempts. -/
def pathFor (directory siteId : String) (now : Instant) (attempt : Nat) : FilePath :=
  FilePath.ofText directory ++ [nameFor siteId now attempt]

theorem ofText_nameFor (directory siteId : String) (now : Instant) (attempt : Nat) :
    FilePath.ofText (joinPath directory (nameFor siteId now attempt)) =
      pathFor directory siteId now attempt :=
  FilePath.ofText_joinPath (isEntryName_nameFor siteId now attempt) directory

/-- Of the names for one more attempts than there are entries, some is free. -/
theorem exists_free (directory siteId : String) (now : Instant) (files : Files) :
    ∃ attempt ≤ files.entries.length, files.has (pathFor directory siteId now attempt) = false := by
  by_contra hnone
  -- All of these names would be entries, and there are more of them than entries.
  have hinjective : Function.Injective (pathFor directory siteId now) := fun first second hsame =>
    nameFor_inj (List.singleton_inj.mp (List.append_cancel_left hsame))
  have hnames := List.nodup_range (n := files.entries.length + 1) |>.map hinjective
  have hsubset : (List.range (files.entries.length + 1)).map (pathFor directory siteId now) ⊆
      files.entries.map Prod.fst := by
    intro path hpath
    obtain ⟨attempt, hattempt, rfl⟩ := List.mem_map.mp hpath
    have hlt := List.mem_range.mp hattempt
    have hhas : files.has (pathFor directory siteId now attempt) = true := by
      by_contra hfree
      exact hnone ⟨attempt, by omega, by simpa using hfree⟩
    obtain ⟨node, hnode⟩ := Files.has_eq_true.mp hhas
    exact (Files.mem_entries_iff (by simp [pathFor])).mpr (Files.node?_ne_none_of_find hnode)
  have hlength := hnames.length_le_of_subset hsubset
  rw [List.length_map, List.length_range, List.length_map] at hlength
  omega

/-- An attempt has the first free name. -/
structure IsFirstFree (directory siteId : String) (now : Instant) (files : Files) (attempt : Nat) :
    Prop where
  free : files.has (pathFor directory siteId now attempt) = false
  taken : ∀ earlier < attempt, files.has (pathFor directory siteId now earlier) = true

theorem exists_isFirstFree (directory siteId : String) (now : Instant) (files : Files) :
    ∃ attempt ≤ files.entries.length, IsFirstFree directory siteId now files attempt := by
  obtain ⟨bound, hbound, hfree⟩ := exists_free directory siteId now files
  have hsome : ∃ attempt, files.has (pathFor directory siteId now attempt) = false := ⟨bound, hfree⟩
  refine ⟨Nat.find hsome, (Nat.find_min' hsome hfree).trans hbound, Nat.find_spec hsome, ?_⟩
  intro earlier hearlier
  simpa using Nat.find_min hsome hearlier

/-- There is no entry under a free name that is short enough. -/
theorem IsFirstFree.node?_eq_none {attempt : Nat} (hfirst : IsFirstFree directory siteId now files attempt)
    (hdirectory : files.find (FilePath.ofText directory) = .ok .directory)
    (hshort : (nameFor siteId now attempt).utf8ByteSize ≤ Files.maxNameBytes) :
    files.node? (pathFor directory siteId now attempt) = none := by
  by_contra hsome
  obtain ⟨node, hnode⟩ := Option.ne_none_iff_exists'.mp hsome
  exact Files.has_eq_false.mp hfirst.free node
    (Files.find_concat_eq_ok.mpr ⟨hdirectory, hshort, hnode⟩)

/-- The search ends at the first free name, however many tries are left for the others. -/
theorem saveFrom_eq {first : Nat} (hfirst : IsFirstFree directory siteId now files first)
    {tries attempt : Nat} (hattempt : attempt ≤ first) (htries : first < attempt + tries) :
    saveFrom directory siteId result now files tries attempt =
      match files.write (pathFor directory siteId now first)
          (stored siteId result now (nameFor siteId now first)).toJson.pretty.toUTF8 with
      | .error fault => (.error (fault.at (joinPath directory (nameFor siteId now first))), files)
      | .ok written => (.ok ⟨joinPath directory (nameFor siteId now first), nameFor siteId now first,
          (stored siteId result now (nameFor siteId now first)).toJson.pretty.toUTF8.size⟩, written) := by
  induction tries generalizing attempt with
  | zero => omega
  | succ tries ih =>
      rw [saveFrom]
      simp only [ofText_nameFor]
      rcases Nat.lt_or_eq_of_le hattempt with hlt | rfl
      · obtain ⟨node, hnode⟩ := Files.has_eq_true.mp (hfirst.taken attempt hlt)
        simp only [hnode]
        exact ih hlt (by omega)
      · cases hfound : files.find (pathFor directory siteId now attempt) with
        | ok node => exact absurd hfound (Files.has_eq_false.mp hfirst.free node)
        | error fault => rfl

end

/-! ## One save -/

/-- What is stored, and when. -/
structure Save where
  siteId : String
  result : ScrapeResult
  now : Instant

namespace Save

/-- The directory for the day of a save. -/
def directory (save : Save) (folder : ResultFolder) : String := folder.dayDirectory save.now.date

/-- The result can be read back from a file, the moment of the save can be shown, and the result is
no longer than a file can be. -/
structure Fits (save : Save) : Prop where
  result : save.result.Fits (Json.maxDepth - 1)
  now : save.now.IsShown
  size : save.result.toJson.pretty.utf8ByteSize < 2 ^ 64

/-- What is written under a name. -/
def stored (save : Save) (name : String) : StoredResult :=
  ResultFolder.stored save.siteId save.result save.now name

/-- A stored result is read back from its bytes. -/
theorem ofDocument_stored {save : Save} (hsave : save.Fits) (name : String) :
    StoredResult.ofDocument (save.stored name).toJson.pretty = .ok (save.stored name) := by
  have hinfo : (save.stored name).saveInfo.Fits := ⟨hsave.size, hsave.now⟩
  have hresult : (save.stored name).result.Fits (125 + 1) := hsave.result
  have hlegible : Json.Legible Json.maxDepth (save.stored name).toJson :=
    StoredResult.legible_toJson hresult hinfo
  simp only [StoredResult.ofDocument, Json.read_pretty hlegible, StoredResult.read_toJson hresult hinfo]

end Save

variable {folder : ResultFolder} {files written : Files} {save : Save} {file : SavedFile}

/-- The system carries out what a save asks of it: the directories down to that of the day can be made,
and there a file can be written under the first name that is free. -/
def CallsSucceed (folder : ResultFolder) (files : Files) (save : Save) : Prop :=
  ∃ ready, files.makeDirectories (FilePath.ofText (save.directory folder)) = .ok ready ∧
    ∀ attempt content, IsFirstFree (save.directory folder) save.siteId save.now ready attempt →
      ∃ written, ready.write (pathFor (save.directory folder) save.siteId save.now attempt) content =
        .ok written

/-- A save succeeds where the directories lead or can be made, and one of its names is free and, like
those before it, short enough. -/
theorem callsSucceed_of_isPassable (free : Nat)
    (hday : files.IsPassable (FilePath.ofText (save.directory folder)))
    (hfree : files.node? (pathFor (save.directory folder) save.siteId save.now free) = none)
    (hshort : ∀ attempt ≤ free,
      (nameFor save.siteId save.now attempt).utf8ByteSize ≤ Files.maxNameBytes) :
    folder.CallsSucceed files save := by
  obtain ⟨ready, hmake, hpaved⟩ := hday.exists_makeDirectories
  have hfound := Files.find_eq_directory hday.names hpaved.nodes
  refine ⟨ready, hmake, fun attempt content hfirst => ?_⟩
  have hle : attempt ≤ free := by
    by_contra hgt
    obtain ⟨node, htaken⟩ := Files.has_eq_true.mp (hfirst.taken free (by omega))
    have haside := Files.not_prefix_of_prefix_parent (nameFor save.siteId save.now free)
      (List.prefix_refl (FilePath.ofText (save.directory folder)))
    exact Files.node?_ne_none_of_find htaken ((hpaved.others _ haside).trans hfree)
  have hnew := hfirst.node?_eq_none hfound (hshort attempt hle)
  refine ⟨_, Files.write_concat_eq_ok.mpr ⟨hfound, hshort attempt hle, ?_, rfl⟩⟩
  rw [← pathFor, hnew]
  exact nofun

/-- The file of a save is there, and holds what the save has written. -/
structure Stands (folder : ResultFolder) (files : Files) (save : Save) (file : SavedFile) : Prop where
  path : file.path = joinPath (save.directory folder) file.name
  own : FilePath.ofText file.path = FilePath.ofText (save.directory folder) ++ [file.name]
  json : Text.extension? file.name = some "json"
  content : files.read (FilePath.ofText file.path) =
    .ok (save.stored file.name).toJson.pretty.toUTF8

namespace Stands

theorem read (hstands : folder.Stands files save file) (hsave : save.Fits) :
    ResultFolder.read file.path files = .ok (save.stored file.name) := by
  have htext : String.fromUTF8? (save.stored file.name).toJson.pretty.toUTF8 =
      some (save.stored file.name).toJson.pretty := dif_pos (String.isValidUTF8 _)
  simp only [ResultFolder.read, hstands.content, htext, Save.ofDocument_stored hsave]

/-- It is a name in the directory of its day. -/
theorem find_eq (hstands : folder.Stands files save file) :
    files.find (FilePath.ofText (save.directory folder)) = .ok .directory ∧
      files.node? (FilePath.ofText (save.directory folder) ++ [file.name]) ≠ none := by
  have hfound := Files.read_eq_ok.mp hstands.content
  rw [hstands.own] at hfound
  exact ⟨(Files.find_concat_eq_ok.mp hfound).1, Files.node?_ne_none_of_find hfound⟩

/-- It stays where whatever is found is found later. -/
theorem after (hstands : folder.Stands files save file)
    (hkept : ∀ path node, files.find path = .ok node → written.find path = .ok node) :
    folder.Stands written save file where
  path := hstands.path
  own := hstands.own
  json := hstands.json
  content := Files.read_eq_ok.mpr (hkept _ _ (Files.read_eq_ok.mp hstands.content))

end Stands

/-- A save has made a new file in the directory of the day. Whatever was there before is there as it
was, and apart from the file and the directories above it nothing has come. Since the number in the name
is below the number of entries, a type that can count the entries can count the attempts. -/
structure Adds (folder : ResultFolder) (files : Files) (save : Save) (file : SavedFile)
    (written : Files) : Prop where
  outcome : folder.save save.siteId save.result save.now files = (.ok file, written)
  stands : folder.Stands written save file
  name : ∃ attempt < written.entries.length, file.name = nameFor save.siteId save.now attempt
  new : files.has (FilePath.ofText file.path) = false
  kept : ∀ path node, files.find path = .ok node → written.find path = .ok node
  others : ∀ path, path ≠ FilePath.ofText file.path →
    ¬ path <+: FilePath.ofText (save.directory folder) → written.node? path = files.node? path
  table : files.IsTable → written.IsTable

/-- Where the directories are made, a save writes the file of the first free name. -/
theorem save_eq {ready : Files} {attempt : Nat}
    (hmake : files.makeDirectories (FilePath.ofText (save.directory folder)) = .ok ready)
    (hfirst : IsFirstFree (save.directory folder) save.siteId save.now ready attempt)
    (hattempt : attempt ≤ ready.entries.length)
    (hwrite : ready.write (pathFor (save.directory folder) save.siteId save.now attempt)
      (save.stored (nameFor save.siteId save.now attempt)).toJson.pretty.toUTF8 = .ok written) :
    folder.save save.siteId save.result save.now files =
      (.ok ⟨joinPath (save.directory folder) (nameFor save.siteId save.now attempt),
        nameFor save.siteId save.now attempt,
        (save.stored (nameFor save.siteId save.now attempt)).toJson.pretty.toUTF8.size⟩, written) := by
  rw [Save.stored] at hwrite
  rw [Save.directory] at hmake hfirst hwrite
  rw [ResultFolder.save, hmake]
  show saveFrom _ _ _ _ _ _ _ = _
  rw [saveFrom_eq hfirst (Nat.zero_le attempt) (by omega), hwrite]
  rfl

theorem exists_adds (hcalls : folder.CallsSucceed files save) :
    ∃ file written, folder.Adds files save file written := by
  obtain ⟨ready, hmake, hwrites⟩ := hcalls
  obtain ⟨hpath, hpaved⟩ := Files.paves_of_makeDirectories hmake
  obtain ⟨attempt, hattempt, hfirst⟩ :=
    exists_isFirstFree (save.directory folder) save.siteId save.now ready
  obtain ⟨written, hwrite⟩ := hwrites attempt
    (save.stored (nameFor save.siteId save.now attempt)).toJson.pretty.toUTF8 hfirst
  have hsave := save_eq hmake hfirst hattempt hwrite
  have hread := Files.read_write hwrite
  have hown := ofText_nameFor (save.directory folder) save.siteId save.now attempt
  obtain ⟨hdirectory, hshort, -, rfl⟩ := Files.write_concat_eq_ok.mp hwrite
  have hnew := hfirst.node?_eq_none hdirectory hshort
  refine ⟨_, _, {
    outcome := hsave
    stands := ⟨rfl, hown, extension?_nameFor _ _ _, ?content⟩
    name := ⟨attempt, ?count, rfl⟩
    new := ?new
    kept := ?kept
    others := ?others
    table := fun hfiles => (hfiles.makeBelow hmake).set _ _ }⟩
  case content =>
    rw [hown]
    exact hread
  case count =>
    have hmissing : pathFor (save.directory folder) save.siteId save.now attempt ∉
        ready.entries.map Prod.fst := by
      rw [Files.mem_entries_iff (by simp [pathFor])]
      exact not_not_intro hnew
    rw [← pathFor, Files.length_entries_set hmissing]
    omega
  case new =>
    rw [hown, Files.has_eq_false]
    intro node hfound
    exact Files.node?_ne_none_of_find (hpaved.find_eq hpath hfound) hnew
  case kept =>
    intro path node hfound
    exact Files.find_set_of_new hnew (hpaved.find_eq hpath hfound)
  case others =>
    intro path hother haside
    rw [hown] at hother
    rw [← pathFor, Files.node?_set_of_ne hother]
    exact hpaved.others path haside

/-! ## One save after another -/

/-- Results are stored one after another. -/
def saveAll (folder : ResultFolder) : List Save → Files → List (Outcome SavedFile) × Files
  | [], files => ([], files)
  | save :: rest, files =>
    let (outcome, after) := folder.save save.siteId save.result save.now files
    let (outcomes, last) := folder.saveAll rest after
    (outcome :: outcomes, last)

/-- Every one of the saves adds a file to what those before it have left. -/
inductive AddsAll (folder : ResultFolder) : Files → List Save → List SavedFile → Files → Prop where
  | nil (files : Files) : AddsAll folder files [] [] files
  | cons {files between written : Files} {save : Save} {file : SavedFile} {saves : List Save}
      {saved : List SavedFile} (hadds : folder.Adds files save file between)
      (hrest : AddsAll folder between saves saved written) :
      AddsAll folder files (save :: saves) (file :: saved) written

variable {saves : List Save} {saved : List SavedFile}

theorem exists_addsAll (hcalls : ∀ before save after, saves = before ++ save :: after →
      folder.CallsSucceed (folder.saveAll before files).2 save) :
    ∃ saved, (folder.saveAll saves files).1 = saved.map .ok ∧
      folder.AddsAll files saves saved (folder.saveAll saves files).2 := by
  induction saves generalizing files with
  | nil => exact ⟨[], rfl, .nil files⟩
  | cons save rest ih =>
      obtain ⟨file, between, hadds⟩ := exists_adds (hcalls [] save rest rfl)
      have hstep : ∀ saves, folder.saveAll (save :: saves) files =
          (.ok file :: (folder.saveAll saves between).1, (folder.saveAll saves between).2) := by
        intro saves
        have houtcome : folder.save save.siteId save.result save.now files = (.ok file, between) :=
          hadds.outcome
        simp only [saveAll, houtcome]
      obtain ⟨saved, houtcomes, hall⟩ := ih fun before other after hsplit => by
        have hcall := hcalls (save :: before) other after (by rw [hsplit, List.cons_append])
        rwa [hstep] at hcall
      refine ⟨file :: saved, ?_, ?_⟩
      · rw [hstep, houtcomes, List.map_cons]
      · rw [hstep]
        exact .cons hadds hall

/-- What was there before is there after all saves. -/
theorem AddsAll.kept (hall : folder.AddsAll files saves saved written) {path : FilePath}
    {node : FileNode} (hfound : files.find path = .ok node) : written.find path = .ok node := by
  induction hall with
  | nil => exact hfound
  | cons hadds _ ih => exact ih (hadds.kept path node hfound)

/-- None of the files was there before. -/
theorem AddsAll.new (hall : folder.AddsAll files saves saved written) :
    ∀ file ∈ saved, files.has (FilePath.ofText file.path) = false := by
  induction hall with
  | nil => simp
  | cons hadds _ ih =>
      intro other hother
      rcases List.mem_cons.mp hother with rfl | hother
      · exact hadds.new
      · rw [Files.has_eq_false]
        intro node hfound
        exact Files.has_eq_false.mp (ih other hother) node (hadds.kept _ node hfound)

/-- No two saves share a file. -/
theorem AddsAll.nodup (hall : folder.AddsAll files saves saved written) :
    (saved.map fun file => FilePath.ofText file.path).Nodup := by
  induction hall with
  | nil => exact List.nodup_nil
  | cons hadds hrest ih =>
      rw [List.map_cons, List.nodup_cons]
      refine ⟨fun hshared => ?_, ih⟩
      obtain ⟨other, hother, hpath⟩ := List.mem_map.mp hshared
      have hfound := Files.read_eq_ok.mp hadds.stands.content
      exact Files.has_eq_false.mp (hrest.new other hother) _ (hpath ▸ hfound)

/-- The file of every save is there after all of them. -/
theorem AddsAll.forall₂_stands (hall : folder.AddsAll files saves saved written) :
    List.Forall₂ (folder.Stands written) saves saved := by
  induction hall with
  | nil => exact .nil
  | cons hadds hrest ih => exact .cons (hadds.stands.after fun _ _ => hrest.kept) ih

theorem AddsAll.table (hall : folder.AddsAll files saves saved written) (hfiles : files.IsTable) :
    written.IsTable := by
  induction hall with
  | nil => exact hfiles
  | cons hadds _ ih => exact ih (hadds.table hfiles)

/-! ## The results of a day -/

variable {day : Date} {names : List String}

/-- The results of a day are the entries of its directory that are JSON documents by their names, in
the order of the names. -/
structure Lists (folder : ResultFolder) (day : Date) (files : Files) (names : List String) : Prop where
  listDay : folder.listDay day files = .ok (names.map (joinPath (folder.dayDirectory day)))
  sorted : names.Pairwise (· ≤ ·)
  entries : ∀ name, name ∈ names ↔ Text.extension? name = some "json" ∧
    files.node? (FilePath.ofText (folder.dayDirectory day) ++ [name]) ≠ none
  nodup : files.IsTable → names.Nodup

theorem exists_lists
    (hday : files.find (FilePath.ofText (folder.dayDirectory day)) = .ok .directory) :
    ∃ names, folder.Lists day files names := by
  obtain ⟨names, hnames⟩ := Files.exists_names hday
  refine ⟨(names.filter fun name => Text.extension? name = some "json").mergeSort
    fun a b => decide (a ≤ b), ?_, ?_, fun name => ?_, fun hfiles => ?_⟩
  · simp only [ResultFolder.listDay, Files.documents, hnames, Except.map]
  · refine @Files.pairwise_documents files (folder.dayDirectory day) _ ?_
    simp only [Files.documents, hnames]
  · rw [List.mem_mergeSort, List.mem_filter, Files.mem_names_iff hnames, and_comm, decide_eq_true_eq]
  · exact (List.mergeSort_perm _ _).nodup_iff.mpr ((Files.nodup_names hnames hfiles).filter _)

theorem listDay_of_missing
    (hday : files.find (FilePath.ofText (folder.dayDirectory day)) = .error .notFound) :
    folder.listDay day files = .ok [] := by
  simp only [ResultFolder.listDay, Files.documents, Files.names, hday]
  rfl

/-! ## All results -/

/-- Nothing that was stored is lost. The saves have made one file after another, each of its own; what
could be read before can be read as it was, every result is read from its file as it was saved, and is
listed with the documents of its day. -/
structure Keeps (folder : ResultFolder) (files : Files) (saves : List Save) (saved : List SavedFile)
    (last : Files) : Prop where
  added : folder.AddsAll files saves saved last
  nodup : (saved.map fun file => FilePath.ofText file.path).Nodup
  kept : ∀ path content, files.read path = .ok content → last.read path = .ok content
  stands : List.Forall₂ (folder.Stands last) saves saved
  read : List.Forall₂ (fun save file =>
    ResultFolder.read file.path last = .ok (save.stored file.name)) saves saved
  directories : ∀ save ∈ saves,
    last.find (FilePath.ofText (save.directory folder)) = .ok .directory
  listed : ∀ day, last.find (FilePath.ofText (folder.dayDirectory day)) = .ok .directory →
    ∃ names, folder.Lists day last names ∧
      List.Forall₂ (fun save file => save.now.date = day → file.name ∈ names) saves saved
  missing : ∀ day, last.find (FilePath.ofText (folder.dayDirectory day)) = .error .notFound →
    folder.listDay day last = .ok []
  table : files.IsTable → last.IsTable

theorem AddsAll.keeps (hall : folder.AddsAll files saves saved written)
    (hfits : ∀ save ∈ saves, save.Fits) : folder.Keeps files saves saved written where
  added := hall
  nodup := hall.nodup
  kept path content hread := Files.read_eq_ok.mpr (hall.kept (Files.read_eq_ok.mp hread))
  stands := hall.forall₂_stands
  read := by
    have hboth := (List.forall₂_and_left saves saved).mpr ⟨hfits, hall.forall₂_stands⟩
    exact hboth.imp fun save file hstands => hstands.2.read hstands.1
  directories := by
    have hboth : List.Forall₂ (fun save file =>
        written.find (FilePath.ofText (save.directory folder)) = .ok .directory ∧
          folder.Stands written save file) saves saved :=
      hall.forall₂_stands.imp fun save file hstands => ⟨hstands.find_eq.1, hstands⟩
    exact ((List.forall₂_and_left saves saved).mp hboth).1
  listed := by
    intro day hday
    obtain ⟨names, hlists⟩ := exists_lists hday
    refine ⟨names, hlists, hall.forall₂_stands.imp ?_⟩
    rintro save file hstands rfl
    exact (hlists.entries file.name).mpr ⟨hstands.json, hstands.find_eq.2⟩
  missing _ := listDay_of_missing
  table := hall.table

/-- Results can be stored one after another, of whatever sites and at whatever moments: every save comes
to an end with a file of its own, and none of them is lost. -/
theorem exists_keeps (hfits : ∀ save ∈ saves, save.Fits)
    (hcalls : ∀ before save after, saves = before ++ save :: after →
      folder.CallsSucceed (folder.saveAll before files).2 save) :
    ∃ saved, (folder.saveAll saves files).1 = saved.map .ok ∧
      folder.Keeps files saves saved (folder.saveAll saves files).2 := by
  obtain ⟨saved, houtcomes, hall⟩ := exists_addsAll hcalls
  exact ⟨saved, houtcomes, hall.keeps hfits⟩

end ResultFolder

namespace Rehearsal

open ResultFolder

/-- A result with data of all kinds, of a moment in a leap second. -/
def concerts : ScrapeResult where
  success := true
  url := "https://example.com/"
  data := [("count", .ofNat 2), ("titles", .array [.string "say \"hello\"", .null])]
  metadata := { finalUrl := some "https://example.com/", robotsTxtStatus := some .allowed }
  timestamp := ⟨1483228799, 1500000000⟩

/-- Results of two sites at the same moment. -/
def spaced : Save := ⟨"a b", concerts, ⟨1773491400, 0⟩⟩

/-- The other of the two sites. In file names they have one name. -/
def underlined : Save := ⟨"a_b", concerts, ⟨1773491400, 0⟩⟩

def twins : List Save := [spaced, underlined]

theorem fits_twins : ∀ save ∈ twins, save.Fits := by
  have hdata : Json.Legible (Json.maxDepth - 1) (.object concerts.data) := by
    refine .object ?_
    simp only [concerts, List.forall_mem_cons, List.not_mem_nil, false_implies, implies_true, and_true]
    refine ⟨.ofNat (by decide) (Nat.le_refl 64), .array ?_⟩
    simp only [List.forall_mem_cons, List.not_mem_nil, false_implies, implies_true, and_true]
    exact ⟨.string _, .null⟩
  have hconcerts : concerts.Fits (Json.maxDepth - 1) :=
    ⟨⟨by decide, by decide, by decide, by decide, by simp [concerts]⟩,
      ⟨by decide, by decide, by decide⟩, rfl, hdata⟩
  have hsize : concerts.toJson.pretty.utf8ByteSize < 2 ^ 64 := by decide +kernel
  have hnow : Instant.IsShown ⟨1773491400, 0⟩ := ⟨by decide, by decide, by decide⟩
  simp only [twins, List.forall_mem_cons, List.not_mem_nil, false_implies, implies_true, and_true]
  exact ⟨⟨hconcerts, hnow, hsize⟩, ⟨hconcerts, hnow, hsize⟩⟩

/-- A folder for results. -/
def results : ResultFolder := ⟨"results"⟩

theorem isPassable_results :
    ∀ save ∈ twins, Files.IsPassable {} (FilePath.ofText (save.directory results)) := by
  intro save hsave
  refine ⟨by simp [Files.node?], ?_⟩
  revert save
  decide +kernel

theorem short_twins : ∀ save ∈ twins, ∀ attempt ≤ 1,
    (nameFor save.siteId save.now attempt).utf8ByteSize ≤ Files.maxNameBytes := by
  decide +kernel

/-- Of two names at most one is the name that the first of the twins has got. -/
theorem exists_free_of_adds {file : SavedFile} {between : Files}
    (hadds : results.Adds {} spaced file between) :
    ∃ free ≤ 1, between.node?
      (pathFor (underlined.directory results) underlined.siteId underlined.now free) = none := by
  have hfree : ∀ free, file.name ≠ nameFor underlined.siteId underlined.now free →
      between.node? (pathFor (underlined.directory results) underlined.siteId underlined.now free) =
        none := by
    intro free hname
    have haside := Files.not_prefix_of_prefix_parent
      (nameFor underlined.siteId underlined.now free)
      (List.prefix_refl (FilePath.ofText (spaced.directory results)))
    refine (hadds.others _ ?_ haside).trans (by simp [Files.node?])
    intro hsame
    have hlast := List.append_cancel_left (hsame.trans hadds.stands.own)
    exact hname (List.singleton_inj.mp hlast).symm
  by_cases hname : file.name = nameFor underlined.siteId underlined.now 0
  · refine ⟨1, Nat.le_refl 1, hfree 1 ?_⟩
    rw [hname]
    exact fun hsame => absurd (nameFor_inj hsame) (by decide)
  · exact ⟨0, by decide, hfree 0 hname⟩

theorem callsSucceed_twins : ∀ before save after, twins = before ++ save :: after →
    results.CallsSucceed (results.saveAll before {}).2 save := by
  have hfirst : results.CallsSucceed {} spaced :=
    callsSucceed_of_isPassable 0 (isPassable_results spaced (by simp [twins]))
      (by simp [Files.node?, pathFor]) fun attempt hattempt =>
        short_twins spaced (by simp [twins]) attempt (hattempt.trans (Nat.zero_le 1))
  intro before save after hsplit
  rcases before with _ | ⟨first, _ | ⟨second, more⟩⟩
  · obtain ⟨rfl, -⟩ : spaced = save ∧ _ := List.cons.inj hsplit
    exact hfirst
  · obtain ⟨rfl, hrest⟩ : spaced = first ∧ _ := List.cons.inj hsplit
    obtain ⟨rfl, -⟩ : underlined = save ∧ _ := List.cons.inj hrest
    obtain ⟨file, between, hadds⟩ := exists_adds hfirst
    have hstate : (results.saveAll [spaced] {}).2 = between := by
      have houtcome : results.save spaced.siteId spaced.result spaced.now {} = (.ok file, between) :=
        hadds.outcome
      simp only [saveAll, houtcome]
    rw [hstate]
    obtain ⟨free, hle, hfree⟩ := exists_free_of_adds hadds
    exact callsSucceed_of_isPassable free (Files.isPassable_of_find hadds.stands.find_eq.1) hfree
      fun attempt hattempt =>
        short_twins underlined (by simp [twins]) attempt (hattempt.trans hle)
  · have hlength := congrArg List.length hsplit
    simp [twins] at hlength

/-- Two sites with one name in file names, at the same moment: both results are kept. -/
theorem exists_keeps_of_same_name :
    Text.fileName spaced.siteId = Text.fileName underlined.siteId ∧
    (∀ save ∈ twins, save.Fits) ∧
    (∀ before save after, twins = before ++ save :: after →
      results.CallsSucceed (results.saveAll before {}).2 save) ∧
    ∃ first second last, results.saveAll twins {} = ([.ok first, .ok second], last) ∧
      first.path ≠ second.path ∧
      ResultFolder.read first.path last = .ok (spaced.stored first.name) ∧
      ResultFolder.read second.path last = .ok (underlined.stored second.name) := by
  refine ⟨by decide +kernel, fits_twins, callsSucceed_twins, ?_⟩
  obtain ⟨saved, houtcomes, hkeeps⟩ := exists_keeps fits_twins callsSucceed_twins
  obtain ⟨first, rest, hfirst, hrest, rfl⟩ := List.forall₂_cons_left_iff.mp hkeeps.read
  obtain ⟨second, none, hsecond, hnone, rfl⟩ := List.forall₂_cons_left_iff.mp hrest
  obtain rfl := List.forall₂_nil_left_iff.mp hnone
  refine ⟨first, second, _, Prod.ext houtcomes rfl, ?_, hfirst, hsecond⟩
  intro hsame
  have hnodup := hkeeps.nodup
  simp [hsame] at hnodup

end Rehearsal

end SiteWatch
