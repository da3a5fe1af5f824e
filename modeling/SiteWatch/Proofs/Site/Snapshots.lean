/-
# Sites answered from snapshots

The sites of a directory are those of its documents that pass their checks, in the order of the
documents, and of several with one id the first. While the documents change between the calls on a
folder, its answers do not: they come from the snapshot of the last reload that succeeded, and before
any has, from that of the first question that could be answered.
-/

import SiteWatch.Proofs.Store.Files
import SiteWatch.Site.Folder

namespace SiteWatch

/-! ## The sites of a directory -/

namespace Site

theorem foldl_addNew_reverse (sites found : List Site) :
    found.foldl addNew sites.reverse =
      List.eraseDupsBy.loop (fun site other => site.id == other.id) found sites := by
  induction found generalizing sites with
  | nil => rfl
  | cons site rest ih =>
      have hany : sites.reverse.any (·.id == site.id) = sites.any (site.id == ·.id) := by
        rw [List.any_reverse]
        exact congrArg sites.any (funext fun other => Bool.beq_comm)
      rw [List.foldl_cons, addNew, hany, List.eraseDupsBy.loop]
      cases sites.any (site.id == ·.id) with
      | true => exact ih sites
      | false => simpa using ih (site :: sites)

/-- Sites that are added one after another are added once for each id. -/
theorem foldl_addNew (found : List Site) :
    found.foldl addNew [] = found.eraseDupsBy fun site other => site.id == other.id :=
  foldl_addNew_reverse [] found

end Site

namespace SiteFolder

/-- The sites of a folder are those that its checks accept, of each id the first, in the order of
the paths of the documents. -/
structure Loads (folder : SiteFolder) (files : Files) : Prop where
  sites : folder.load files = (folder.check files).map fun checks =>
    (checks.filterMap (·.outcome.toOption)).eraseDupsBy fun site other => site.id == other.id
  sorted : ∀ checks, folder.check files = .ok checks →
    ∃ names : List String, names.Pairwise (· ≤ ·) ∧
      checks.map (·.path) = names.map (Text.joinPath folder.directory)

theorem loads (folder : SiteFolder) (files : Files) : folder.Loads files where
  sites := by
    unfold load check
    cases files.documents folder.directory with
    | error cause => rfl
    | ok names =>
        refine congrArg Except.ok ?_
        beta_reduce
        rw [← Site.foldl_addNew, List.filterMap_map, List.foldl_filterMap]
        refine congrArg (fun add => names.foldl add []) (funext₂ fun sites name => ?_)
        simp only [Function.comp]
        cases Site.load (Text.joinPath folder.directory name) files <;> rfl
  sorted checks hchecks := by
    unfold check at hchecks
    cases hnames : files.documents folder.directory with
    | error cause =>
        rw [hnames] at hchecks
        cases hchecks
    | ok names =>
        rw [hnames] at hchecks
        cases hchecks
        exact ⟨names, Files.pairwise_documents hnames, by simp⟩

end SiteFolder

/-! ## Calls -/

/-- A call on a folder of sites. -/
inductive SiteCall where
  | list
  | resolve (url : Url)
  | reload

/-- A call, with the files as they are at its time. -/
structure SiteTurn where
  call : SiteCall
  files : Files

namespace SiteTurn

/-- The sites that a reload has found. -/
def reloaded? (directory : String) (turn : SiteTurn) : Option (List Site) :=
  match turn.call with
  | .reload => (SiteFolder.load { directory } turn.files).toOption
  | .list | .resolve _ => none

/-- The sites that a question has found if it had to look for them. -/
def looked? (directory : String) (turn : SiteTurn) : Option (List Site) :=
  match turn.call with
  | .reload => none
  | .list | .resolve _ => (SiteFolder.load { directory } turn.files).toOption

end SiteTurn

namespace SiteFolder

/-- The folder that a call leaves behind. -/
def after (folder : SiteFolder) (turn : SiteTurn) : SiteFolder :=
  match turn.call with
  | .list => (folder.current turn.files).2
  | .resolve url => (folder.resolve turn.files url).2
  | .reload => (folder.reload turn.files).2

/-- The snapshot that calls on a folder leave behind: that of the last reload that found sites, or
else that of the first question that did. -/
def snapshotAfter (directory : String) (turns : List SiteTurn) : Option (List Site) :=
  (turns.reverse.findSome? (SiteTurn.reloaded? directory)).or
    (turns.findSome? (SiteTurn.looked? directory))

/-- A reload that finds sites replaces the snapshot, and a question that does takes the first. -/
theorem after_eq (folder : SiteFolder) (turn : SiteTurn) :
    folder.after turn =
      { folder with
        snapshot := (turn.reloaded? folder.directory).or
          (folder.snapshot.or (turn.looked? folder.directory)) } := by
  obtain ⟨directory, snapshot⟩ := folder
  obtain ⟨call, files⟩ := turn
  have hload : load ⟨directory, snapshot⟩ files = load { directory } files := rfl
  cases call with
  | reload =>
      simp only [after, reload, SiteTurn.reloaded?, SiteTurn.looked?, hload]
      cases load { directory } files <;> simp [Except.toOption]
  | list | resolve =>
      simp only [after, resolve, current, SiteTurn.reloaded?, SiteTurn.looked?]
      cases snapshot with
      | some sites => simp
      | none => cases load { directory } files <;> simp [Except.toOption]

theorem snapshotAfter_append (directory : String) (turns : List SiteTurn) (turn : SiteTurn) :
    snapshotAfter directory (turns ++ [turn]) =
      (turn.reloaded? directory).or
        ((snapshotAfter directory turns).or (turn.looked? directory)) := by
  simp only [snapshotAfter, List.reverse_append, List.reverse_singleton, List.singleton_append,
    List.findSome?_append, List.findSome?_singleton, Option.or_assoc]
  cases hreloaded : turn.reloaded? directory <;> simp [hreloaded]

/-- After any calls a folder holds the snapshot that they leave behind. -/
theorem foldl_after (directory : String) (turns : List SiteTurn) :
    turns.foldl after { directory } = ⟨directory, snapshotAfter directory turns⟩ := by
  induction turns using List.reverseRecOn with
  | nil => rfl
  | append_singleton turns turn ih =>
      rw [List.foldl_append, ih, List.foldl_cons, List.foldl_nil, after_eq, snapshotAfter_append]

/-! ## Answers -/

/-- A folder answers from a snapshot, and as long as there is none, from the sites that it finds. -/
structure AnswersFrom (folder : SiteFolder) (directory : String) (snapshot : Option (List Site)) :
    Prop where
  directory : folder.directory = directory
  loads : ∀ files, folder.Loads files
  list : ∀ files, (folder.current files).1 = snapshot.elim (folder.load files) .ok
  resolve : ∀ files url, (folder.resolve files url).1 =
    (snapshot.elim (folder.load files) .ok).map (Site.bestFor? · url)
  reload : ∀ files, (folder.reload files).1 = (folder.load files).map List.length
  /-- A reload that fails changes nothing. -/
  failed : ∀ files cause, (folder.reload files).1 = .error cause → (folder.reload files).2 = folder

theorem answersFrom (folder : SiteFolder) :
    folder.AnswersFrom folder.directory folder.snapshot := by
  have hlist : ∀ files,
      (folder.current files).1 = folder.snapshot.elim (folder.load files) .ok := by
    intro files
    unfold current
    cases folder.snapshot with
    | some sites => rfl
    | none => cases folder.load files <;> rfl
  exact {
    directory := rfl
    loads := folder.loads
    list := hlist
    resolve := fun files url => congrArg (Except.map (Site.bestFor? · url)) (hlist files)
    reload := fun files => by
      unfold SiteFolder.reload
      cases folder.load files <;> rfl
    failed := fun files cause hfailed => by
      unfold SiteFolder.reload at hfailed ⊢
      cases hload : folder.load files with
      | error cause => rfl
      | ok sites =>
          rw [hload] at hfailed
          cases hfailed }

/-- Whatever is called on a folder and however its files change meanwhile, it answers from the
snapshot of the last reload that found sites, or else of the first question that did. -/
theorem answersFrom_foldl_after (directory : String) (turns : List SiteTurn) :
    (turns.foldl after { directory }).AnswersFrom directory (snapshotAfter directory turns) := by
  rw [foldl_after]
  exact answersFrom ⟨directory, snapshotAfter directory turns⟩

end SiteFolder

end SiteWatch
