/-
# Commands on the register

What each command does to the file of a register: one that registers a site writes what it read with
that one registration replaced or added, one that fails leaves the file alone, and whatever a command
is about, files that are in order stay in order.
-/

import SiteWatch.Proofs.CommandLine.Tasks
import SiteWatch.Proofs.Schedule.Guarding
import SiteWatch.Proofs.Scrape.LiveFiles
import SiteWatch.Proofs.Store.ProperRegister

namespace SiteWatch

/-- The numbers of a site that is loaded fit their types. -/
theorem Site.fits_of_load {path : String} {files : Files} {site : Site}
    (hload : Site.load path files = .ok site) : site.Fits := by
  have hparse : ∃ text, Site.parse text = .ok site := by
    unfold Site.load at hload
    split at hload
    · cases hload
    · split at hload
      · cases hload
      · exact ⟨_, hload⟩
  obtain ⟨text, htext⟩ := hparse
  unfold Site.parse at htext
  split at htext
  · cases htext
  · simp only [Site.ofDocument] at htext
    split at htext
    · cases htext
    · split at htext
      · cases htext
      · rename_i read hread
        split at htext
        · cases htext
        · cases htext
          exact Site.fits_of_read hread

theorem Bookkeeping.fits_new : ({} : Bookkeeping).Fits :=
  ⟨by simp, by simp, by simp, by decide, by decide⟩

end SiteWatch

namespace SiteWatch.CommandLine

open StoreLayout (registerName)

variable {ν : Type}

namespace Invocation

variable {i : Invocation} {desk : Desk ν}

/-- The path of the register of a command. -/
def registerPath (i : Invocation) : FilePath := i.layout.registerPath

theorem ofText_register_path (i : Invocation) :
    FilePath.ofText i.register.path = FilePath.ofText i.layout.dataDir ++ [registerName] :=
  i.layout.ofText_registrationsFile

theorem onlyLooks_openStore (i : Invocation) : OnlyLooks (ν := ν) i.openStore :=
  .bind .files fun _ => .bind (.orEnd (by simp) _) fun _ => .pure _

theorem onlyLooks_openEngine (i : Invocation) : OnlyLooks (ν := ν) i.openEngine :=
  .orEnd (by simp) _

/-! ## Registering a site -/

theorem onlyLooks_checkTarget (site : Site) (address : String) :
    OnlyLooks (ν := ν) (checkTarget site address) := by
  unfold checkTarget
  split
  · exact .throw ⟨_, rfl⟩
  · split
    · exact .pure _
    · exact .throw ⟨_, rfl⟩

theorem covers_of_checkTarget {site : Site} {address : String}
    (hcheck : (checkTarget site address).run.run desk = (.ok (), desk)) :
    ∃ url, Url.parse address = .ok url ∧ site.covers url = true := by
  unfold checkTarget at hcheck
  split at hcheck
  · cases hcheck
  · rename_i url hurl
    split at hcheck
    · exact ⟨url, hurl, ‹_›⟩
    · cases hcheck

theorem onlyLooks_checkTargets (site : Site) (targetUrls : List String) :
    OnlyLooks (ν := ν) (targetUrls.forM (checkTarget site)) := by
  induction targetUrls with
  | nil => exact .pure _
  | cons address rest ih => exact .bind (onlyLooks_checkTarget site address) fun _ => ih

theorem covers_of_checkTargets {site : Site} {targetUrls : List String}
    (hcheck : (targetUrls.forM (checkTarget site)).run.run desk = (.ok (), desk)) :
    ∀ address ∈ targetUrls, ∃ url, Url.parse address = .ok url ∧ site.covers url = true := by
  induction targetUrls with
  | nil => simp
  | cons address rest ih =>
      change ((checkTarget site address) >>= fun _ => rest.forM (checkTarget site)).run.run desk = _
        at hcheck
      rw [run_bind] at hcheck
      cases hfirst : (checkTarget site address).run.run desk with
      | mk outcome later =>
          have hlater : later = desk := by
            have hlooks := (onlyLooks_checkTarget site address desk).1
            rwa [hfirst] at hlooks
          subst hlater
          rw [hfirst] at hcheck
          cases outcome with
          | ok => exact List.forall_mem_cons.mpr ⟨covers_of_checkTarget hfirst, ih hcheck⟩
          | error completed => cases hcheck

/-- The registration that a command makes of a site, given the one that is known. -/
def registrationFor (site : Site) (known : Option Registration) (targetUrls : List String)
    (checkIntervalDays : Nat) (priority : Int) : Registration :=
  { registrationOf site known with targetUrls, checkIntervalDays, priority }

@[simp]
theorem registrationFor_site (site : Site) (known : Option Registration) (targetUrls : List String)
    (checkIntervalDays : Nat) (priority : Int) :
    (registrationFor site known targetUrls checkIntervalDays priority).site = site := by
  cases known <;> rfl

/-- A site has been registered: its document was read, its addresses were checked, and its
registration is written with what else there was. -/
structure Registers (i : Invocation) (document : String) (targetUrls : List String)
    (checkIntervalDays : Nat) (priority : Int) (files after : Files) (site : Site)
    (register : Register) : Prop where
  load : Site.load document files = .ok site
  covers : ∀ address ∈ targetUrls, ∃ url, Url.parse address = .ok url ∧ site.covers url = true
  read : i.register.read files = .ok register
  write : i.register.write (register.upsert (registrationFor site (register.get? site.id) targetUrls
    checkIntervalDays priority)) files = (.ok (), after)

/-- The file of the register is as it was, and every other register is spared. -/
structure LeavesAlone (i : Invocation) (files after : Files) : Prop where
  own : after.content? i.registerPath = files.content? i.registerPath
  others : ∀ parent, Files.Spares (parent ++ [registerName]) files after

theorem LeavesAlone.refl (i : Invocation) (files : Files) : i.LeavesAlone files files :=
  ⟨rfl, fun _ => .refl _ files⟩

/-- A site is registered, or the command fails and leaves the file of the register alone. -/
theorem meets_addRegistration (i : Invocation) (document : String) (targetUrls : List String)
    (checkIntervalDays : Nat) (priority : Int) (desk : Desk ν) :
    Meets (i.addRegistration document targetUrls checkIntervalDays priority)
      (fun outcome later => match outcome with
        | .ok completed => completed.ending = .fine ∧ ∃ site register, i.Registers document targetUrls
            checkIntervalDays priority desk.world.files later.world.files site register
        | .error completed => completed.HasFailed ∧
            i.LeavesAlone desk.world.files later.world.files) desk := by
  unfold addRegistration
  apply meets_files_bind
  apply meets_orEnd_bind
  case herror => exact fun cause _ => ⟨by simp, .refl i _⟩
  intro site hload
  apply (onlyLooks_checkTargets site targetUrls).meets_bind
  case herror => exact fun completed hfailed => ⟨hfailed, .refl i _⟩
  intro _ hcheck
  apply meets_files_bind
  apply meets_orEnd_bind
  case herror => exact fun cause _ => ⟨by simp, .refl i _⟩
  intro known hknown
  obtain ⟨register, hread, rfl⟩ := map_eq_ok.mp hknown
  apply meets_onFiles_bind
  apply meets_orEnd_bind
  · intro _ hwritten
    refine ⟨rfl, site, register, hload, covers_of_checkTargets hcheck, hread, ?_⟩
    simp only [RegisterFile.upsert, hread] at hwritten ⊢
    exact Prod.ext hwritten rfl
  · intro cause hcause
    refine ⟨by simp, ?_, fun parent => ?_⟩
    · exact RegisterFile.content?_upsert i.ofText_register_path (Prod.ext hcause rfl)
    · exact RegisterFile.spares_upsert i.ofText_register_path (Prod.ext hcause rfl) parent

/-! ## Switching a site -/

theorem meets_switch (i : Invocation) (siteId : String) (enabled : Bool) (desk : Desk ν) :
    Meets (i.switch siteId enabled) (fun outcome later => match outcome with
      | .ok completed => completed.ending = .fine
      | .error completed => completed.HasFailed ∧
          later.world.content? i.registerPath = desk.world.content? i.registerPath) desk := by
  have hkept : ∀ outcome, (i.register.setEnabled siteId enabled desk.world.files).1 = outcome →
      outcome ≠ .ok true → (desk.withFiles (i.register.setEnabled siteId enabled
        desk.world.files).2).world.content? i.registerPath = desk.world.content? i.registerPath :=
    fun outcome houtcome =>
      RegisterFile.content?_amend i.ofText_register_path (Prod.ext houtcome rfl)
  unfold switch
  apply meets_onFiles_bind
  apply meets_orEnd_bind
  · intro found hfound
    cases found with
    | true => exact rfl
    | false => exact ⟨⟨_, rfl⟩, hkept _ hfound (by simp)⟩
  · exact fun cause hcause => ⟨by simp, hkept _ hcause (by simp)⟩

theorem isInOrder_switch (i : Invocation) (siteId : String) (enabled : Bool) {parent : FilePath}
    (horder : IsInOrder (desk.world.content? (parent ++ [registerName]))) :
    Meets (i.switch siteId enabled) (fun _ later =>
      IsInOrder (later.world.content? (parent ++ [registerName]))) desk := by
  have hswitched : IsInOrder ((i.register.setEnabled siteId enabled desk.world.files).2.content?
      (parent ++ [registerName])) := by
    apply RegisterFile.isInOrder_amend i.ofText_register_path _ _ _ horder
    · exact fun _ => rfl
    · exact fun r hr => hr.switch enabled
    · exact fun r hr => hr.switch enabled
  unfold switch
  refine meets_onFiles_bind (meets_orEnd_bind (fun found _ => ?_) fun _ _ => hswitched)
  cases found with
  | true => exact hswitched
  | false => exact hswitched

/-! ## Running the schedule -/

variable (network : Network ν)

theorem meets_openSchedule (i : Invocation) (env : Environment) (settings : ScheduleSettings)
    (desk : Desk ν) :
    Meets (i.openSchedule network env settings) (fun outcome later => later = desk ∧
      match outcome with
      | .ok services => ∃ channel, services = i.schedule network channel settings
      | .error completed => completed.HasFailed) desk := by
  unfold openSchedule
  apply i.onlyLooks_openStore.meets_bind _ fun completed hfailed => ⟨rfl, hfailed⟩
  intro _ _
  apply i.onlyLooks_openEngine.meets_bind _ fun completed hfailed => ⟨rfl, hfailed⟩
  intro _ _
  apply meets_orEnd_bind
  · exact fun channel _ => ⟨rfl, channel, rfl⟩
  · exact fun cause _ => ⟨rfl, by simp⟩

theorem content?_deliver (channel : Channel) (notice : Notice) (online : Online ν) {path : FilePath} :
    (deliver network channel notice online).2.content? path = online.content? path := by
  unfold deliver
  split
  · rename_i hrun
    exact (channel.spares_deliver network notice).keeps.of_run hrun
  · rfl

/-- A schedule keeps every register in order. -/
theorem guards_schedule (i : Invocation) (channel : Channel) (settings : ScheduleSettings)
    (parent : FilePath) : (i.schedule network channel settings).Guards
      (fun desk => desk.world.content? (parent ++ [registerName])) IsInOrder where
  record siteId history desk horder := by
    apply RegisterFile.isInOrder_amend i.ofText_register_path _ _ _ horder
    · exact fun _ => rfl
    · exact fun r hr => hr.congr rfl
    · exact fun r hr => hr.congr rfl
  save siteId result desk :=
    i.results.content?_save siteId result desk.world.now desk.world.files parent
  notify notice desk := content?_deliver network channel notice desk.world
  scrape request := Online.keeps_scrape network i.layout.screenshotsDir parent request

section

variable {network} {channel : Channel} {settings : ScheduleSettings} {parent : FilePath}
  {t : Timeline (Desk ν)}

/-- Where a schedule that begins at a desk leads, its registers are in order if they were. -/
theorem isInOrder_of_leadsOn
    (hleads : Scheduler.LeadsOn (i.schedule network channel settings) { around := { world := desk } }
      t.scheduler)
    (horder : IsInOrder (desk.world.content? (parent ++ [registerName]))) :
    IsInOrder (t.scheduler.around.world.world.content? (parent ++ [registerName])) :=
  (hleads.isGuarded (i.guards_schedule network channel settings parent)
    (Scheduler.isGuarded_new horder)).world

end

/-- A tick keeps registers in order, and one that cannot be waited for changes none. -/
theorem meets_tick (i : Invocation) (env : Environment) (settings : ScheduleSettings)
    (waitSecs : Nat) (parent : FilePath) (desk : Desk ν) :
    Meets (i.tick network env settings waitSecs) (fun outcome later =>
      (IsInOrder (desk.world.content? (parent ++ [registerName])) →
        IsInOrder (later.world.content? (parent ++ [registerName]))) ∧
      ((∀ completed, outcome = .ok completed → completed.ending ≠ .fine) →
        later.world.content? (parent ++ [registerName]) =
          desk.world.content? (parent ++ [registerName]))) desk := by
  unfold tick
  apply (i.meets_openSchedule network env settings desk).bind
  case herror =>
    rintro completed _ ⟨rfl, -⟩
    exact ⟨id, fun _ => rfl⟩
  rintro services later ⟨hlater, channel, rfl⟩
  rw [hlater]
  refine meets_get_bind ?_
  have hticked := Timeline.leadsOn_tick (i.schedule network channel settings)
    { scheduler := { around := { world := desk } } }
  revert hticked
  generalize Timeline.tick (i.schedule network channel settings)
    { scheduler := { around := { world := desk } } } = ticked
  obtain ⟨outcome, t⟩ := ticked
  intro hticked
  refine meets_orEnd_bind (fun report _ => ?_) fun cause _ => ⟨id, fun _ => rfl⟩
  split
  · exact ⟨id, fun _ => rfl⟩
  · have hwaited := hticked.trans
      (Timeline.leadsOn_waitIdle (i.schedule network channel settings) (waitSecs * 1000) t)
    revert hwaited
    generalize t.waitIdle (i.schedule network channel settings) (waitSecs * 1000) = waited
    obtain ⟨idle, u⟩ := waited
    intro hwaited
    have hended : Scheduler.LeadsOn (i.schedule network channel settings)
        { around := { world := desk } }
        (if idle then u else (u.stop (i.schedule network channel settings)).2).scheduler := by
      split
      · exact hwaited
      · exact hwaited.trans (Timeline.leadsOn_stop _ u)
    refine meets_set_bind ⟨isInOrder_of_leadsOn hended, fun hfailed => ?_⟩
    exact absurd rfl (hfailed _ rfl)

theorem isInOrder_runSchedule (i : Invocation) (env : Environment) (settings : ScheduleSettings)
    (forMs : Nat) {parent : FilePath}
    (horder : IsInOrder (desk.world.content? (parent ++ [registerName]))) :
    Meets (i.runSchedule network env settings forMs) (fun _ later =>
      IsInOrder (later.world.content? (parent ++ [registerName]))) desk := by
  unfold runSchedule
  apply (i.meets_openSchedule network env settings desk).bind
  case herror =>
    rintro completed _ ⟨rfl, -⟩
    exact horder
  rintro services later ⟨hlater, channel, rfl⟩
  rw [hlater]
  refine meets_get_bind ?_
  have hended := ((Timeline.leadsOn_start (i.schedule network channel settings)
      { scheduler := { around := { world := desk } } }).trans
    (Timeline.leadsOn_sleep _ forMs _)).trans (Timeline.leadsOn_stop _ _)
  refine meets_set_bind ?_
  exact isInOrder_of_leadsOn hended horder

/-! ## Other commands -/

theorem onlyLooks_listSites (i : Invocation) : OnlyLooks (ν := ν) i.listSites := by
  refine .bind .files fun _ => .bind (.orEnd (by simp) _) fun sites => ?_
  split <;> exact .pure _

theorem onlyLooks_checkSites (i : Invocation) : OnlyLooks (ν := ν) i.checkSites := by
  refine .bind .files fun _ => .bind (.orEnd (by simp) _) fun checks => ?_
  dsimp only
  split <;> exact .pure _

theorem onlyLooks_listRegistrations (i : Invocation) : OnlyLooks (ν := ν) i.listRegistrations := by
  refine .bind .files fun _ => .bind (.orEnd (by simp) _) fun register => ?_
  split <;> exact .pure _

theorem onlyLooks_listResults (i : Invocation) (day : Option Date) :
    OnlyLooks (ν := ν) (i.listResults day) :=
  .bind .get fun _ => .bind .files fun _ => .bind (.orEnd (by simp) _) fun _ => .pure _

theorem isInOrder_scrape (i : Invocation) (request : ScrapeRequest) {parent : FilePath}
    (horder : IsInOrder (desk.world.content? (parent ++ [registerName]))) :
    Meets (i.scrape network request) (fun _ later =>
      IsInOrder (later.world.content? (parent ++ [registerName]))) desk := by
  unfold scrape
  apply i.onlyLooks_openEngine.meets_bind _ fun _ _ => horder
  intro _ _
  refine meets_get_bind ?_
  split
  · exact horder
  · rename_i result clock later hrun
    have hkept := (Online.keeps_scrape network i.layout.screenshotsDir parent request).of_run hrun
    have hlater : IsInOrder (later.world.content? (parent ++ [registerName])) := by
      rw [hkept]
      exact horder
    exact meets_set_bind hlater

theorem isInOrder_pruneResults (i : Invocation) (keepDays : Nat) {parent : FilePath}
    (horder : IsInOrder (desk.world.content? (parent ++ [registerName]))) :
    Meets (i.pruneResults keepDays) (fun _ later =>
      IsInOrder (later.world.content? (parent ++ [registerName]))) desk := by
  unfold pruneResults
  refine meets_get_bind ?_
  split
  · exact horder
  · rename_i answer hanswer
    obtain ⟨cutoff, -, rfl⟩ := Option.map_eq_some_iff.mp hanswer
    refine meets_onFiles_bind ?_
    have hpruned := isInOrder_of_spares
      (i.results.spares_prune (by simp) cutoff desk.world.files) horder
    exact meets_orEnd_bind (fun _ _ => hpruned) fun _ _ => hpruned

/-! ## All commands -/

end Invocation

/-- The numbers of a command are within their bounds. -/
def Command.Fits : Command → Prop
  | .register _ _ intervalDays priority =>
    1 ≤ intervalDays ∧ intervalDays < 2 ^ 32 ∧ -2147483648 ≤ priority ∧ priority ≤ 2147483647
  | _ => True

/-- Whether a command is there to change the register or to tick. -/
def Command.Manages : Command → Prop
  | .register .. | .switch .. | .tick .. => True
  | _ => False

theorem bounds_of_integer? {low high n : Int} {text : String}
    (hread : integer? low high text = some n) : low ≤ n ∧ n ≤ high := by
  have hbounds : ∀ value : Option Int,
      (value.bind fun m => if low ≤ m ∧ m ≤ high then some m else none) = some n →
        low ≤ n ∧ n ≤ high := by
    intro value hvalue
    obtain ⟨m, -, hm⟩ := Option.bind_eq_some_iff.mp hvalue
    split at hm
    · cases hm
      assumption
    · cases hm
  unfold integer? at hread
  dsimp only [Option.bind_eq_bind] at hread
  split at hread
  · exact hbounds _ hread
  · exact hbounds _ hread

theorem lt_of_count? {text : String} {n : Nat} (hread : count? text = some n) : n < 2 ^ 32 := by
  obtain ⟨m, hm, rfl⟩ := Option.map_eq_some_iff.mp hread
  have hbounds := bounds_of_integer? hm
  simp only [Environment.max32] at hbounds
  omega

/-- What a command line asks for is within bounds. -/
theorem Command.fits_of_commandOf {reading : Reading} {env : Environment} {command : Command}
    (hcommand : commandOf reading env = some command) : command.Fits := by
  have hdays : ((reading.value? env "interval-days").bind count?).getD 1 < 2 ^ 32 := by
    cases hvalue : (reading.value? env "interval-days").bind count? with
    | none => decide
    | some n =>
        obtain ⟨text, -, hn⟩ := Option.bind_eq_some_iff.mp hvalue
        exact lt_of_count? hn
  have hpriority : -2147483648 ≤ ((reading.value? env "priority").bind priority?).getD 0 ∧
      ((reading.value? env "priority").bind priority?).getD 0 ≤ 2147483647 := by
    cases hvalue : (reading.value? env "priority").bind priority? with
    | none => decide
    | some n =>
        obtain ⟨text, -, hn⟩ := Option.bind_eq_some_iff.mp hvalue
        exact bounds_of_integer? hn
  unfold commandOf at hcommand
  split at hcommand <;> cases hcommand
  case h_4 => exact ⟨Nat.le_max_left _ _, Nat.max_lt.mpr ⟨by decide, hdays⟩, hpriority⟩
  all_goals trivial

theorem Invocation.fits_of_ofWords {env : Environment} {words : List String} {i : Invocation}
    (hi : Invocation.ofWords env words = .ok i) : i.command.Fits := by
  unfold Invocation.ofWords at hi
  obtain ⟨reading, -, hi⟩ := bind_eq_ok.mp hi
  dsimp only at hi
  split at hi
  · cases hi
  · rename_i command hcommand
    cases hi
    exact Command.fits_of_commandOf hcommand

namespace Invocation

variable {i : Invocation} {desk : Desk ν}

theorem Registers.isProper_registrationFor {document : String} {targetUrls : List String}
    {checkIntervalDays : Nat} {priority : Int} {files after : Files} {site : Site}
    {register : Register} (hregisters : i.Registers document targetUrls checkIntervalDays priority
      files after site register) (hdays : 1 ≤ checkIntervalDays) :
    (registrationFor site (register.get? site.id) targetUrls checkIntervalDays priority).IsProper where
  checkIntervalDays := hdays
  targetUrls := by
    rw [registrationFor_site]
    exact hregisters.covers

theorem Registers.fits_registrationFor {document : String} {targetUrls : List String}
    {checkIntervalDays : Nat} {priority : Int} {files after : Files} {site : Site}
    {register : Register} (hregisters : i.Registers document targetUrls checkIntervalDays priority
      files after site register)
    (hfits : (Command.register document targetUrls checkIntervalDays priority).Fits) :
    (registrationFor site (register.get? site.id) targetUrls checkIntervalDays priority).Fits where
  site := by
    rw [registrationFor_site]
    exact Site.fits_of_load hregisters.load
  checkIntervalDays := hfits.2.1
  priority := hfits.2.2
  history := by
    cases hknown : register.get? site.id with
    | none => exact Bookkeeping.fits_new
    | some known =>
        have hregister := (RegisterFile.read_eq_ok.mp hregisters.read).fits
        exact (hregister known (List.mem_of_find?_eq_some hknown)).history

theorem isInOrder_addRegistration {document : String} {targetUrls : List String}
    {checkIntervalDays : Nat} {priority : Int}
    (hfits : (Command.register document targetUrls checkIntervalDays priority).Fits)
    {parent : FilePath} (horder : IsInOrder (desk.world.content? (parent ++ [registerName]))) :
    Meets (i.addRegistration document targetUrls checkIntervalDays priority) (fun _ later =>
      IsInOrder (later.world.content? (parent ++ [registerName]))) desk := by
  apply (i.meets_addRegistration document targetUrls checkIntervalDays priority desk).mono
  intro outcome later hended
  cases outcome with
  | error completed => exact isInOrder_of_spares (hended.2.others parent) horder
  | ok completed =>
      obtain ⟨-, site, register, hregisters⟩ := hended
      have hproper := hregisters.isProper_registrationFor hfits.1
      have hfit := (hregisters.fits_registrationFor hfits).mandate
      have hupsert := RegisterFile.isInOrder_upsert i.ofText_register_path hproper hfit horder
      simp only [RegisterFile.upsert, hregisters.read, hregisters.write] at hupsert
      exact hupsert

/-- Whatever a command is about, registers stay in order. -/
theorem isInOrder_perform (network : Network ν) (env : Environment) (hfits : i.command.Fits)
    {parent : FilePath} (horder : IsInOrder (desk.world.content? (parent ++ [registerName]))) :
    Meets (i.perform network env) (fun _ later =>
      IsInOrder (later.world.content? (parent ++ [registerName]))) desk := by
  have hlooks : ∀ task : Task ν Completed, OnlyLooks task → ∀ desk' : Desk ν,
      IsInOrder (desk'.world.content? (parent ++ [registerName])) →
      Meets task (fun _ later => IsInOrder (later.world.content? (parent ++ [registerName])))
        desk' := by
    intro task htask desk' horder'
    apply (htask desk').mono
    rintro _ _ ⟨rfl, -⟩
    exact horder'
  unfold perform
  apply meets_modify_bind
  generalize hbegun : (⟨desk.cache, { desk.world with sites := i.siteFolder }⟩ : Desk ν) = begun
  have horder : IsInOrder (begun.world.content? (parent ++ [registerName])) := hbegun ▸ horder
  cases hcommand : i.command with
  | scrape url screenshot frames timeoutMs => exact isInOrder_scrape network i _ horder
  | listSites => exact hlooks _ i.onlyLooks_listSites _ horder
  | checkSites => exact hlooks _ i.onlyLooks_checkSites _ horder
  | register document urls intervalDays priority =>
      rw [hcommand] at hfits
      exact i.onlyLooks_openStore.meets_bind (fun _ _ => isInOrder_addRegistration hfits horder)
        fun _ _ => horder
  | listRegistrations =>
      exact hlooks _ (i.onlyLooks_openStore.bind fun _ => i.onlyLooks_listRegistrations) _ horder
  | switch siteId enabled =>
      exact i.onlyLooks_openStore.meets_bind (fun _ _ => i.isInOrder_switch siteId enabled horder)
        fun _ _ => horder
  | runSchedule intervalSecs maxConcurrentJobs =>
      exact isInOrder_runSchedule network i env _ _ horder
  | tick maxConcurrentJobs waitSecs =>
      exact (meets_tick network i env _ waitSecs parent begun).mono fun _ _ hended =>
        hended.1 horder
  | pruneResults keepDays =>
      exact i.onlyLooks_openStore.meets_bind (fun _ _ => i.isInOrder_pruneResults keepDays horder)
        fun _ _ => horder
  | listResults day =>
      exact hlooks _ (i.onlyLooks_openStore.bind fun _ => i.onlyLooks_listResults day) _ horder

theorem meets_perform_register (network : Network ν) (env : Environment) {document : String}
    {targetUrls : List String} {checkIntervalDays : Nat} {priority : Int}
    (hcommand : i.command = .register document targetUrls checkIntervalDays priority) :
    Meets (i.perform network env) (fun outcome later => match outcome with
      | .ok completed => completed.ending = .fine ∧ ∃ site register, i.Registers document targetUrls
          checkIntervalDays priority desk.world.files later.world.files site register
      | .error completed => completed.HasFailed ∧
          i.LeavesAlone desk.world.files later.world.files) desk := by
  unfold perform
  apply meets_modify_bind
  rw [hcommand]
  apply i.onlyLooks_openStore.meets_bind
  · exact fun _ _ => i.meets_addRegistration document targetUrls checkIntervalDays priority _
  · exact fun completed hfailed => ⟨hfailed, .refl i _⟩

/-- A command that does not end well leaves its register as it is. -/
theorem meets_perform_failed (network : Network ν) (env : Environment)
    (hmanages : i.command.Manages) (desk : Desk ν) :
    Meets (i.perform network env) (fun outcome later =>
      (∀ completed, outcome = .ok completed → completed.ending ≠ .fine) →
        later.world.content? i.registerPath = desk.world.content? i.registerPath) desk := by
  cases hcommand : i.command with
  | register document urls intervalDays priority =>
      apply (meets_perform_register network env hcommand).mono
      intro outcome later hended hfailed
      cases outcome with
      | ok completed => exact absurd hended.1 (hfailed completed rfl)
      | error completed => exact hended.2.own
  | switch siteId enabled =>
      unfold perform
      apply meets_modify_bind
      rw [hcommand]
      apply i.onlyLooks_openStore.meets_bind _ fun _ _ _ => rfl
      intro _ _
      apply (i.meets_switch siteId enabled _).mono
      intro outcome later hended hfailed
      cases outcome with
      | ok completed => exact absurd hended (hfailed completed rfl)
      | error completed => exact hended.2
  | tick maxConcurrentJobs waitSecs =>
      unfold perform
      apply meets_modify_bind
      rw [hcommand]
      exact (meets_tick network i env _ waitSecs _ _).mono fun _ _ hended => hended.2
  | _ =>
      rw [hcommand] at hmanages
      exact hmanages.elim

end Invocation

end SiteWatch.CommandLine
