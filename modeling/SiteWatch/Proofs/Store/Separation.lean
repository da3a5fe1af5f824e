/-
# What operators and rounds write is kept apart

Every field of a registration belongs to one side. The operator decides what is visited, how often
and whom to tell, and switches sites on and off; a round writes its bookkeeping back. Neither side
reads or writes the fields of the other, so in whatever order the two act on a register, each finds
in its own fields what it would find there if it had acted alone.

Only when an operator puts a whole registration in place, bookkeeping included, do rounds lose what
they have written; what operators have decided is safe from rounds even then.
-/

import SiteWatch.Proofs.Store.RegisterFile

namespace SiteWatch

/-- What the operator decides about a site. -/
def Registration.mandate (r : Registration) : Site × List String × Nat × Int × Preferences :=
  (r.site, r.targetUrls, r.checkIntervalDays, r.priority, r.notifications)

namespace Register

variable {τ : Type}

/-! ## Operations -/

/-- Something that is done to a register, at once. -/
inductive Operation where
  /-- A round writes its bookkeeping back. -/
  | record (id : String) (history : Bookkeeping)
  /-- An operator switches a site on or off. -/
  | setEnabled (id : String) (enabled : Bool)
  /-- An operator puts a registration in place. -/
  | upsert (r : Registration)

namespace Operation

def isRecord : Operation → Bool
  | record .. => true
  | _ => false

def isSwitch : Operation → Bool
  | setEnabled .. => true
  | _ => false

def isUpsert : Operation → Bool
  | upsert _ => true
  | _ => false

/-- What becomes of a register. -/
def on (register : Register) : Operation → Register
  | record id history => register.record id history
  | setEnabled id enabled => register.setEnabled id enabled
  | upsert r => register.upsert r

/-- The same, asked of a register in a file. -/
def request : Operation → RegisterFile.Request
  | record id history => .record id history
  | setEnabled id enabled => .setEnabled id enabled
  | upsert r => .upsert r

end Operation

/-- What becomes of a register through one operation after another. -/
def after (register : Register) (operations : List Operation) : Register :=
  operations.foldl Operation.on register

/-! ## What one operation does to a view of the entries -/

/-- A change that does not show leaves the view of all entries as it is. -/
theorem map_amend_of_same {view : Registration → τ} {change : Registration → Registration}
    (hchange : ∀ r, view (change r) = view r) (id : String) (register : Register) :
    (register.amend change id).map view = register.map view := by
  induction register with
  | nil => rfl
  | cons r rest ih =>
      by_cases hid : (r.id == id) = true
      · simp [amend, hid, hchange]
      · simp [amend, hid, ih]

/-- Registers that look alike look alike after the same change, if the view shows the ids and tells
what it shows of a changed entry. -/
theorem map_amend_congr {view : Registration → τ} {change : Registration → Registration}
    (hid : ∀ r q, view r = view q → r.id = q.id)
    (hchange : ∀ r q, view r = view q → view (change r) = view (change q)) (id : String)
    {one other : Register} (halike : one.map view = other.map view) :
    (one.amend change id).map view = (other.amend change id).map view := by
  induction one generalizing other with
  | nil =>
      cases other with
      | nil => rfl
      | cons q others => cases halike
  | cons r rest ih =>
      cases other with
      | nil => cases halike
      | cons q others =>
          obtain ⟨hfirst, hothers⟩ := List.cons.inj halike
          by_cases hr : (r.id == id) = true
          · have hq : (q.id == id) = true := hid r q hfirst ▸ hr
            simp only [amend, if_pos hr, if_pos hq, List.map_cons, hchange r q hfirst, hothers]
          · have hq : ¬ (q.id == id) = true := hid r q hfirst ▸ hr
            simp only [amend, if_neg hr, if_neg hq, List.map_cons, hfirst, ih hothers]

/-- Registers with the same ids know the same sites. -/
theorem has_congr {one other : Register}
    (hids : one.map Registration.id = other.map Registration.id) (id : String) :
    one.has id = other.has id := by
  have hhas (register : Register) :
      register.has id = (register.map Registration.id).any (· == id) := by
    rw [List.any_map]
    rfl
  rw [hhas, hhas, hids]

/-! ## What one side sees of the operations of the other -/

/-- What one side finds after all operations is what it finds after those that remain when some are
dropped, if the dropped ones do not show to it, and the others show it nothing but what comes of what
it has seen before. -/
theorem map_after_filter {view : Registration → τ} {dropped : Operation → Bool}
    {operations : List Operation}
    (hdropped : ∀ operation ∈ operations, dropped operation = true → ∀ register : Register,
      (operation.on register).map view = register.map view)
    (hkept : ∀ operation ∈ operations, dropped operation = false → ∀ one other : Register,
      one.map view = other.map view → (operation.on one).map view = (operation.on other).map view)
    {one other : Register} (halike : one.map view = other.map view) :
    (one.after operations).map view =
      (other.after (operations.filter (!dropped ·))).map view := by
  induction operations generalizing one other with
  | nil => exact halike
  | cons operation rest ih =>
      have hrest := @ih (fun op hop => hdropped op (List.mem_cons_of_mem _ hop))
        (fun op hop => hkept op (List.mem_cons_of_mem _ hop))
      by_cases hop : dropped operation = true
      · rw [List.filter_cons_of_neg (by simp [hop])]
        exact hrest ((hdropped operation List.mem_cons_self hop one).trans halike)
      · rw [Bool.not_eq_true] at hop
        rw [List.filter_cons_of_pos (by simp [hop])]
        exact hrest (hkept operation List.mem_cons_self hop one other halike)

/-! Rounds do not show to operators. -/

theorem id_eq_of_mandate {r q : Registration} (hmandate : r.mandate = q.mandate) : r.id = q.id :=
  congrArg (fun mandate => mandate.1.id) hmandate

theorem map_id_of_mandate {one other : Register}
    (hmandates : one.map Registration.mandate = other.map Registration.mandate) :
    one.map Registration.id = other.map Registration.id := by
  have hids := congrArg (List.map fun mandate => mandate.1.id) hmandates
  rwa [List.map_map, List.map_map] at hids

theorem map_mandate_of_isRecord {operation : Operation} (hrecord : operation.isRecord = true)
    (register : Register) :
    (operation.on register).map Registration.mandate = register.map Registration.mandate := by
  cases operation with
  | record id history =>
      apply map_amend_of_same
      exact fun _ => rfl
  | setEnabled | upsert => cases hrecord

theorem map_mandate_congr {operation : Operation} (hrecord : operation.isRecord = false)
    {one other : Register}
    (halike : one.map Registration.mandate = other.map Registration.mandate) :
    (operation.on one).map Registration.mandate =
      (operation.on other).map Registration.mandate := by
  cases operation with
  | record => cases hrecord
  | setEnabled id enabled =>
      apply map_amend_congr (fun _ _ => id_eq_of_mandate) _ id halike
      intro r q hmandate
      simp only [Registration.mandate, Prod.mk.injEq] at hmandate ⊢
      exact ⟨by rw [hmandate.1], hmandate.2⟩
  | upsert r =>
      have hhas := has_congr (map_id_of_mandate halike) r.id
      show (one.upsert r).map _ = (other.upsert r).map _
      unfold Register.upsert
      by_cases hknown : other.has r.id = true
      · rw [hhas, if_pos hknown, if_pos hknown]
        exact map_amend_congr (fun _ _ => id_eq_of_mandate) (fun _ _ _ => rfl) r.id halike
      · rw [hhas, if_neg hknown, if_neg hknown, List.map_append, List.map_append, halike]

/-! Nor do switches show to rounds. -/

/-- What a round knows of a registration: whose it is, and its bookkeeping. -/
def account (r : Registration) : String × Bookkeeping := (r.id, r.history)

theorem map_account_of_isSwitch {operation : Operation} (hswitch : operation.isSwitch = true)
    (register : Register) : (operation.on register).map account = register.map account := by
  cases operation with
  | setEnabled id enabled =>
      apply map_amend_of_same
      exact fun _ => rfl
  | record | upsert => cases hswitch

theorem map_account_congr {operation : Operation} (hswitch : operation.isSwitch = false)
    (hupsert : operation.isUpsert = false) {one other : Register}
    (halike : one.map account = other.map account) :
    (operation.on one).map account = (operation.on other).map account := by
  cases operation with
  | record id history =>
      apply map_amend_congr (fun r q => congrArg Prod.fst) _ id halike
      intro r q haccount
      exact congrArg (fun account => (account.1, history)) haccount
  | setEnabled => cases hswitch
  | upsert => cases hupsert

/-- Neither switches nor rounds add, remove or reorder registrations. -/
theorem map_id_after {operations : List Operation}
    (hupserts : ∀ operation ∈ operations, operation.isUpsert = false) (register : Register) :
    (register.after operations).map Registration.id = register.map Registration.id := by
  induction operations generalizing register with
  | nil => rfl
  | cons operation rest ih =>
      have hfirst : (operation.on register).map Registration.id =
          register.map Registration.id := by
        cases operation with
        | record | setEnabled =>
            apply map_amend_of_same
            exact fun _ => rfl
        | upsert => cases hupserts _ List.mem_cons_self
      have hrest := fun operation hmem => hupserts operation (List.mem_cons_of_mem _ hmem)
      exact (ih hrest (operation.on register)).trans hfirst

/-! ## Registers in files -/

theorem snd_changeFirst (id : String) (change : Registration → Registration)
    (register : Register) :
    (RegisterFile.changeFirst id change register).2 = register.amend change id := by
  rw [RegisterFile.amend_eq_modify]
  unfold RegisterFile.changeFirst
  cases register.findIdx? (·.site.id == id) <;> rfl

theorem onList_request (operation : Operation) (register : Register) :
    (operation.request.onList register).2 = operation.on register := by
  cases operation with
  | record id history => exact snd_changeFirst id _ register
  | setEnabled id enabled => exact snd_changeFirst id _ register
  | upsert r =>
      show _ = register.upsert r
      rw [RegisterFile.upsert_eq]
      unfold Operation.request RegisterFile.Request.onList
      dsimp only
      cases register.findIdx? (·.site.id == r.site.id) <;> rfl

theorem allOnList_requests (operations : List Operation) (register : Register) :
    (RegisterFile.Request.allOnList (operations.map Operation.request) register).2 =
      register.after operations := by
  induction operations generalizing register with
  | nil => rfl
  | cons operation rest ih =>
      show (RegisterFile.Request.allOnList _ (operation.request.onList register).2).2 = _
      rw [onList_request]
      exact ih (operation.on register)

/-- A file that holds a register holds what operations make of it, if the system carries them out. -/
theorem holds_after {file : RegisterFile} {files : Files} {register : Register}
    (hfile : file.Holds files register) {operations : List Operation}
    (hfits : ∀ operation ∈ operations, operation.request.Fits)
    (hcalls : ∀ before request after, operations.map Operation.request = before ++ request :: after →
      file.CallsSucceed (file.serveAll before files).2 request) :
    file.Holds (file.serveAll (operations.map Operation.request) files).2
      (register.after operations) := by
  have hrequests : ∀ request ∈ operations.map Operation.request, request.Fits := by
    intro request hrequest
    obtain ⟨operation, hmem, rfl⟩ := List.mem_map.mp hrequest
    exact hfits operation hmem
  rw [← allOnList_requests]
  exact (RegisterFile.serveAll_eq_allOnList hfile hrequests hcalls).2

/-! ## The two sides -/

/-- Operators and rounds do not disturb each other. Whatever is in a register, repeated ids included,
and in whatever order operators and rounds act on it: what operators have decided about every entry,
and which entries there are, is as if no round had written; and as long as operators only switch sites
on and off, the bookkeeping of every entry is as if no operator had been there, and the ids are those
of the beginning, in their order. All this is so of a register in a file, which holds what the
operations make of the one it held before. -/
theorem keepsApart (register : Register) (operations : List Operation) :
    ((register.after operations).map Registration.mandate =
        (register.after (operations.filter (!·.isRecord))).map Registration.mandate ∧
      (register.after operations).map Registration.id =
        (register.after (operations.filter (!·.isRecord))).map Registration.id) ∧
    ((∀ operation ∈ operations, operation.isUpsert = false) →
      (register.after operations).map Registration.history =
          (register.after (operations.filter (!·.isSwitch))).map Registration.history ∧
        (register.after operations).map Registration.id = register.map Registration.id) ∧
    ∀ (file : RegisterFile) (files : Files), file.Holds files register →
      ∀ performed : List Operation, (∀ operation ∈ performed, operation.request.Fits) →
        (∀ before request rest, performed.map Operation.request = before ++ request :: rest →
          file.CallsSucceed (file.serveAll before files).2 request) →
        file.Holds (file.serveAll (performed.map Operation.request) files).2
          (register.after performed) := by
  have hmandates : (register.after operations).map Registration.mandate =
      (register.after (operations.filter (!·.isRecord))).map Registration.mandate := by
    apply map_after_filter _ _ rfl
    · exact fun operation _ hrecord => map_mandate_of_isRecord hrecord
    · exact fun operation _ hrecord _ _ => map_mandate_congr hrecord
  refine ⟨⟨hmandates, map_id_of_mandate hmandates⟩, ?_, ?_⟩
  · intro hupserts
    have haccounts : (register.after operations).map account =
        (register.after (operations.filter (!·.isSwitch))).map account := by
      apply map_after_filter _ _ rfl
      · exact fun operation _ hswitch => map_account_of_isSwitch hswitch
      · exact fun operation hmem hswitch _ _ => map_account_congr hswitch (hupserts operation hmem)
    have hhistories := congrArg (List.map Prod.snd) haccounts
    rw [List.map_map, List.map_map] at hhistories
    exact ⟨hhistories, map_id_after hupserts register⟩
  · intro file files hfile performed hfits hcalls
    exact holds_after hfile hfits hcalls

end Register

namespace Rehearsal

open Register (Operation)

/-- A register in which an id is repeated. -/
def stands : Register :=
  [{ site := { id := "stand", domain := "example.com" } },
    { site := { id := "stand", domain := "example.org" }, priority := 5 },
    { site := { id := "stage", domain := "example.net" } }]

/-- Two rounds of one site, with an operator who acts before, between and after them. -/
def busyDay : List Operation :=
  [.setEnabled "stand" false, .record "stand" { totalRuns := 1 }, .setEnabled "stage" false,
    .record "stand" { totalRuns := 2, lastContentHash := some "abc" }, .setEnabled "gone" true,
    .record "gone" { totalRuns := 9 }]

theorem fits_stands : stands.Fits := by
  have hoptions : ({} : PageOptions).Fits :=
    ⟨⟨by decide, by decide⟩, by decide, by decide, by decide, by decide⟩
  have hhistory : ({} : Bookkeeping).Fits := ⟨nofun, nofun, nofun, by decide, by decide⟩
  unfold stands Register.Fits
  simp only [List.forall_mem_cons, List.not_mem_nil, false_implies, implies_true, and_true]
  exact ⟨⟨⟨by simp, hoptions, nofun⟩, by decide, by decide, hhistory⟩,
    ⟨⟨by simp, hoptions, nofun⟩, by decide, by decide, hhistory⟩,
    ⟨⟨by simp, hoptions, nofun⟩, by decide, by decide, hhistory⟩⟩

theorem fits_busyDay : ∀ operation ∈ busyDay, operation.request.Fits := by
  simp only [busyDay, List.forall_mem_cons, List.not_mem_nil, false_implies, implies_true, and_true]
  exact ⟨trivial, ⟨nofun, nofun, nofun, by decide, by decide⟩, trivial,
    ⟨nofun, nofun, nofun, by decide, by decide⟩, trivial,
    ⟨nofun, nofun, nofun, by decide, by decide⟩⟩

/-- The operator switches two sites off while rounds of one of them end, and both stay; the second
entry of the repeated id is left alone by either. -/
theorem keepsApart_of_repeated_id :
    ∃ files, (RegisterFile.mk "jobs").Holds files stands ∧
      (∀ operation ∈ busyDay, operation.request.Fits) ∧
      (∀ operation ∈ busyDay, operation.isUpsert = false) ∧
      (stands.after busyDay).map (·.history) =
        (stands.after (busyDay.filter (!·.isSwitch))).map (·.history) ∧
      (stands.after busyDay).map Registration.mandate =
        (stands.after (busyDay.filter (!·.isRecord))).map Registration.mandate ∧
      (RegisterFile.mk "jobs").Holds
        ((RegisterFile.mk "jobs").serveAll (busyDay.map Operation.request) files).2
        (stands.after busyDay) ∧
      (stands.after busyDay).map (fun r => (r.site.enabled, r.history.totalRuns)) =
        [(false, 2), (true, 0), (false, 0)] := by
  obtain ⟨files, hreplaces, hwritable⟩ := isWritable_jobs.exists_replaces stands
  have hupserts : ∀ operation ∈ busyDay, operation.isUpsert = false := by decide
  obtain ⟨⟨hmandates, -⟩, hhistories, hfile⟩ := Register.keepsApart stands busyDay
  have hholds := hreplaces.holds fits_stands
  refine ⟨files, hholds, fits_busyDay, hupserts, (hhistories hupserts).1, hmandates, ?_, ?_⟩
  · apply hfile _ _ hholds _ fits_busyDay
    exact fun before request _ _ => (hwritable.serveAll before).callsSucceed request
  · decide +kernel

end Rehearsal

end SiteWatch
