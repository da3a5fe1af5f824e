/-
# Visits come to an end

Work that is left to itself may wait forever, but only in a wait without a deadline. The steps of a
visit, its pictures and the loading of frames all have one. What has none is a query, the address of
a document, the list of the frames and the use of memory: where these come to an end, so does all
that a visit does on its page.
-/

import SiteWatch.Proofs.Scrape.Turns

namespace SiteWatch

variable {σ F α β : Type}

namespace Noted

/-- To leave work to itself is to leave it to itself with notes beside it. -/
theorem beside_idle : beside (Meantime.idle : Meantime σ) = Meantime.idle := by
  funext pause wake elapsed s t
  apply propext
  constructor
  · rintro ⟨⟨hwake, hworld⟩, hnotes⟩
    exact ⟨hwake, Prod.ext hnotes hworld⟩
  · rintro ⟨hwake, rfl⟩
    exact ⟨⟨hwake, rfl⟩, rfl⟩

/-- What work comes to that is left to itself it comes to with notes beside it. -/
theorem canEnd_quietly_idle (notes : ScrapeMetadata) {work : Activity σ α} {value : α} {s t : σ}
    (hends : work.CanEnd Meantime.idle value t s) :
    (quietly work).CanEnd Meantime.idle value (notes, t) (notes, s) := by
  rw [← beside_idle]
  exact canEnd_quietly_iff.mpr ⟨hends, rfl⟩

theorem halts_quietly {work : Activity σ α} (hwork : work.Halts) : (quietly work).Halts := by
  intro s
  obtain ⟨value, t, hends⟩ := hwork s.2
  exact ⟨value, (s.1, t), canEnd_quietly_idle s.1 hends⟩

theorem halts_attempt {attempt : Attempt σ α} (hattempt : attempt.run.Halts) :
    (Noted.attempt attempt).run.Halts :=
  halts_quietly hattempt

theorem halts_note (change : ScrapeMetadata → ScrapeMetadata) :
    (note change : Attempt (Noted σ) Unit).run.Halts :=
  fun _ => ⟨_, _, rfl, rfl⟩

theorem halts_note_bind {change : ScrapeMetadata → ScrapeMetadata}
    {andThen : Unit → Attempt (Noted σ) α} (hthen : (andThen ()).run.Halts) :
    (note change >>= andThen).run.Halts := by
  intro s
  obtain ⟨outcome, t, hends⟩ := hthen (change s.1, s.2)
  exact ⟨outcome, t, canEnd_note_bind.mpr hends⟩

end Noted

/-! ## Steps -/

theorem Page.halts_capture (page : Page σ F) (album : Album σ) (name : String) (limit : Nat) :
    (page.capture album name limit).run.Halts := by
  apply Attempt.halts_bind (Attempt.halts_timeout limit page.screenshot)
  intro picture
  apply Attempt.halts_bind (Activity.halts_step _)
  intro _
  exact Activity.halts_done _

namespace Instruction

theorem halts_await (page : Page σ F) (condition : Option WaitCondition)
    (selector value : Option String) (limit : Nat) :
    (await page condition selector value limit).run.Halts := by
  unfold await
  split
  · exact Attempt.halts_timeout limit _
  · exact Attempt.halts_timeout limit _
  · exact Attempt.halts_timeout limit _
  · exact Attempt.halts_timeout limit _
  · exact Activity.halts_bind (Activity.halts_sleep _) fun _ => Activity.halts_done _

/-- Every step comes to an end, whatever the page does. -/
theorem halts_perform (i : Instruction) (page : Page σ F) (album : Album σ) (limit : Nat) :
    (i.perform page album limit).run.Halts := by
  unfold perform
  cases i.action with
  | navigate url =>
      cases url with
      | none => exact Activity.halts_done _
      | some url => exact Attempt.halts_timeout limit _
  | click selector =>
      apply Attempt.halts_bind (Attempt.halts_timeout limit _)
      intro _
      split
      · exact Attempt.halts_timeout limit _
      · exact Activity.halts_done _
  | wait selector value => exact halts_await page _ _ _ limit
  | enter selector text => exact Attempt.halts_timeout limit _
  | scroll selector => exact Attempt.halts_timeout limit _
  | extract => exact Activity.halts_done _
  | screenshot name =>
      apply Attempt.halts_bind (page.halts_capture album _ limit)
      intro _
      exact Activity.halts_done _

end Instruction

/-! ## Fields and frames -/

/-- A document whose queries, and whose address, come to an end. -/
structure Document.Returns (document : Document σ F) : Prop where
  select : ∀ selector attributeName multiple,
    (document.select selector attributeName multiple).run.Halts
  address : document.address.run.Halts

theorem Document.Returns.extract {document : Document σ F} (hreturns : document.Returns)
    (extractors : List Extractor) : (document.extract extractors).run.Halts := by
  have hinto (base : Option String) (fields : Members) :
      (document.extractInto base fields extractors).run.Halts := by
    induction extractors generalizing fields with
    | nil => exact Activity.halts_done _
    | cons e rest ih =>
        have hquery : (e.query document base).run.Halts :=
          Activity.halts_bind (hreturns.select _ _ _) fun _ => Activity.halts_done _
        apply Attempt.halts_bind hquery
        intro value
        cases value with
        | none => exact ih fields
        | some value => exact ih _
  apply Attempt.halts_bind_ofActivity (Attempt.halts_ok? hreturns.address)
  intro address
  exact hinto address.join []

/-- A page whose calls outside of steps come to an end, and the documents in its frames. -/
structure Page.Returns (engine : PageEngine σ F) (page : Page σ F) : Prop where
  document : page.toDocument.Returns
  frames : page.frames.run.Halts
  frameDocuments : ∀ frame, (engine.document frame).Returns
  memoryUsage : page.memoryUsage.run.Halts

namespace PageEngine

variable {engine : PageEngine σ F}

theorem halts_lookInto (hdocuments : ∀ frame, (engine.document frame).Returns)
    (extractors : List Extractor) (limit : Nat) (frame : F) :
    (engine.lookInto extractors limit frame).Halts := by
  have hloads : (engine.loadsWithin limit frame).Halts :=
    Activity.halts_bind (Attempt.halts_ok? (Attempt.halts_timeout limit _))
      fun _ => Activity.halts_done _
  apply Activity.halts_bind hloads
  intro loaded
  split
  · exact Activity.halts_bind (Attempt.halts_ok? ((hdocuments frame).extract extractors))
      fun _ => Activity.halts_done _
  · exact Activity.halts_done _

theorem halts_extractFrames {page : Page σ F} (hreturns : page.Returns engine)
    (extractors : List Extractor) (limit : Nat) :
    (engine.extractFrames page extractors limit).Halts := by
  have hfrom (fields : FrameFields) (position : Nat) (frames : List F) :
      (engine.extractFramesFrom extractors limit fields position frames).Halts := by
    induction frames generalizing fields position with
    | nil => exact Activity.halts_done _
    | cons frame rest ih =>
        rw [extractFramesFrom_cons]
        exact Activity.halts_bind (halts_lookInto hreturns.frameDocuments extractors limit frame)
          fun _ => ih _ _
  apply Activity.halts_bind (Attempt.halts_ok? hreturns.frames)
  intro frames
  cases frames with
  | none => exact Activity.halts_done _
  | some frames => exact hfrom {} 0 frames

end PageEngine

/-! ## Visits -/

namespace ScrapeService

variable (service : ScrapeService σ F) (visit : Visit) (page : Page σ F)

theorem halts_picture (name : Instant → String) :
    (service.picture visit page name).run.Halts := by
  apply Attempt.halts_bind (Noted.halts_attempt (Activity.halts_step _))
  intro moment
  apply Attempt.halts_bind_ofActivity
    (Noted.halts_quietly (Attempt.halts_ok? (page.halts_capture _ _ _)))
  intro saved
  cases saved with
  | none => exact Activity.halts_done _
  | some path => exact Noted.halts_note _

theorem halts_follow (plan : List Instruction) : (service.follow visit page plan).run.Halts := by
  induction plan with
  | nil => exact Activity.halts_done _
  | cons i rest ih =>
      have hexecute : (i.execute page service.album visit.site.options).run.Halts :=
        Activity.halts_bind (i.halts_perform page _ _) fun _ => Activity.halts_done _
      apply Attempt.halts_bind (Noted.halts_attempt hexecute)
      intro went
      split
      · exact Noted.halts_note_bind ih
      · exact ih

variable {page}

theorem halts_gather (hreturns : page.Returns service.engine) :
    (service.gather visit page).run.Halts := by
  apply Attempt.halts_bind (Noted.halts_attempt (hreturns.document.extract visit.extractors))
  intro fields
  apply Noted.halts_note_bind
  split
  · apply Attempt.halts_bind_ofActivity
      (Noted.halts_quietly (PageEngine.halts_extractFrames hreturns _ _))
    intro frames
    exact Noted.halts_note_bind (Activity.halts_done _)
  · exact Activity.halts_done _

theorem halts_conclude (hreturns : page.Returns service.engine) (fields : Members) :
    (service.conclude visit page fields).run.Halts := by
  apply Attempt.halts_bind_ofActivity
    (Noted.halts_quietly (Attempt.halts_ok? hreturns.document.address))
  intro address
  apply Noted.halts_note_bind
  apply Attempt.halts_bind_ofActivity (Noted.halts_quietly (Attempt.halts_ok? hreturns.memoryUsage))
  intro memory
  apply Noted.halts_note_bind
  split
  · exact Attempt.halts_bind (service.halts_picture visit page _) fun _ => Activity.halts_done _
  · exact Activity.halts_done _

/-- A visit that is left to itself is done with its page some time. -/
theorem halts_attend (hreturns : page.Returns service.engine) :
    (service.attend visit page).run.Halts := by
  rw [attend_eq]
  apply Attempt.halts_bind (service.halts_follow visit page visit.plan)
  intro _
  apply Attempt.halts_bind (service.halts_gather visit hreturns)
  exact service.halts_conclude visit hreturns

end ScrapeService

end SiteWatch
