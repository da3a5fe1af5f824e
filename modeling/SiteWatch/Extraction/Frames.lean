/-
# Fields of frames

The extractors of a site applied to every frame of a page. A frame never fails a scrape: one that does
not load in time, or whose fields cannot be had, is left out.
-/

import SiteWatch.Extraction.Fields

namespace SiteWatch

/-- What the frames of a page brought. -/
structure FrameFields where
  /-- The fields of each frame that has any, under the name of the frame. -/
  sections : Members := []
  /-- How many frames loaded in time. -/
  processed : Nat := 0
deriving BEq, Repr, Inhabited

namespace FrameFields

/-- The name of the frame at a position. -/
def sectionName (position : Nat) : String := s!"iframe_{position}"

/-- Add what the frame at a position brought; `none` if its fields could not be had. -/
def add (fields : FrameFields) (position : Nat) (found : Option Members) : FrameFields :=
  { processed := fields.processed + 1
    sections :=
      match found with
      | none | some [] => fields.sections
      | some members => Members.insert (sectionName position) (.object members) fields.sections }

end FrameFields

namespace PageEngine

variable {σ F : Type}

/-- Whether a frame loads within a time. -/
def loadsWithin (engine : PageEngine σ F) (limit : Nat) (frame : F) : Activity σ Bool :=
  ((engine.awaitLoad frame).timeout limit).ok?.bind fun loaded => .done loaded.isSome

/-- Go through frames, the first of which has the given position. -/
def extractFramesFrom (engine : PageEngine σ F) (extractors : List Extractor) (limit : Nat)
    (fields : FrameFields) (position : Nat) : List F → Activity σ FrameFields
  | [] => .done fields
  | frame :: rest =>
    (engine.loadsWithin limit frame).bind fun loaded =>
      if loaded then
        ((engine.document frame).extract extractors).ok?.bind fun found =>
          engine.extractFramesFrom extractors limit (fields.add position found) (position + 1) rest
      else engine.extractFramesFrom extractors limit fields (position + 1) rest

/-- The fields of all frames of a page; none if the frames cannot be listed. -/
def extractFrames (engine : PageEngine σ F) (page : Page σ F) (extractors : List Extractor)
    (limit : Nat) : Activity σ FrameFields :=
  page.frames.ok?.bind fun
    | none => .done {}
    | some frames => engine.extractFramesFrom extractors limit {} 0 frames

/-- Follow selectors from frame to frame; nothing as soon as one leads nowhere. -/
def followFrames (engine : PageEngine σ F) (current : F) : List String → Activity σ (Option F)
  | [] => .done (some current)
  | selector :: rest =>
    ((engine.document current).contentFrame selector).ok?.bind fun found =>
      match found.join with
      | none => .done none
      | some frame => engine.followFrames frame rest

/-- The frame that a chain of selectors leads to, the first of which is looked up in the page and
each other one in the frame before. -/
def nestedFrame (engine : PageEngine σ F) (page : Page σ F) : List String → Activity σ (Option F)
  | [] => .done none
  | selector :: rest =>
    (page.contentFrame selector).ok?.bind fun found =>
      match found.join with
      | none => .done none
      | some frame => engine.followFrames frame rest

end PageEngine

end SiteWatch
