/-
# Plans

The instructions that are carried out for one requested page: those of the site or of the request,
sorted by step, with the requested address in the first that opens a page. When none does, opening
the page comes first.
-/

import SiteWatch.Site.Basic

namespace SiteWatch

/-- Put an instruction before the first one of a later step, after those of the same step. -/
def insertByStep (instruction : Instruction) : List Instruction → List Instruction
  | [] => [instruction]
  | other :: rest =>
    if instruction.step < other.step then instruction :: other :: rest
    else other :: insertByStep instruction rest

/-- Instructions sorted by step; those of one step keep their order. -/
def sortByStep (instructions : List Instruction) : List Instruction :=
  instructions.foldl (fun sorted instruction => insertByStep instruction sorted) []

/-- The list with the first instruction that opens a page opening `url` instead; `none` when no
instruction opens a page. -/
def retarget? (url : String) : List Instruction → Option (List Instruction)
  | [] => none
  | instruction :: rest =>
    if instruction.action.isNavigate then
      some ({ instruction with action := .navigate (some url) } :: rest)
    else (retarget? url rest).map (instruction :: ·)

/-- The instructions that are carried out for a requested page. -/
def planFor (url : String) (instructions : List Instruction) : List Instruction :=
  let sorted := sortByStep instructions
  (retarget? url sorted).getD (Instruction.navigateTo 0 url :: sorted)

end SiteWatch
