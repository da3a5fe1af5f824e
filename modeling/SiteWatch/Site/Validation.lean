/-
# Validation

The rules that the shape of a document cannot express: texts that must not be empty, and names of
fields that must not repeat. All problems are reported, in the order of the document, joined by
semicolons. The rules for instructions and extractors also hold for those that a request brings
along.
-/

import SiteWatch.Site.Basic

namespace SiteWatch

/-- What is wrong with a list of extractors whose earlier members had the names `seen`. -/
def extractorProblems (seen : List String) : List Extractor → List String
  | [] => []
  | extractor :: rest =>
    (if Text.isVoid extractor.name then ["extractor name must not be empty"] else [])
      ++ (if Text.isVoid extractor.selector then
          [s!"extractor '{extractor.name}': selector must not be empty"] else [])
      ++ (if seen.contains extractor.name then
          [s!"extractor '{extractor.name}' is defined twice"] else [])
      ++ extractorProblems (extractor.name :: seen) rest

/-- What is wrong with a list of instructions. -/
def instructionProblems (instructions : List Instruction) : List String :=
  instructions.filterMap fun instruction =>
    instruction.problem?.map fun reason => s!"instruction {instruction.step}: {reason}"

/-- What is wrong with instructions and extractors together. -/
def stepProblems (instructions : List Instruction) (extractors : List Extractor) : List String :=
  instructionProblems instructions ++ extractorProblems [] extractors

/-- Check the instructions and extractors that a request brings along. -/
def validateOverrides (instructions : Option (List Instruction))
    (extractors : Option (List Extractor)) : Outcome Unit :=
  let problems := stepProblems (instructions.getD []) (extractors.getD [])
  if problems.isEmpty then .ok () else .error (.invalid ("; ".intercalate problems))

namespace Site

/-- What is wrong with a site. -/
def problems (site : Site) : List String :=
  (if Text.isVoid site.id then ["id must not be empty"] else [])
    ++ (if Text.isVoid site.domain then ["domain must not be empty"] else [])
    ++ stepProblems site.instructions site.extractors

/-- Check a site. -/
def validate (site : Site) : Outcome Unit :=
  let problems := site.problems
  if problems.isEmpty then .ok ()
  else .error (.invalid (s!"site '{site.id}': " ++ "; ".intercalate problems))

end Site

end SiteWatch
