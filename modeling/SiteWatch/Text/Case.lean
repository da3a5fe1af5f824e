/-
# Case

The small and the capital form of a text, character by character, after the tables of the Unicode
standard. One rule looks at the neighbours: a capital sigma at the end of a word becomes the final
small sigma.
-/

import SiteWatch.Text.CaseTables

namespace SiteWatch.Text.Case

/-- Whether a number lies in one of the ranges. -/
def inRanges (ranges : List (Nat × Nat)) (n : Nat) : Bool :=
  ranges.any fun range => range.1 ≤ n && n ≤ range.2

/-- The character at the distance of the run that a character lies in; itself outside all runs. -/
def shifted (runs : List (Nat × Nat × Nat × Int)) (c : Char) : Char :=
  match runs.find? fun run =>
      run.1 ≤ c.toNat && c.toNat ≤ run.2.1 && (c.toNat - run.1) % run.2.2.1 == 0 with
  | some run => Char.ofNat ((c.toNat : Int) + run.2.2.2).toNat
  | none => c

/-- The capital sigma. -/
def capitalSigma : Char := 'Σ'

/-- The small form of a character without regard to its neighbours. -/
def lowerChar (c : Char) : List Char :=
  if c.toNat < 128 then [c.toLower]
  else if c.toNat = 0x130 then ['i', Char.ofNat 0x307]
  else [shifted lowerRuns c]

/-- The capital form of a character. -/
def upperChar (c : Char) : List Char :=
  if c.toNat < 128 then [c.toUpper]
  else match upperExpansions.lookup c.toNat with
    | some form => form.map Char.ofNat
    | none => [shifted upperRuns c]

/-- Whether the first character that is not skipped over has a case. -/
def startsCased : List Char → Bool
  | [] => false
  | c :: rest =>
    if inRanges skippedRanges c.toNat then startsCased rest else inRanges casedRanges c.toNat

/-- The small form of a text, given the characters before it in reverse order. -/
def lowerFrom : List Char → List Char → List Char
  | _, [] => []
  | before, c :: rest =>
    (if c = capitalSigma then
      if startsCased before && !startsCased rest then ['ς'] else ['σ']
    else lowerChar c) ++ lowerFrom (c :: before) rest

/-- The small form of a text. -/
def lower (text : String) : String := String.ofList (lowerFrom [] text.toList)

/-- The capital form of a text. -/
def upper (text : String) : String := String.ofList (text.toList.flatMap upperChar)

end SiteWatch.Text.Case
