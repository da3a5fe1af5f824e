/-
# Punycode

The encoding of labels of domain names in ASCII: the ASCII characters come first, then, as numbers
of variable length, where each of the others is to be inserted. Decoding and encoding share the
rule that adapts the length of the numbers to those written so far.
-/

namespace SiteWatch.Url.Punycode

def base : Nat := 36

def firstOther : Nat := 128

def firstBias : Nat := 72

/-- The bias for the next number, after `delta` was written for the `count`-th character. -/
def adapt (delta count : Nat) (isFirst : Bool) : Nat :=
  let scaled := if isFirst then delta / 700 else delta / 2
  let rec shrink : Nat → Nat → Nat → Nat
    | 0, delta, k => k + 36 * delta / (delta + 38)
    | more + 1, delta, k =>
      if delta > 455 then shrink more (delta / 35) (k + base) else k + 36 * delta / (delta + 38)
  shrink 40 (scaled + scaled / count) 0

/-- The threshold at a position. -/
def threshold (k bias : Nat) : Nat :=
  if k ≤ bias then 1 else if k ≥ bias + 26 then 26 else k - bias

/-- A digit of base 36. -/
def digit (n : Nat) : Char := if n < 26 then Char.ofNat (97 + n) else Char.ofNat (22 + n)

/-- The value of a digit of base 36. -/
def digitValue? (c : Char) : Option Nat :=
  if '0' ≤ c ∧ c ≤ '9' then some (c.toNat - 22)
  else if 'a' ≤ c ∧ c ≤ 'z' then some (c.toNat - 97)
  else if 'A' ≤ c ∧ c ≤ 'Z' then some (c.toNat - 65)
  else none

/-- A number of variable length. -/
def encodeNumber : Nat → Nat → Nat → Nat → List Char
  | 0, _, _, _ => []
  | more + 1, q, k, bias =>
    let t := threshold k bias
    if q < t then [digit q]
    else digit (t + (q - t) % (base - t)) :: encodeNumber more ((q - t) / (base - t)) (k + base) bias

/-- The state of encoding: the next character to look for, the distance so far, the bias, and how
many characters are done. -/
structure Progress where
  next : Nat
  delta : Nat
  bias : Nat
  done : Nat
  output : List Char

/-- Pass over the characters once, writing a number for each occurrence of `n`. -/
def pass (basic n : Nat) (input : List Nat) (p : Progress) : Progress :=
  input.foldl (fun p c =>
    if c < n then { p with delta := p.delta + 1 }
    else if c = n then
      { p with
        output := p.output ++ encodeNumber 40 p.delta base p.bias
        bias := adapt p.delta (p.done + 1) (p.done == basic)
        delta := 0
        done := p.done + 1 }
    else p) p

/-- Write all characters that are not ASCII, from the least on. -/
def encodeAll (basic : Nat) (input : List Nat) : Nat → Progress → Progress
  | 0, p => p
  | more + 1, p =>
    match (input.filter (· ≥ p.next)).min? with
    | none => p
    | some m =>
      let p := { p with delta := p.delta + (m - p.next) * (p.done + 1), next := m }
      let p := pass basic m input p
      encodeAll basic input more { p with delta := p.delta + 1, next := m + 1 }

/-- The encoded form of a label. -/
def encode (label : List Char) : List Char :=
  let basic := label.filter fun c => c.toNat < 128
  let start := if basic.isEmpty then [] else basic ++ ['-']
  let p : Progress := ⟨firstOther, 0, firstBias, basic.length, start⟩
  (encodeAll basic.length (label.map Char.toNat) (label.length + 1) p).output

/-- Read a number of variable length: its value added to `i`, and what follows. -/
def decodeNumber : Nat → Nat → Nat → Nat → Nat → List Char → Option (Nat × List Char)
  | 0, _, _, _, _, _ => none
  | _ + 1, _, _, _, _, [] => none
  | more + 1, i, weight, k, bias, c :: rest => do
    let value ← digitValue? c
    let i := i + value * weight
    if i > 4294967295 then none
    let t := threshold k bias
    if value < t then return (i, rest)
    decodeNumber more i (weight * (base - t)) (k + base) bias rest

/-- Insert the characters that the numbers describe. -/
def decodeAll : Nat → Nat → Nat → Nat → List Nat → List Char → Option (List Nat)
  | 0, _, _, _, output, rest => if rest.isEmpty then some output else none
  | more + 1, n, i, bias, output, rest =>
    if rest.isEmpty then some output
    else do
      let (found, rest) ← decodeNumber 40 i 1 base bias rest
      let length := output.length + 1
      let bias := adapt (found - i) length (i == 0)
      let n := n + found / length
      if n > 0x10FFFF ∨ (0xD800 ≤ n ∧ n ≤ 0xDFFF) then none
      let place := found % length
      decodeAll more n (place + 1) bias (output.take place ++ n :: output.drop place) rest

/-- The label whose encoded form is given; `none` when it is no encoded form. -/
def decode? (text : List Char) : Option (List Char) :=
  let reversed := text.reverse
  let (basic, rest) :=
    if text.contains '-' then
      ((reversed.dropWhile (· ≠ '-')).drop 1 |>.reverse, (reversed.takeWhile (· ≠ '-')).reverse)
    else ([], text)
  (decodeAll (text.length + 1) firstOther 0 firstBias (basic.map Char.toNat) rest).map
    (·.map Char.ofNat)

end SiteWatch.Url.Punycode
