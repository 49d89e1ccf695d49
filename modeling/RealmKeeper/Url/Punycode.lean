/-!
# Punycode

Labels of domain names that are not ASCII, written in letters, digits and hyphens. The characters
are inserted in the order of their code points; the gaps between insertions are written as numbers
of variable length, whose digits have thresholds that adapt to the gaps so far.

* `encode`: the written form of a label;
* `decode?`: the label of a written form.
-/

namespace RealmKeeper.Url.Punycode

/-- The character of a digit below 36. -/
def digitChar (d : Nat) : Char :=
  if d < 26 then Char.ofNat (0x61 + d) else Char.ofNat (0x16 + d)

/-- The digit of a character. -/
def digitValue? (c : Char) : Option Nat :=
  if 'a' ≤ c ∧ c ≤ 'z' then some (c.toNat - 0x61)
  else if 'A' ≤ c ∧ c ≤ 'Z' then some (c.toNat - 0x41)
  else if '0' ≤ c ∧ c ≤ '9' then some (c.toNat - 0x16)
  else none

/-- The threshold of the digit at position `k` (36, 72, …). -/
def threshold (k bias : Nat) : Nat :=
  if k ≤ bias then 1 else if bias + 26 ≤ k then 26 else k - bias

/-- Divides by 35 until at most 455 is left, counting 36 for each division. -/
def shrink : Nat → Nat → Nat → Nat × Nat
  | 0, delta, k => (delta, k)
  | fuel + 1, delta, k => if 455 < delta then shrink fuel (delta / 35) (k + 36) else (delta, k)

/-- The bias after a gap. -/
def adapt (delta count : Nat) (first : Bool) : Nat :=
  let delta := if first then delta / 700 else delta / 2
  let (delta, k) := shrink delta (delta + delta / count) 0
  k + 36 * delta / (delta + 38)

/-- The digits of a gap. -/
def gapDigits (bias : Nat) : Nat → Nat → Nat → List Char
  | 0, _, _ => []
  | fuel + 1, k, q =>
    let t := threshold k bias
    if q < t then [digitChar q]
    else digitChar (t + (q - t) % (36 - t)) :: gapDigits bias fuel (k + 36) ((q - t) / (36 - t))

/-- What encoding carries along the label: the gap so far, the bias, how many characters are
written, and the digits in reverse. -/
structure Progress where
  delta : Nat
  bias : Nat
  written : Nat
  first : Bool
  digits : List Char

/-- Goes through the label for the character `n`. -/
def insertAll (n : Nat) (label : List Char) (p : Progress) : Progress :=
  label.foldl (fun p c =>
    if c.toNat < n then { p with delta := p.delta + 1 }
    else if c.toNat = n then
      { delta := 0
        bias := adapt p.delta (p.written + 1) p.first
        written := p.written + 1
        first := false
        digits := (gapDigits p.bias (p.delta + 1) 36 p.delta).reverse ++ p.digits }
    else p) p

/-- Drops repetitions next to each other. -/
def dropRepeated : List Nat → List Nat
  | a :: b :: rest => if a = b then dropRepeated (b :: rest) else a :: dropRepeated (b :: rest)
  | short => short

/-- The code points of a label that are not ASCII, in order and once each. -/
def codePoints (label : List Char) : List Nat :=
  dropRepeated ((label.map Char.toNat).filter (0x80 ≤ ·)).mergeSort

/-- Inserts the code points one after the other, from `n` on. -/
def insertFrom (label : List Char) : Nat → List Nat → Progress → Progress
  | _, [], p => p
  | n, m :: rest, p =>
    let p := insertAll m label { p with delta := p.delta + (m - n) * (p.written + 1) }
    insertFrom label (m + 1) rest { p with delta := p.delta + 1 }

/-- **The written form of a label.** -/
def encode (label : List Char) : List Char :=
  let basic := label.filter (·.toNat < 0x80)
  let p := insertFrom label 0x80 (codePoints label) ⟨0, 72, basic.length, true, []⟩
  (if basic.isEmpty then [] else basic ++ ['-']) ++ p.digits.reverse

/-- Reads digits of a gap: the gap and the rest of the text. -/
def readGap (bias : Nat) : Nat → Nat → Nat → List Char → Option (Nat × List Char)
  | _, _, _, [] => none
  | k, weight, i, c :: rest =>
    (digitValue? c).bind fun d =>
      let t := threshold k bias
      let i := i + d * weight
      if 0x100000000 ≤ i then none
      else if d < t then some (i, rest)
      else readGap bias (k + 36) (weight * (36 - t)) i rest

/-- Inserts the characters of gaps into a label. -/
def decodeGaps : Nat → Nat → Nat → Nat → Bool → List Char → List Char → Option (List Char)
  | _, _, _, _, _, label, [] => some label
  | 0, _, _, _, _, _, _ => none
  | fuel + 1, n, i, bias, first, label, text =>
    (readGap bias 36 1 i text).bind fun (j, rest) =>
      let count := label.length + 1
      let n := n + j / count
      let at' := j % count
      if n < 0x110000 ∧ ¬ (0xD800 ≤ n ∧ n < 0xE000) then
        decodeGaps fuel n (at' + 1) (adapt (j - i) count first) false
          (label.take at' ++ Char.ofNat n :: label.drop at') rest
      else none

/-- **The label of a written form.** -/
def decode? (text : List Char) : Option (List Char) :=
  let tail := (text.reverse.takeWhile (· ≠ '-')).reverse
  let basic := (text.take (text.length - tail.length)).dropLast
  decodeGaps (text.length + 1) 0x80 0 72 true basic tail

end RealmKeeper.Url.Punycode
