import RealmKeeper.Text.Utf8
import RealmKeeper.Url.Percent
import RealmKeeper.Url.Punycode

/-!
# Domain names

The ASCII form of the domain name in a URL: octets are read as UTF-8, letters become small, and
labels that are not ASCII are written in punycode.

A name is answered for when it is ASCII or its other characters are listed in `foldRanges`, where
folding is all that the mapping for domain names does. The rest of that mapping, the canonical
composition of letters with their marks, the rules for joiners and those for writing from right to
left are not here, and neither are labels beyond ASCII of more than `labelLimit` characters: a name
that would need them is unlisted, which does not say whether it is a domain name.

* `NameFault`: why a name has no ASCII form here;
* `asciiForm`: the ASCII form.
-/

namespace RealmKeeper.Url

open RealmKeeper.Text

/-- **Why a name has no ASCII form here.** -/
inductive NameFault where
  /-- It is no domain name. -/
  | invalid
  /-- It is none of the names that are answered for. -/
  | unlisted
deriving DecidableEq, Repr

/-- What the characters of a range stand for in a domain name. -/
inductive Folding where
  /-- Each for itself. -/
  | kept
  /-- Each for the character at a constant distance. -/
  | shifted (distance : Int)
  /-- A capital letter, its small letter, the next capital letter, and so on: each for the small
  one. -/
  | paired

/-- Characters in a row that fold alike. -/
structure FoldRange where
  first : Nat
  last : Nat
  folding : Folding

/-- Letters and signs beyond ASCII: Latin, Greek, Cyrillic, Armenian, Japanese, Chinese and Korean
ones, pictures, and wide forms of ASCII. No character that one of them stands for combines with its
neighbours or is written from right to left, so folding leaves nothing to normalise. -/
def foldRanges : List FoldRange :=
  [⟨0xC0, 0xD6, .shifted 32⟩, ⟨0xD8, 0xDE, .shifted 32⟩, ⟨0xDF, 0xFF, .kept⟩,
    ⟨0x100, 0x12F, .paired⟩, ⟨0x131, 0x131, .kept⟩, ⟨0x134, 0x137, .paired⟩,
    ⟨0x138, 0x138, .kept⟩, ⟨0x139, 0x13E, .paired⟩, ⟨0x141, 0x148, .paired⟩,
    ⟨0x14A, 0x177, .paired⟩, ⟨0x178, 0x178, .shifted (-121)⟩, ⟨0x179, 0x17E, .paired⟩,
    ⟨0x1CD, 0x1DC, .paired⟩, ⟨0x1DE, 0x1EF, .paired⟩, ⟨0x1F8, 0x21F, .paired⟩,
    ⟨0x222, 0x233, .paired⟩,
    ⟨0x386, 0x386, .shifted 38⟩, ⟨0x388, 0x38A, .shifted 37⟩, ⟨0x38C, 0x38C, .shifted 64⟩,
    ⟨0x38E, 0x38F, .shifted 63⟩, ⟨0x390, 0x390, .kept⟩, ⟨0x391, 0x3A1, .shifted 32⟩,
    ⟨0x3A3, 0x3AB, .shifted 32⟩, ⟨0x3AC, 0x3CE, .kept⟩,
    ⟨0x400, 0x40F, .shifted 80⟩, ⟨0x410, 0x42F, .shifted 32⟩, ⟨0x430, 0x45F, .kept⟩,
    ⟨0x460, 0x481, .paired⟩, ⟨0x48A, 0x4BF, .paired⟩, ⟨0x4C1, 0x4CE, .paired⟩,
    ⟨0x4CF, 0x4CF, .kept⟩, ⟨0x4D0, 0x52F, .paired⟩,
    ⟨0x531, 0x556, .shifted 48⟩, ⟨0x561, 0x586, .kept⟩,
    ⟨0x1E00, 0x1E95, .paired⟩, ⟨0x1E96, 0x1E99, .kept⟩, ⟨0x1EA0, 0x1EFF, .paired⟩,
    ⟨0x2600, 0x26FF, .kept⟩, ⟨0x3005, 0x3007, .kept⟩, ⟨0x3041, 0x3096, .kept⟩,
    ⟨0x30A1, 0x30FC, .kept⟩, ⟨0x3400, 0x4DBF, .kept⟩, ⟨0x4E00, 0x9FFF, .kept⟩,
    ⟨0xAC00, 0xD7A3, .kept⟩,
    ⟨0xFF01, 0xFF20, .shifted (-65248)⟩, ⟨0xFF21, 0xFF3A, .shifted (-65216)⟩,
    ⟨0xFF3B, 0xFF5E, .shifted (-65248)⟩, ⟨0x1F300, 0x1F64F, .kept⟩]

/-- The character that the character `n` of a range stands for. -/
def FoldRange.fold (r : FoldRange) (n : Nat) : Char :=
  match r.folding with
  | .kept => Char.ofNat n
  | .shifted distance => Char.ofNat ((n : Int) + distance).toNat
  | .paired => Char.ofNat (if (n - r.first) % 2 = 0 then n + 1 else n)

/-- The characters that a character of a domain name stands for: a joiner, a soft hyphen and a
variation selector for nothing, another full stop for the full stop. `none` for a character that no
table lists. -/
def foldChar? (c : Char) : Option (List Char) :=
  let n := c.toNat
  if n < 0x80 then some [c.toLower]
  else if n = 0xAD ∨ n = 0x200B ∨ n = 0x2060 ∨ n = 0xFEFF ∨ 0xFE00 ≤ n ∧ n ≤ 0xFE0F then some []
  else if n = 0x3002 ∨ n = 0xFF61 then some ['.']
  else (foldRanges.find? fun r => r.first ≤ n && n ≤ r.last).map fun r => [r.fold n]

/-- The text with each character folded. -/
def foldText? : List Char → Option (List Char)
  | [] => some []
  | c :: rest => (foldChar? c).bind fun first => (foldText? rest).map fun others => first ++ others

/-- The ASCII characters that no domain name holds. -/
def isForbiddenInDomain (c : Char) : Bool :=
  c.toNat ≤ 0x20 || c.toNat == 0x7F ||
    ['#', '%', '/', ':', '<', '>', '?', '@', '[', '\\', ']', '^', '|'].contains c

/-- The parts of a text between full stops. -/
def labels : List Char → List (List Char)
  | [] => [[]]
  | c :: rest =>
    if c = '.' then [] :: labels rest
    else
      match labels rest with
      | [] => [[c]]
      | first :: others => (c :: first) :: others

/-- Labels with full stops between them. -/
def joinLabels (ls : List (List Char)) : List Char :=
  (ls.intersperse ['.']).flatten

/-- The beginning of labels in punycode. -/
def punycodeMark : List Char := ['x', 'n', '-', '-']

/-- The most characters that a label beyond ASCII may have. -/
def labelLimit : Nat := 1000

/-- The ASCII form of one folded label. -/
def asciiLabel (label : List Char) : Except NameFault (List Char) :=
  let isPlain := label.all (·.toNat < 0x80)
  let isMarked := punycodeMark.isPrefixOf label
  if isPlain && !isMarked then .ok label
  else if labelLimit < label.length then .error .unlisted
  else if !isMarked then .ok (punycodeMark ++ Punycode.encode label)
  -- what stands after the mark is punycode, which is ASCII
  else if !isPlain then .error .invalid
  else
    match Punycode.decode? (label.drop 4) with
    | none => .error .invalid
    | some decoded =>
      match foldText? decoded with
      | none => .error .unlisted
      | some folded =>
        if decoded.any (0x80 ≤ ·.toNat) && folded == decoded &&
            Punycode.encode decoded == label.drop 4 then
          .ok label
        else .error .invalid

/-- The ASCII forms of all labels. -/
def asciiLabels : List (List Char) → Except NameFault (List (List Char))
  | [] => .ok []
  | label :: rest =>
    (asciiLabel label).bind fun first => (asciiLabels rest).map fun others => first :: others

/-- The name that is written in ASCII, unless it holds a forbidden character. -/
def permitted (name : List Char) : Except NameFault (List Char) :=
  if name.any isForbiddenInDomain then .error .invalid else .ok name

/-- **The ASCII form of a domain name** as it stands in a URL, escapes included. -/
def asciiForm (cs : List Char) : Except NameFault (List Char) :=
  match Utf8.decode (unescape cs) with
  | none => .error .invalid
  | some text =>
    match foldText? text with
    | none => .error .unlisted
    | some folded => (asciiLabels (labels folded)).bind fun ls => permitted (joinLabels ls)

end RealmKeeper.Url
