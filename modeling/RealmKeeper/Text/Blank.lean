/-!
# Blank text

The characters with the Unicode property White_Space, and the trimming of text by them.

* `isBlank`: the property itself;
* `trim`: text without the blank characters at its two ends.
-/

namespace RealmKeeper.Text

/-- A character with the Unicode property White_Space. -/
def isBlank (c : Char) : Bool :=
  let n := c.toNat
  (0x09 ≤ n && n ≤ 0x0D) || n == 0x20 || n == 0x85 || n == 0xA0 || n == 0x1680 ||
    (0x2000 ≤ n && n ≤ 0x200A) || n == 0x2028 || n == 0x2029 || n == 0x202F || n == 0x205F ||
    n == 0x3000

/-- Every character is blank; so is the empty text. -/
def isAllBlank (cs : List Char) : Bool :=
  cs.all isBlank

/-- The text without the blank characters at its end. -/
def trimRight (cs : List Char) : List Char :=
  (cs.reverse.dropWhile isBlank).reverse

/-- **Trimming**: the text without the blank characters at its two ends. -/
def trim (cs : List Char) : List Char :=
  trimRight (cs.dropWhile isBlank)

end RealmKeeper.Text
