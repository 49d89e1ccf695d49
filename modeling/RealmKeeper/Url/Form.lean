import RealmKeeper.Url.Percent

/-!
# Form encoding

Pairs of names and values as they are written in a query or in the body of a form: letters, digits
and `* - . _` stand for themselves, a space is written as a plus sign, and all else is escaped.

* `formText`: the text of a list of pairs;
* `formPairs`: the pairs of a text.
-/

namespace RealmKeeper.Url

open RealmKeeper.Text

/-- The octets that stand for themselves. -/
def isFormPlain (b : UInt8) : Bool :=
  (0x30 ≤ b && b ≤ 0x39) || (0x41 ≤ b && b ≤ 0x5A) || (0x61 ≤ b && b ≤ 0x7A) ||
    b == 0x2A || b == 0x2D || b == 0x2E || b == 0x5F

/-- One octet in form encoding. -/
def formOctet (b : UInt8) : List Char :=
  if isFormPlain b then [Char.ofNat b.toNat] else if b = 0x20 then ['+'] else escapeOctet b

/-- A name or value in form encoding. -/
def formEncode (cs : List Char) : List Char :=
  (Utf8.encode cs).flatMap formOctet

/-- One pair in form encoding. -/
def formPair (pair : List Char × List Char) : List Char :=
  formEncode pair.1 ++ '=' :: formEncode pair.2

/-- **The text of a list of pairs.** -/
def formText (pairs : List (List Char × List Char)) : List Char :=
  (pairs.map formPair).intersperse ['&'] |>.flatten

/-- A text with one more pair at its end. -/
def appendPair (text : List Char) (pair : List Char × List Char) : List Char :=
  if text.isEmpty then formPair pair else text ++ '&' :: formPair pair

/-! ### Reading -/

/-- The parts of a text between ampersands. -/
def formParts : List Char → List (List Char)
  | [] => [[]]
  | c :: rest =>
    if c = '&' then [] :: formParts rest
    else
      match formParts rest with
      | [] => [[c]]
      | first :: others => (c :: first) :: others

/-- A name or value read back; ill-formed octets read as replacement characters. -/
def formDecode (cs : List Char) : List Char :=
  Utf8.decodeLossy (unescape (cs.map fun c => if c = '+' then ' ' else c))

/-- The pair of a part: what stands before and after the first equals sign. -/
def pairOf (part : List Char) : List Char × List Char :=
  (formDecode (part.takeWhile (· ≠ '=')), formDecode ((part.dropWhile (· ≠ '=')).drop 1))

/-- **The pairs of a text**; empty parts are none. -/
def formPairs (text : List Char) : List (List Char × List Char) :=
  ((formParts text).filter (· ≠ [])).map pairOf

end RealmKeeper.Url
