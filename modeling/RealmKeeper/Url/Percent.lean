import RealmKeeper.Text.Utf8

/-!
# Percent encoding

Characters that have a meaning of their own in a part of a URL are written as their UTF-8 octets,
each as a percent sign and two hexadecimal digits.

* the sets of characters that are escaped in each part of a URL;
* `escape`: a text with the characters of a set, and all that are not ASCII, escaped;
* `unescape`: the octets of an escaped text.
-/

namespace RealmKeeper.Url

open RealmKeeper.Text

/-! ### Sets of escaped characters -/

/-- Control characters. -/
def isControl (c : Char) : Bool :=
  c.toNat < 0x20 || c.toNat == 0x7F

/-- Escaped in a fragment. -/
def inFragmentSet (c : Char) : Bool :=
  isControl c || c == ' ' || c == '"' || c == '<' || c == '>' || c == '\x60'

/-- Escaped in a query. -/
def inQuerySet (c : Char) : Bool :=
  isControl c || c == ' ' || c == '"' || c == '#' || c == '<' || c == '>'

/-- Escaped in the query of a special URL. -/
def inSpecialQuerySet (c : Char) : Bool :=
  inQuerySet c || c == '\''

/-- Escaped in a path. -/
def inPathSet (c : Char) : Bool :=
  inFragmentSet c || c == '#' || c == '?' || c == '\x7b' || c == '\x7d'

/-- Escaped in a user name or password. -/
def inUserInfoSet (c : Char) : Bool :=
  inPathSet c || c == '/' || c == ':' || c == ';' || c == '=' || c == '@' || c == '[' ||
    c == '\\' || c == ']' || c == '^' || c == '|'

/-- Escaped in a path segment that is given by itself. -/
def inSegmentSet (c : Char) : Bool :=
  inPathSet c || c == '/' || c == '%'

/-- Escaped in a path segment of a special URL that is given by itself. -/
def inSpecialSegmentSet (c : Char) : Bool :=
  inSegmentSet c || c == '\\'

/-! ### Escaping -/

/-- A hexadecimal digit, in upper case. -/
def upperHexChar (n : Nat) : Char :=
  if n < 10 then Char.ofNat (0x30 + n) else Char.ofNat (0x37 + n)

/-- One octet, escaped. -/
def escapeOctet (b : UInt8) : List Char :=
  ['%', upperHexChar (b.toNat / 16), upperHexChar (b.toNat % 16)]

/-- One character, escaped if it is in the set or not ASCII. -/
def escapeChar (inSet : Char → Bool) (c : Char) : List Char :=
  if c.toNat < 0x80 && !inSet c then [c] else (Utf8.encodeNat c.toNat).flatMap escapeOctet

/-- **A text with the characters of the set escaped.** -/
def escape (inSet : Char → Bool) (cs : List Char) : List Char :=
  cs.flatMap (escapeChar inSet)

/-! ### Reading back -/

/-- The value of a hexadecimal digit. -/
def hexValue? (c : Char) : Option Nat :=
  if '0' ≤ c ∧ c ≤ '9' then some (c.toNat - 0x30)
  else if 'A' ≤ c ∧ c ≤ 'F' then some (c.toNat - 0x37)
  else if 'a' ≤ c ∧ c ≤ 'f' then some (c.toNat - 0x57)
  else none

/-- **The octets of an escaped text**; a percent sign without two digits stands for itself. -/
def unescape : List Char → List UInt8
  | [] => []
  | '%' :: a :: b :: rest =>
    match hexValue? a, hexValue? b with
    | some x, some y => (16 * x + y).toUInt8 :: unescape rest
    | _, _ => Utf8.encodeNat 0x25 ++ unescape (a :: b :: rest)
  | c :: rest => Utf8.encodeNat c.toNat ++ unescape rest

end RealmKeeper.Url
