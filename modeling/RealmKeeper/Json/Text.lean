import RealmKeeper.Json.Basic
import RealmKeeper.Text.Utf8

/-!
# The text of JSON values

* `chars`: the compact text, without spaces;
* `prettyChars`: the text with one item or member a line, indented by two spaces a level;
* `Json.compact`, `Json.pretty`: the same as strings.

Inside strings only quotes, backslashes and the controls below U+0020 are escaped.
-/

namespace RealmKeeper.Json

/-- A hexadecimal digit, in lower case. -/
def hexChar (n : Nat) : Char :=
  if n < 10 then Char.ofNat (0x30 + n) else Char.ofNat (0x57 + n)

/-- One character between quotes. -/
def escapeChar (c : Char) : List Char :=
  if c = '"' then ['\\', '"']
  else if c = '\\' then ['\\', '\\']
  else if c = '\x08' then ['\\', 'b']
  else if c = '\x0C' then ['\\', 'f']
  else if c = '\n' then ['\\', 'n']
  else if c = '\r' then ['\\', 'r']
  else if c = '\t' then ['\\', 't']
  else if c.toNat < 0x20 then ['\\', 'u', '0', '0', hexChar (c.toNat / 16), hexChar (c.toNat % 16)]
  else [c]

/-- The text of a string. -/
def stringChars (s : String) : List Char :=
  '"' :: s.toList.flatMap escapeChar ++ ['"']

/-! ### Compact text -/

mutual

/-- **The compact text of a value.** -/
def chars : Json → List Char
  | .null => ['n', 'u', 'l', 'l']
  | .bool true => ['t', 'r', 'u', 'e']
  | .bool false => ['f', 'a', 'l', 's', 'e']
  | .number n => n.chars
  | .string s => stringChars s
  | .array items => '[' :: itemChars items ++ [']']
  | .object members => '\x7b' :: memberChars members ++ ['\x7d']

/-- The items, with commas between them. -/
def itemChars : List Json → List Char
  | [] => []
  | [v] => chars v
  | v :: rest => chars v ++ ',' :: itemChars rest

/-- The members, with commas between them. -/
def memberChars : List (String × Json) → List Char
  | [] => []
  | [(name, v)] => stringChars name ++ ':' :: chars v
  | (name, v) :: rest => stringChars name ++ ':' :: chars v ++ ',' :: memberChars rest

end

/-! ### Indented text -/

/-- A new line, indented by so many levels. -/
def newLine (level : Nat) : List Char :=
  '\n' :: List.replicate (2 * level) ' '

mutual

/-- **The indented text of a value** that stands at the given level. -/
def prettyChars (level : Nat) : Json → List Char
  | .array [] => ['[', ']']
  | .array (v :: rest) =>
    '[' :: newLine (level + 1) ++ prettyChars (level + 1) v ++ prettyItems (level + 1) rest ++
      newLine level ++ [']']
  | .object [] => ['\x7b', '\x7d']
  | .object ((name, v) :: rest) =>
    '\x7b' :: newLine (level + 1) ++ stringChars name ++ ':' :: ' ' :: prettyChars (level + 1) v ++
      prettyMembers (level + 1) rest ++ newLine level ++ ['\x7d']
  | .null => chars .null
  | .bool b => chars (.bool b)
  | .number n => n.chars
  | .string s => stringChars s

/-- The items after the first. -/
def prettyItems (level : Nat) : List Json → List Char
  | [] => []
  | v :: rest => ',' :: newLine level ++ prettyChars level v ++ prettyItems level rest

/-- The members after the first. -/
def prettyMembers (level : Nat) : List (String × Json) → List Char
  | [] => []
  | (name, v) :: rest =>
    ',' :: newLine level ++ stringChars name ++ ':' :: ' ' :: prettyChars level v ++
      prettyMembers level rest

end

/-- The compact text of a value as a string. -/
def compact (v : Json) : String :=
  String.ofList (chars v)

/-- The indented text of a value as a string. -/
def pretty (v : Json) : String :=
  String.ofList (prettyChars 0 v)

/-- The compact text of a value as octets. -/
def bytes (v : Json) : List UInt8 :=
  Text.Utf8.encode (chars v)

end RealmKeeper.Json
