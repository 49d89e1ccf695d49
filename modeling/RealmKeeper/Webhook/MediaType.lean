import RealmKeeper.Http.Header

/-!
# Media types

The type of a document as a header field names it: `type/subtype+suffix; name=value`.

* `MediaType`, and `MediaType.ofValue?`, which reads a header value;
* `MediaType.isJson`.
-/

namespace RealmKeeper.Webhook

open RealmKeeper.Http

/-- **A media type**, in lower case and without its parameters. -/
structure MediaType where
  type : List Char
  /-- What stands before the last plus sign. -/
  subtype : List Char
  /-- What stands behind it. -/
  suffix : Option (List Char)
deriving DecidableEq, Repr

namespace MediaType

/-- A character of a name or of a plain value. -/
def isTokenChar (c : Char) : Bool :=
  c.isAlphanum ||
    ['!', '#', '$', '%', '&', '\'', '+', '-', '.', '^', '_', '\x60', '|', '~'].contains c

/-- A character between quotes. -/
def isQuotedChar (c : Char) : Bool :=
  0x1F < c.toNat && c.toNat != 0x7F

/-! ### Parameters -/

/-- What is being read of the parameters. -/
inductive Place where
  /-- Before the name of a parameter. -/
  | start
  | name
  /-- Behind an equals sign. -/
  | valueStart
  | value
  /-- Behind the quote that opens a value. -/
  | quoteStart
  | quoted
  /-- Behind the quote that closes a value. -/
  | closed
deriving DecidableEq, Repr

/-- The place behind a character; `none` where it must not stand. A quoted value is not empty: a
quote right behind the opening one belongs to the value. -/
def Place.step : Place → Char → Option Place
  | .start, c => if c = ' ' then some .start else if isTokenChar c then some .name else none
  | .name, c => if c = '=' then some .valueStart else if isTokenChar c then some .name else none
  | .valueStart, c =>
    if c = '"' then some .quoteStart else if isTokenChar c then some .value else none
  | .value, c => if c = ';' then some .start else if isTokenChar c then some .value else none
  | .quoteStart, c => if isQuotedChar c then some .quoted else none
  | .quoted, c => if c = '"' then some .closed else if isQuotedChar c then some .quoted else none
  | .closed, c => if c = ';' then some .start else if c = ' ' then some .closed else none

/-- The parameters may end here. -/
def Place.mayEnd : Place → Bool
  | .start | .valueStart | .value | .closed => true
  | .name | .quoteStart | .quoted => false

/-- The text is a list of parameters. -/
def areParameters (cs : List Char) : Bool :=
  (cs.foldlM Place.step Place.start).any Place.mayEnd

/-! ### Types -/

/-- A subtype at its last plus sign; one at its beginning does not count. -/
def splitSuffix (cs : List Char) : List Char × Option (List Char) :=
  let suffix := (cs.reverse.takeWhile (· ≠ '+')).reverse
  let before := cs.take (cs.length - suffix.length - 1)
  if before.isEmpty then (cs, none) else (before, some suffix)

/-- Reads a media type. -/
def ofChars? (cs : List Char) : Option MediaType :=
  let type := cs.takeWhile isTokenChar
  match cs.dropWhile isTokenChar with
  | '/' :: rest =>
    let subtype := rest.takeWhile isTokenChar
    let (name, suffix) := splitSuffix (subtype.map Char.toLower)
    let result : MediaType := ⟨type.map Char.toLower, name, suffix⟩
    if type.isEmpty then none
    else
      match rest.dropWhile isTokenChar with
      | [] => some result
      | ';' :: parameters =>
        if !subtype.isEmpty && areParameters parameters then some result else none
      | _ => none
  | _ => none

/-- **The media type that a header value names.** -/
def ofValue? (value : HeaderValue) : Option MediaType :=
  if value.octets.all fun b => b < 0x80 then
    ofChars? (value.octets.map fun b => Char.ofNat b.toNat)
  else none

/-- **The type is that of JSON documents**, or is written in JSON. -/
def isJson (m : MediaType) : Bool :=
  m.type = "application".toList &&
    (m.subtype = "json".toList || m.suffix = some "json".toList)

end MediaType

end RealmKeeper.Webhook
