import RealmKeeper.Text.Utf8

/-!
# Header fields

* `HeaderValue`: the octets that a header field can hold;
* `setField`: a list of fields with one of them set;
* `fieldValue?`: the last value of a field.
-/

namespace RealmKeeper.Http

open RealmKeeper.Text

/-- An octet that the value of a header field can hold: all but the controls, and the tab. -/
def isFieldOctet (b : UInt8) : Bool :=
  (0x20 ≤ b && b != 0x7F) || b == 0x09

/-- **The value of a header field.** -/
structure HeaderValue where
  octets : List UInt8
  legal : octets.all isFieldOctet = true
deriving DecidableEq

/-- The value with the given octets, if they are legal. -/
def HeaderValue.ofOctets? (bs : List UInt8) : Option HeaderValue :=
  if h : bs.all isFieldOctet = true then some ⟨bs, h⟩ else none

/-- The value with the given text, if it is legal. -/
def HeaderValue.ofString? (s : String) : Option HeaderValue :=
  ofOctets? (Utf8.bytes s)

/-- The value that names the type of JSON documents. -/
def HeaderValue.json : HeaderValue :=
  ⟨Utf8.bytes "application/json", by decide⟩

/-- The value that names the type of encoded forms. -/
def HeaderValue.form : HeaderValue :=
  ⟨Utf8.bytes "application/x-www-form-urlencoded", by decide⟩

/-- The credential that presents a token. -/
def bearer? (token : String) : Option HeaderValue :=
  HeaderValue.ofString? ("Bearer " ++ token)

/-- **Fields with one of them set**: it takes the place of the first field of its name, and the
others of that name go. -/
def setField (name : String) (value : HeaderValue) :
    List (String × HeaderValue) → List (String × HeaderValue)
  | [] => [(name, value)]
  | (n, v) :: rest =>
    if n = name then (name, value) :: rest.filter (·.1 ≠ name)
    else (n, v) :: setField name value rest

/-- The last value of a field. -/
def fieldValue? (name : String) (fields : List (String × HeaderValue)) : Option HeaderValue :=
  (fields.reverse.find? (·.1 = name)).map Prod.snd

end RealmKeeper.Http
