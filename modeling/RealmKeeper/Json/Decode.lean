import RealmKeeper.Json.Document
import RealmKeeper.Text.Quoted

/-!
# Reading domain values from JSON

Readers take a tree apart in the order of the text and stop at the first thing they cannot use.

* `DecodeError`: what can be wrong, and its wording;
* `Refusal`: an error together with the place where it arose;
* `Medium`: whether a document is read as it goes or is already a tree;
* readers for the basic values, and `Shape`, the reader of records.
-/

namespace RealmKeeper.Json

open RealmKeeper.Text

/-! ### Errors -/

/-- What a reader wanted. -/
inductive Expected where
  | text
  | boolean
  | sequence
  | int64
  | uint16
  | uint8
  | enumeration
  | variant
  | unit
  | record (name : String)
  | recordItems (name : String) (count : Nat)
  | fewerItems
  | singleEntry
deriving DecidableEq

/-- **Why a document has no value of the wanted type.** -/
inductive DecodeError where
  | malformed
  | missingField (name : String)
  | duplicateField (name : String)
  | invalidType (found : Found) (expected : Expected)
  | invalidValue (found : Found) (expected : Expected)
  | invalidLength (length : Nat) (expected : Expected)
  | unknownVariant (name : String) (known : List String)
  | noVariant (enumeration : String)
deriving DecidableEq

/-- The wording of what was found. -/
def Found.describe : Found → String
  | .null => "null"
  | .boolean true => "boolean `true`"
  | .boolean false => "boolean `false`"
  | .integer n => "integer `" ++ String.ofList (intChars n) ++ "`"
  | .float x => "floating point `" ++ String.ofList (Numeral.float x).chars ++ "`"
  | .string s => "string " ++ quotedString s
  | .sequence => "sequence"
  | .map => "map"

/-- The decimal text of a natural number. -/
def natString (n : Nat) : String :=
  String.ofList (Number.digitChars n)

/-- The wording of what was wanted. -/
def Expected.describe : Expected → String
  | .text => "a string"
  | .boolean => "a boolean"
  | .sequence => "a sequence"
  | .int64 => "i64"
  | .uint16 => "u16"
  | .uint8 => "u8"
  | .enumeration => "string or map"
  | .variant => "variant identifier"
  | .unit => "unit"
  | .record name => "struct " ++ name
  | .recordItems name count =>
    "struct " ++ name ++ " with " ++ natString count ++
      (if count = 1 then " element" else " elements")
  | .fewerItems => "fewer elements in array"
  | .singleEntry => "map with a single key"

/-- **The wording of an error.** -/
def DecodeError.message : DecodeError → String
  | .malformed => "invalid JSON"
  | .missingField name => "missing field `" ++ name ++ "`"
  | .duplicateField name => "duplicate field `" ++ name ++ "`"
  | .invalidType found expected =>
    "invalid type: " ++ found.describe ++ ", expected " ++ expected.describe
  | .invalidValue found expected =>
    "invalid value: " ++ found.describe ++ ", expected " ++ expected.describe
  | .invalidLength length expected =>
    "invalid length " ++ natString length ++ ", expected " ++ expected.describe
  | .unknownVariant name known =>
    "unknown variant `" ++ name ++ "`, expected one of " ++
      ", ".intercalate (known.map fun k => "`" ++ k ++ "`")
  | .noVariant enumeration => "data did not match any variant of untagged enum " ++ enumeration

/-- One step from a value to a part of it. -/
inductive PathStep where
  | member (name : String)
  | item (index : Nat)
  | variant (name : String)
deriving DecidableEq

/-- **An error and the place where it arose**, from the whole document inwards. -/
structure Refusal where
  path : List PathStep
  cause : DecodeError
deriving DecidableEq

/-- What reading gives. -/
abbrev Decoded (α : Type) : Type := Except Refusal α

/-- The error at the value itself. -/
def refuse {α : Type} (cause : DecodeError) : Decoded α :=
  .error ⟨[], cause⟩

/-- Places what a part of a value gave inside the value. -/
def within {α : Type} (place : PathStep) : Decoded α → Decoded α
  | .ok a => .ok a
  | .error r => .error { r with path := place :: r.path }

/-- The text of a path; names are separated by points, and positions stand in brackets. -/
def pathText : List PathStep → String
  | [] => ""
  | place :: rest =>
    let text := match place with
      | .member name | .variant name => name
      | .item index => "[" ++ natString index ++ "]"
    match rest with
    | [] => text
    | .item _ :: _ => text ++ pathText rest
    | _ => text ++ "." ++ pathText rest

/-! ### Documents -/

/-- The marks of a tree, and whether its document is read as it goes. -/
class Medium (φ : Type) where
  fault : φ → Fault
  streamed : Bool

instance : Medium Empty := ⟨nofun, false⟩

instance : Medium Fault := ⟨id, true⟩

section Readers

variable {φ : Type} [Medium φ]

/-- The error of a value that is not what was wanted. -/
def mismatch {α : Type} (expected : Expected) : ValueTree φ → Decoded α
  | .null => refuse (.invalidType .null expected)
  | .bool b => refuse (.invalidType (.boolean b) expected)
  | .number n => refuse (.invalidType n.found expected)
  | .string s => refuse (.invalidType (.string s) expected)
  | .array _ => refuse (.invalidType .sequence expected)
  | .object _ => refuse (.invalidType .map expected)
  | .unreadable _ => refuse .malformed

mutual

/-- Every mark in the tree can be passed over. -/
def ValueTree.isPassable : ValueTree φ → Bool
  | .array items => ValueTree.arePassableItems items
  | .object members => ValueTree.arePassableMembers members
  | .unreadable f => (Medium.fault f).isPassable
  | _ => true

def ValueTree.arePassableItems : List (ValueTree φ) → Bool
  | [] => true
  | t :: rest => t.isPassable && ValueTree.arePassableItems rest

def ValueTree.arePassableMembers : List (String × ValueTree φ) → Bool
  | [] => true
  | (_, t) :: rest => t.isPassable && ValueTree.arePassableMembers rest

end

/-- Passes over a member that nobody wants. -/
def skip (t : ValueTree φ) : Decoded Unit :=
  match t with
  | .unreadable f =>
    match Medium.fault f with
    | .value => .ok ()
    | _ => refuse .malformed
  | t => if t.isPassable then .ok () else refuse .malformed

/-- Reads a text. -/
def readString : ValueTree φ → Decoded String
  | .string s => .ok s
  | t => mismatch .text t

/-- Reads a truth value. -/
def readBool : ValueTree φ → Decoded Bool
  | .bool b => .ok b
  | t => mismatch .boolean t

/-- Reads an integer that is at least `low` and below `high`. -/
def readInt (expected : Expected) (low high : Int) : ValueTree φ → Decoded Int
  | .number (.integer n _) =>
    if low ≤ n ∧ n < high then .ok n else refuse (.invalidValue (.integer n) expected)
  | t => mismatch expected t

/-- Reads a signed integer of 64 bits. -/
def readInt64 (t : ValueTree φ) : Decoded Int64 :=
  (readInt .int64 (-9223372036854775808) 9223372036854775808 t).map Int64.ofInt

/-- Reads an unsigned integer of 16 bits. -/
def readUInt16 (t : ValueTree φ) : Decoded UInt16 :=
  (readInt .uint16 0 65536 t).map fun n => UInt16.ofNat n.toNat

/-- Reads a value that may be `null`. -/
def readOption {α : Type} (read : ValueTree φ → Decoded α) : ValueTree φ → Decoded (Option α)
  | .null => .ok none
  | t => (read t).map some

/-- Reads items from a position on, those before it in reverse. -/
def readItemsFrom {α : Type} (read : ValueTree φ → Decoded α) :
    Nat → List α → List (ValueTree φ) → Decoded (List α)
  | _, done, [] => .ok done.reverse
  | index, done, t :: rest =>
    match within (.item index) (read t) with
    | .ok a => readItemsFrom read (index + 1) (a :: done) rest
    | .error r => .error r

/-- Reads a list. -/
def readList {α : Type} (read : ValueTree φ → Decoded α) : ValueTree φ → Decoded (List α)
  | .array items => readItemsFrom read 0 [] items
  | t => mismatch .sequence t

/-- Reads any value, with its members as they are written. -/
def readWritten (t : ValueTree φ) : Decoded Json :=
  match t.value? with
  | some v => .ok v
  | none => refuse .malformed

/-- Reads any value, in its canonical form. -/
def readJson (t : ValueTree φ) : Decoded Json :=
  (readWritten t).map canonical

/-- The variant of a name. -/
def variantOf {α : Type} (variants : List (String × α)) (name : String) : Decoded α :=
  match lookup name variants with
  | some a => .ok a
  | none => refuse (.unknownVariant name (variants.map Prod.fst))

/-- The content of a variant that has none. -/
def readUnit : ValueTree φ → Decoded Unit
  | .null => .ok ()
  | t => mismatch .unit t

/-- A variant that is given as the only member of an object. -/
def readVariantMember {α : Type} (variants : List (String × α)) (name : String)
    (content : ValueTree φ) : Decoded α :=
  match variantOf variants name with
  | .ok a => (within (.variant name) (readUnit content)).map fun _ => a
  | .error r => .error r

/-- **Reads a variant**: its name, or an object whose only member has that name and no content. -/
def readVariant {α : Type} (variants : List (String × α)) : ValueTree φ → Decoded α
  | .string name => variantOf variants name
  | .object members =>
    if Medium.streamed φ then
      match members with
      | [] => refuse .malformed
      | (name, content) :: rest =>
        match content with
        | .unreadable f =>
          match Medium.fault f with
          | .misnamed (some found) => refuse (.invalidType found .variant)
          | .misnamed none | .name => refuse .malformed
          | _ => readVariantMember variants name content
        | content =>
          match readVariantMember variants name content with
          | .ok a => if rest.isEmpty then .ok a else refuse .malformed
          | .error r => .error r
    else
      match members with
      | [(name, content)] => readVariantMember variants name content
      | _ => refuse (.invalidValue .map .singleEntry)
  | t => if Medium.streamed φ then refuse .malformed else mismatch .enumeration t

/-- **Reads an open name**: any text, or an object whose only member is a known name without
content. -/
def readOpenName {α : Type} (enumeration : String) (known : String → Bool) (ofName : String → α)
    (t : ValueTree φ) : Decoded α :=
  if t.isClean then
    match t with
    | .string name => .ok (ofName name)
    | .object [(name, .null)] =>
      if known name then .ok (ofName name) else refuse (.noVariant enumeration)
    | _ => refuse (.noVariant enumeration)
  else refuse .malformed

/-! ### Records -/

/-- A field of a record: how its value is read and put into the record. -/
structure Field (φ σ : Type) where
  name : String
  required : Bool
  read : ValueTree φ → Decoded (σ → σ)

/-- A field from a reader of its values. -/
def Field.of {σ α : Type} (name : String) (required : Bool) (read : ValueTree φ → Decoded α)
    (put : α → σ → σ) : Field φ σ :=
  ⟨name, required, fun t => (read t).map put⟩

/-- **The shape of a record**: its name and its fields in order. -/
structure Shape (φ σ : Type) where
  name : String
  fields : List (Field φ σ)

namespace Shape

variable {σ : Type}

/-- Reads members in the order of the text; `other` takes those that are no field. The names of
the fields that were read are kept. -/
def readMembers (shape : Shape φ σ) (other : String → ValueTree φ → σ → Decoded σ) :
    List (String × ValueTree φ) → List String → σ → Decoded (List String × σ)
  | [], seen, record => .ok (seen, record)
  | (name, t) :: rest, seen, record =>
    match shape.fields.find? fun f => f.name = name with
    | some field =>
      if name ∈ seen then refuse (.duplicateField name)
      else
        match within (.member name) (field.read t) with
        | .ok put => readMembers shape other rest (name :: seen) (put record)
        | .error r => .error r
    | none =>
      match within (.member name) (other name t record) with
      | .ok record => readMembers shape other rest seen record
      | .error r => .error r

/-- The first required field that was not read. -/
def missing? (shape : Shape φ σ) (seen : List String) : Option String :=
  (shape.fields.find? fun f => f.required && f.name ∉ seen).map (·.name)

/-- **Reads the members of an object**; a field is given at most once, and every required one. -/
def ofMembers (shape : Shape φ σ) (other : String → ValueTree φ → σ → Decoded σ) (blank : σ)
    (members : List (String × ValueTree φ)) : Decoded σ :=
  match shape.readMembers other members [] blank with
  | .error r => .error r
  | .ok (seen, record) =>
    match shape.missing? seen with
    | some name => refuse (.missingField name)
    | none => .ok record

/-- Reads items as the fields in order, from a position on; what is left over is given back. -/
def readItems (shape : Shape φ σ) :
    Nat → List (Field φ σ) → List (ValueTree φ) → σ → Decoded (List (ValueTree φ) × σ)
  | _, [], items, record => .ok (items, record)
  | index, field :: fields, [], record =>
    if field.required then
      refuse (.invalidLength index (.recordItems shape.name shape.fields.length))
    else readItems shape (index + 1) fields [] record
  | index, field :: fields, t :: items, record =>
    match within (.item index) (field.read t) with
    | .ok put => readItems shape (index + 1) fields items (put record)
    | .error r => .error r

/-- **Reads the items of an array** as the fields in order; optional ones at the end may lack. -/
def ofItems (shape : Shape φ σ) (blank : σ) (items : List (ValueTree φ)) : Decoded σ :=
  match shape.readItems 0 shape.fields items blank with
  | .error r => .error r
  | .ok ([], record) => .ok record
  | .ok (_ :: _, _) =>
    if Medium.streamed φ then refuse .malformed
    else refuse (.invalidLength items.length .fewerItems)

/-- Passes over a member that is no field. -/
def ignore (_ : String) (t : ValueTree φ) (record : σ) : Decoded σ :=
  (skip t).map fun _ => record

/-- **Reads a record** from an object, whose other members are passed over, or from an array. -/
def read (shape : Shape φ σ) (blank : σ) : ValueTree φ → Decoded σ
  | .object members => shape.ofMembers ignore blank members
  | .array items => shape.ofItems blank items
  | t => mismatch (.record shape.name) t

/-- **Reads an open record** from an object; `other` takes the members that are no field. -/
def readOpen (shape : Shape φ σ) (other : String → ValueTree φ → σ → Decoded σ) (blank : σ) :
    ValueTree φ → Decoded σ
  | .object members => shape.ofMembers other blank members
  | t => mismatch (.record shape.name) t

end Shape

end Readers

/-! ### Whole texts -/

/-- **Reads a text**; nothing may follow the value. -/
def readBytes {α : Type} (read : ValueTree Fault → Decoded α) (bs : List UInt8) : Decoded α :=
  let document := Document.ofBytes bs
  match read document.tree with
  | .ok a => if document.trailing then refuse .malformed else .ok a
  | .error r => .error r

end RealmKeeper.Json
