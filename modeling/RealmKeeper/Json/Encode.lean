import RealmKeeper.Json.Basic

/-!
# Members of encoded records

A record is encoded as the list of its members. A member whose value says nothing (`none`, an empty
list, an empty text, zero) may be left out.
-/

namespace RealmKeeper.Json

/-- A signed integer of 64 bits as a value. -/
def ofInt64 (n : Int64) : Json :=
  .number (.integer n.toInt (by
    have hlow := n.le_toInt
    have hhigh := n.toInt_lt
    unfold Exact
    omega))

/-- An unsigned integer of 16 bits as a value. -/
def ofUInt16 (n : UInt16) : Json :=
  .number (.integer n.toNat (by
    have hhigh := n.toNat_lt
    unfold Exact
    omega))

/-- A member that is left out when there is no value. -/
def member? (name : String) (value : Option Json) : List (String × Json) :=
  match value with
  | some v => [(name, v)]
  | none => []

/-- A text member that is left out when there is no text. -/
def textMember? (name : String) (text : Option String) : List (String × Json) :=
  member? name (text.map .string)

/-- A text member that is left out when the text is empty. -/
def nonEmptyMember (name : String) (text : String) : List (String × Json) :=
  if text.isEmpty then [] else [(name, .string text)]

/-- A list member that is left out when the list is empty. -/
def listMember (name : String) (items : List Json) : List (String × Json) :=
  if items.isEmpty then [] else [(name, .array items)]

/-- An integer member that is left out when it is zero. -/
def nonZeroMember (name : String) (n : Int64) : List (String × Json) :=
  if n = 0 then [] else [(name, ofInt64 n)]

end RealmKeeper.Json
