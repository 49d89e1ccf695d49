import RealmKeeper.Json.Basic
import RealmKeeper.Json.Token

/-!
# Documents

JSON text as a tree. Reading never fails as a whole: where the text cannot be read on, the tree
carries a mark, so that what was written before a fault can still be looked at first.

* `Fault`: the marks;
* `Document.ofBytes`: the tree of a text, and whether anything follows it.

Values may be nested 127 deep; a value nested deeper counts as unreadable, but it can be passed
over.
-/

namespace RealmKeeper.Json

/-- Why a part of a text cannot be read. -/
inductive Fault where
  /-- The text is well formed here and can be passed over, but it denotes no value. -/
  | value
  /-- The name of this member denotes no characters; the object can only be passed over whole. -/
  | name
  /-- Where the first name of an object should stand, something else stands. -/
  | misnamed (found : Option Found)
  /-- From here on the text is not JSON. -/
  | text

/-- The fault lets the reader go on behind it. -/
def Fault.isPassable : Fault → Bool
  | .value | .name => true
  | .misnamed _ | .text => false

/-- **A text as a tree.** -/
structure Document where
  tree : ValueTree Fault
  /-- Something follows the value. -/
  trailing : Bool

/-! ### Building the tree -/

/-- A container in progress; what it holds is in reverse. -/
inductive Frame where
  | array (items : List (ValueTree Fault))
  /-- The name is that of the member whose value is next; `none` if it denotes nothing. -/
  | object (members : List (String × ValueTree Fault)) (name : Option String)

/-- What may come next. -/
inductive Awaited where
  | value
  | firstItem
  | firstName
  | name
  | colon
  | next

/-- The state of reading: the containers in progress, innermost first, how many they are, and what
may come next; or the finished document. -/
inductive State where
  | reading (depth : Nat) (stack : List Frame) (awaited : Awaited)
  | finished (document : Document)

/-- How deep values may be nested. -/
def greatestDepth : Nat := 127

/-- Adds a value that was read to its end. -/
def Frame.add (t : ValueTree Fault) : Frame → Frame
  | .array items => .array (t :: items)
  | .object members (some name) => .object ((name, t) :: members) (some "")
  | .object members none => .object (("", .unreadable .name) :: members) (some "")

/-- Adds a value that the text breaks off in. -/
def Frame.addBroken (t : ValueTree Fault) : Frame → Frame
  | .array items => .array (t :: items)
  | .object members name => .object ((name.getD "", t) :: members) (some "")

/-- The container as a tree. -/
def Frame.tree : Frame → ValueTree Fault
  | .array items => .array items.reverse
  | .object members _ => .object members.reverse

/-- The tree of a text that breaks off in the given value, inside `depth` containers. -/
def brokenTree : Nat → ValueTree Fault → List Frame → ValueTree Fault
  | _, t, [] => t
  | depth, t, frame :: outer =>
    brokenTree (depth - 1)
      (if greatestDepth < depth then .unreadable .text else (frame.addBroken t).tree) outer

/-- The text breaks off. -/
def State.breakOff (fault : Fault) (depth : Nat) (stack : List Frame) : State :=
  .finished ⟨brokenTree depth (.unreadable fault) stack, true⟩

/-- A value has been read to its end. -/
def State.deliver (t : ValueTree Fault) (depth : Nat) : List Frame → State
  | [] => .finished ⟨t, false⟩
  | frame :: outer => .reading depth (frame.add t :: outer) .next

/-- The innermost container ends. -/
def State.closeInner (depth : Nat) : List Frame → State
  | [] => .breakOff .text depth []
  | frame :: outer =>
    State.deliver (if greatestDepth < depth then .unreadable .value else frame.tree) (depth - 1)
      outer

/-- A value that is a single word. -/
def Token.leaf? : Token → Option (ValueTree Fault)
  | .null => some .null
  | .bool b => some (.bool b)
  | .number (some n) => some (.number n)
  | .number none => some (.unreadable .value)
  | .string (some s) => some (.string s)
  | .string none => some (.unreadable .value)
  | _ => none

/-- A word where a value should stand. -/
def State.beginValue (depth : Nat) (stack : List Frame) (token : Token) : State :=
  match token with
  | .openArray => .reading (depth + 1) (.array [] :: stack) .firstItem
  | .openObject => .reading (depth + 1) (.object [] (some "") :: stack) .firstName
  | token =>
    match token.leaf? with
    | some t => .deliver t depth stack
    | none => .breakOff .text depth stack

/-- A name has been read. -/
def State.beginMember (depth : Nat) (name : Option String) : List Frame → State
  | .object members _ :: outer => .reading depth (.object members name :: outer) .colon
  | stack => .breakOff .text depth stack

/-- What a word that should be a name begins instead. -/
def Token.found? : Token → Option Found
  | .null => some .null
  | .bool b => some (.boolean b)
  | .number (some n) => some n.found
  | .openArray => some .sequence
  | .openObject => some .map
  | _ => none

/-- **One word.** -/
def State.step : State → Token → State
  | .finished d, _ => .finished { d with trailing := true }
  | .reading depth stack .value, token => .beginValue depth stack token
  | .reading depth stack .firstItem, .closeArray => .closeInner depth stack
  | .reading depth stack .firstItem, token => .beginValue depth stack token
  | .reading depth stack .firstName, .closeObject => .closeInner depth stack
  | .reading depth stack .firstName, .string name => .beginMember depth name stack
  | .reading depth stack .firstName, token => .breakOff (.misnamed token.found?) depth stack
  | .reading depth stack .name, .string name => .beginMember depth name stack
  | .reading depth stack .name, _ => .breakOff .text depth stack
  | .reading depth stack .colon, .colon => .reading depth stack .value
  | .reading depth stack .colon, _ => .breakOff .text depth stack
  | .reading depth stack .next, token =>
    match stack, token with
    | .array _ :: _, .comma => .reading depth stack .value
    | .array _ :: _, .closeArray => .closeInner depth stack
    | .object _ _ :: _, .comma => .reading depth stack .name
    | .object _ _ :: _, .closeObject => .closeInner depth stack
    | _, _ => .breakOff .text depth stack

/-- The document of a text that ends here. -/
def State.document : State → Document
  | .finished d => d
  | .reading depth stack _ => ⟨brokenTree depth (.unreadable .text) stack, false⟩

namespace Document

/-- The document of a list of words. -/
def ofTokens (ts : List Token) : Document :=
  (ts.foldl State.step (.reading 0 [] .value)).document

/-- **The document of a text.** -/
def ofBytes (bs : List UInt8) : Document :=
  ofTokens (tokens bs)

/-- The value of a text that is one well-formed value. -/
def value? (d : Document) : Option Json :=
  if d.trailing then none else d.tree.value?

end Document

end RealmKeeper.Json
