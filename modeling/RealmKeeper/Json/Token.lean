import RealmKeeper.Json.Numeral
import RealmKeeper.Text.Utf8

/-!
# Tokens of JSON text

The words of a JSON text. One automaton reads the octets: its state is the token in progress.

* `Token`: the words; a string or number that is well formed but denotes nothing is kept without a
  value;
* `tokens`: the words of a text, the last one `broken` if the text stops being well formed there.
-/

namespace RealmKeeper.Json

/-- **A word of a JSON text.** -/
inductive Token where
  | openArray
  | closeArray
  | openObject
  | closeObject
  | colon
  | comma
  | null
  | bool (value : Bool)
  /-- A number; `none` when it is too large for any value. -/
  | number (value : Option Numeral)
  /-- A string; `none` when it denotes no characters. -/
  | string (value : Option String)
  /-- From here on the text is not made of words. -/
  | broken
deriving Inhabited

/-! ### Strings -/

/-- A part of a string: an octet, or a UTF-16 unit that is spelled by its number. -/
inductive Piece where
  | octet (value : UInt8)
  | unit (value : Nat)

/-- The first unit of a surrogate pair. -/
def isHighSurrogate (n : Nat) : Bool :=
  0xD800 ≤ n && n ≤ 0xDBFF

/-- The second unit of a surrogate pair. -/
def isLowSurrogate (n : Nat) : Bool :=
  0xDC00 ≤ n && n ≤ 0xDFFF

/-- The code point of a surrogate pair. -/
def pairCode (high low : Nat) : Nat :=
  0x10000 + (high - 0xD800) * 0x400 + (low - 0xDC00)

/-- The octets of a string, put in reverse before those already there; `none` if a surrogate stands
alone. -/
def octetsOf : List Piece → List UInt8 → Option (List UInt8)
  | [], done => some done.reverse
  | .octet b :: rest, done => octetsOf rest (b :: done)
  | .unit u :: .unit v :: rest, done =>
    if isHighSurrogate u then
      if isLowSurrogate v then
        octetsOf rest ((Text.Utf8.encodeNat (pairCode u v)).reverse ++ done)
      else none
    else if isLowSurrogate u then none
    else octetsOf (.unit v :: rest) ((Text.Utf8.encodeNat u).reverse ++ done)
  | .unit u :: rest, done =>
    if isHighSurrogate u || isLowSurrogate u then none
    else octetsOf rest ((Text.Utf8.encodeNat u).reverse ++ done)

/-- The string that the pieces denote, if they do. -/
def stringOf (pieces : List Piece) : Option String :=
  (octetsOf pieces []).bind Text.Utf8.string?

/-! ### Numbers -/

/-- How far a number has been spelled. -/
inductive Stage where
  | sign
  | zero
  | whole
  | point
  | fraction
  | mark
  | markSign
  | exponent
deriving DecidableEq

/-- A number in progress; digits are in reverse. -/
structure NumberDraft where
  stage : Stage
  negative : Bool
  whole : List Nat
  fraction : List Nat
  down : Bool
  exponent : List Nat

/-- The number as it would be if it ended here; `none` where it cannot end. -/
def NumberDraft.literal? (d : NumberDraft) : Option Literal :=
  match d.stage with
  | .zero | .whole | .fraction => some ⟨d.negative, d.whole.reverse, d.fraction.reverse, none⟩
  | .exponent =>
    some ⟨d.negative, d.whole.reverse, d.fraction.reverse, some (d.down, d.exponent.reverse)⟩
  | _ => none

/-- The digit that an octet spells. -/
def digit? (b : UInt8) : Option Nat :=
  if 0x30 ≤ b ∧ b ≤ 0x39 then some (b.toNat - 0x30) else none

/-- The octet is `e` or `E`. -/
def isMark (b : UInt8) : Bool :=
  b == 0x65 || b == 0x45

/-- What an octet does to a number in progress. -/
inductive NumberStep where
  | more (draft : NumberDraft)
  | ended
  | broken

/-- One octet of a number. A number that begins with zero has no second digit. -/
def NumberDraft.step (d : NumberDraft) (b : UInt8) : NumberStep :=
  match d.stage, digit? b with
  | .sign, some 0 => .more { d with stage := .zero, whole := [0] }
  | .sign, some n => .more { d with stage := .whole, whole := [n] }
  | .sign, none => .broken
  | .zero, some _ => .broken
  | .zero, none =>
    if b = 0x2E then .more { d with stage := .point }
    else if isMark b then .more { d with stage := .mark } else .ended
  | .whole, some n => .more { d with whole := n :: d.whole }
  | .whole, none =>
    if b = 0x2E then .more { d with stage := .point }
    else if isMark b then .more { d with stage := .mark } else .ended
  | .point, some n => .more { d with stage := .fraction, fraction := [n] }
  | .point, none => .broken
  | .fraction, some n => .more { d with fraction := n :: d.fraction }
  | .fraction, none => if isMark b then .more { d with stage := .mark } else .ended
  | .mark, some n => .more { d with stage := .exponent, exponent := [n] }
  | .mark, none =>
    if b = 0x2B then .more { d with stage := .markSign }
    else if b = 0x2D then .more { d with stage := .markSign, down := true } else .broken
  | .markSign, some n => .more { d with stage := .exponent, exponent := [n] }
  | .markSign, none => .broken
  | .exponent, some n => .more { d with exponent := n :: d.exponent }
  | .exponent, none => .ended

/-! ### The automaton -/

/-- The token in progress. -/
inductive Mode where
  | between
  /-- A literal word, with the octets it still needs. -/
  | word (owed : List UInt8) (token : Token)
  | number (draft : NumberDraft)
  /-- A string, its pieces in reverse. -/
  | string (pieces : List Piece)
  | escape (pieces : List Piece)
  /-- A character spelled by its number, with the digits it still needs. -/
  | hex (pieces : List Piece) (value owed : Nat)
  | broken

/-- The value of a hexadecimal digit. -/
def hexDigit? (b : UInt8) : Option Nat :=
  if 0x30 ≤ b ∧ b ≤ 0x39 then some (b.toNat - 0x30)
  else if 0x41 ≤ b ∧ b ≤ 0x46 then some (b.toNat - 0x37)
  else if 0x61 ≤ b ∧ b ≤ 0x66 then some (b.toNat - 0x57)
  else none

/-- The octet that a backslash and the given octet stand for. -/
def escaped? (b : UInt8) : Option UInt8 :=
  if b = 0x22 ∨ b = 0x5C ∨ b = 0x2F then some b
  else if b = 0x62 then some 0x08
  else if b = 0x66 then some 0x0C
  else if b = 0x6E then some 0x0A
  else if b = 0x72 then some 0x0D
  else if b = 0x74 then some 0x09
  else none

/-- The octets that separate words. -/
def isSpace (b : UInt8) : Bool :=
  b == 0x20 || b == 0x0A || b == 0x09 || b == 0x0D

/-- A number that begins with the octet. -/
def numberFrom (b : UInt8) : Mode :=
  let blank : NumberDraft := ⟨.sign, false, [], [], false, []⟩
  if b = 0x2D then .number { blank with negative := true }
  else match blank.step b with
    | .more d => .number d
    | _ => .broken

/-- An octet between two words, with the words so far in reverse. -/
def stepBetween (done : List Token) (b : UInt8) : Mode × List Token :=
  if isSpace b then (.between, done)
  else if b = 0x5B then (.between, .openArray :: done)
  else if b = 0x5D then (.between, .closeArray :: done)
  else if b = 0x7B then (.between, .openObject :: done)
  else if b = 0x7D then (.between, .closeObject :: done)
  else if b = 0x3A then (.between, .colon :: done)
  else if b = 0x2C then (.between, .comma :: done)
  else if b = 0x22 then (.string [], done)
  else if b = 0x6E then (.word [0x75, 0x6C, 0x6C] .null, done)
  else if b = 0x74 then (.word [0x72, 0x75, 0x65] (.bool true), done)
  else if b = 0x66 then (.word [0x61, 0x6C, 0x73, 0x65] (.bool false), done)
  else if b = 0x2D ∨ (digit? b).isSome then (numberFrom b, done)
  else (.broken, done)

/-- **One octet**, with the words so far in reverse. -/
def step : Mode × List Token → UInt8 → Mode × List Token
  | (.between, done), b => stepBetween done b
  | (.word [] token, done), b => stepBetween (token :: done) b
  | (.word [last] token, done), b =>
    if b = last then (.between, token :: done) else (.broken, done)
  | (.word (next :: owed) token, done), b =>
    if b = next then (.word owed token, done) else (.broken, done)
  | (.number d, done), b =>
    match d.step b with
    | .more d => (.number d, done)
    | .ended =>
      match d.literal? with
      | some l => stepBetween (.number l.value :: done) b
      | none => (.broken, done)
    | .broken => (.broken, done)
  | (.string pieces, done), b =>
    if b = 0x22 then (.between, .string (stringOf pieces.reverse) :: done)
    else if b = 0x5C then (.escape pieces, done)
    else if b < 0x20 then (.broken, done)
    else (.string (.octet b :: pieces), done)
  | (.escape pieces, done), b =>
    if b = 0x75 then (.hex pieces 0 4, done)
    else match escaped? b with
      | some c => (.string (.octet c :: pieces), done)
      | none => (.broken, done)
  | (.hex pieces value owed, done), b =>
    match hexDigit? b with
    | none => (.broken, done)
    | some n =>
      let value := 16 * value + n
      if owed ≤ 1 then (.string (.unit value :: pieces), done)
      else (.hex pieces value (owed - 1), done)
  | (.broken, done), _ => (.broken, done)

/-- The words of a text that ends in the given state. -/
def finish : Mode × List Token → List Token
  | (.between, done) => done.reverse
  | (.word [] token, done) => (token :: done).reverse
  | (.number d, done) =>
    match d.literal? with
    | some l => (.number l.value :: done).reverse
    | none => (.broken :: done).reverse
  | (_, done) => (.broken :: done).reverse

/-- **The words of a text.** -/
def tokens (bs : List UInt8) : List Token :=
  finish (bs.foldl step (.between, []))

end RealmKeeper.Json
