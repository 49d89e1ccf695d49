import RealmKeeper.Number.Shortest

/-!
# Numbers in documents

A number of a JSON document is an integer that fits 64 bits, signed or unsigned, or a binary64
value.

* `Numeral`: the two kinds;
* `Literal`: a number as it is spelled, and `Literal.value`, the number it stands for;
* `Numeral.chars`: the spelling of a number.
-/

namespace RealmKeeper.Json

open RealmKeeper.Number

/-- The least and the greatest integer that a document holds exactly. -/
def Exact (n : Int) : Prop :=
  -9223372036854775808 ≤ n ∧ n < 18446744073709551616

instance (n : Int) : Decidable (Exact n) := by
  unfold Exact; infer_instance

/-- **A number of a document.** -/
inductive Numeral where
  | integer (value : Int) (exact : Exact value)
  | float (value : Binary64)
deriving DecidableEq

/-! ### Reading -/

/-- A number as it is spelled: its digits before and after the point, and the sign and the digits
of its exponent. -/
structure Literal where
  negative : Bool
  whole : List Nat
  fraction : List Nat
  exponent : Option (Bool × List Nat)
deriving Repr

/-- Appends digits to a significand while it stays below `2 ^ 64`; the digits that did not fit are
left over. -/
def takeDigits : Nat → List Nat → Nat × List Nat
  | s, [] => (s, [])
  | s, d :: rest =>
    if 10 * s + d < 18446744073709551616 then takeDigits (10 * s + d) rest else (s, d :: rest)

/-- The number that digits denote. -/
def ofDigits (ds : List Nat) : Nat :=
  ds.foldl (fun n d => 10 * n + d) 0

/-- The greatest exponent that is computed with. -/
def greatestExponent : Nat := 2147483647

/-- An integer as a number: exact where it fits, and where it is not a negative zero. -/
def integerLiteral (negative : Bool) (n : Nat) : Option Numeral :=
  let value : Int := if negative then -(n : Int) else n
  if negative ∧ n = 0 then some (.float (Binary64.zero true))
  else if h : Exact value then some (.integer value h)
  else (Binary64.ofNat n).map fun x => .float (x.withSign negative)

/-- **The number that a literal stands for**; `none` if it is too large. Only the digits whose
significand fits 64 bits count; the place of the others is kept by the exponent. -/
def Literal.value (l : Literal) : Option Numeral :=
  let (whole, left) := takeDigits 0 l.whole
  if l.fraction.isEmpty && l.exponent.isNone && left.isEmpty then integerLiteral l.negative whole
  else
    let (significand, unused) := takeDigits whole l.fraction
    let shift : Int := left.length - (l.fraction.length - unused.length : Int)
    match l.exponent with
    | none => (Binary64.ofDecimal l.negative significand shift).map .float
    | some (down, digits) =>
      let e := ofDigits digits
      if greatestExponent < e then
        if significand = 0 ∨ down then some (.float (Binary64.zero l.negative)) else none
      else
        (Binary64.ofDecimal l.negative significand (if down then shift - e else shift + e)).map
          .float

/-! ### Writing -/

/-- Floating-point numbers are written positionally when their first digit stands at `10 ^ -5` to
`10 ^ 15`. -/
def floatStyle : DecimalStyle := ⟨-5, 15⟩

/-- The decimal text of an integer. -/
def intChars (n : Int) : List Char :=
  if n < 0 then '-' :: digitChars n.natAbs else digitChars n.natAbs

/-- **The spelling of a number.** -/
def Numeral.chars : Numeral → List Char
  | .integer n _ => intChars n
  | .float x => floatStyle.renderBinary64 x

end RealmKeeper.Json
