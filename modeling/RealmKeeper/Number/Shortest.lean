import RealmKeeper.Number.Binary64

/-!
# The shortest decimal of a binary64 value

Which decimal stands for a floating-point value: of all decimals that round to the value, those
with the fewest digits, and of these the nearest one.

* `Binary64.holds`: a decimal rounds to the value;
* `Binary64.shortest`: the decimal that stands for the value;
* `DecimalStyle`: how a decimal is laid out, and `DecimalStyle.render`.
-/

namespace RealmKeeper.Number

/-- The decimal `digits * 10 ^ exponent`. -/
structure Decimal where
  digits : Nat
  exponent : Int
deriving DecidableEq, Repr

/-- `10 ^ e` as a quotient. -/
def tenPow (e : Int) : Nat × Nat :=
  if 0 ≤ e then (Nat.pow 10 e.toNat, 1) else (1, Nat.pow 10 (-e).toNat)

/-- The order of two quotients with positive denominators. -/
def ratioLe (x y : Nat × Nat) : Bool :=
  x.1 * y.2 ≤ y.1 * x.2

/-- The magnitude of a decimal as a quotient. -/
def Decimal.ratio (d : Decimal) : Nat × Nat :=
  let (p, q) := tenPow d.exponent
  (d.digits * p, q)

namespace Binary64

/-- The midpoint between the magnitude of `x` and that of the next smaller value. -/
def lowerEnd (x : Binary64) : Nat × Nat :=
  let narrow := x.mantissa == Nat.pow 2 52 && leastExponent < x.exponent
  let (p, q) := twoPow (x.exponent - 2)
  ((4 * x.mantissa - (if narrow then 1 else 2)) * p, q)

/-- The midpoint between the magnitude of `x` and that of the next greater value. -/
def upperEnd (x : Binary64) : Nat × Nat :=
  let (p, q) := twoPow (x.exponent - 2)
  ((4 * x.mantissa + 2) * p, q)

/-- **A decimal rounds to the magnitude of `x`**: it lies between the two midpoints, themselves
included when the mantissa is even. -/
def holds (x : Binary64) (d : Decimal) : Bool :=
  if x.mantissa % 2 = 0 then ratioLe x.lowerEnd d.ratio && ratioLe d.ratio x.upperEnd
  else !ratioLe d.ratio x.lowerEnd && !ratioLe x.upperEnd d.ratio

/-- The greatest `p` with `10 ^ p ≤ x`, for `x` other than zero. -/
def floorLog10 (x : Binary64) : Int :=
  let estimate := (floorLog2 x.ratio.1 x.ratio.2 * 30103) / 100000
  if ratioLe (tenPow (estimate + 1)) x.ratio then estimate + 1
  else if ratioLe (tenPow estimate) x.ratio then estimate
  else estimate - 1

/-- Of the two decimals of `count` digits next to `x`, the nearer one that rounds to `x`; an even
last digit decides between two equally near ones. -/
def neighbour? (x : Binary64) (count : Nat) : Option Decimal :=
  let e := x.floorLog10 - (count : Int) + 1
  let (p, q) := tenPow e
  let num := x.ratio.1 * q
  let den := x.ratio.2 * p
  let below : Decimal := ⟨num / den, e⟩
  let above : Decimal := ⟨num / den + 1, e⟩
  match x.holds below, x.holds above with
  | true, true => some ⟨roundHalfEven num den, e⟩
  | true, false => some below
  | false, true => some above
  | false, false => none

/-- **The shortest decimal that rounds to `x`**, the nearest one of that length; seventeen digits
always do. -/
def shortest (x : Binary64) : Decimal :=
  if x.isZero then ⟨0, 0⟩
  else
    ((List.range 17).findSome? fun k => x.neighbour? (k + 1)).getD ⟨x.mantissa, 0⟩

end Binary64

/-! ### Layout -/

/-- The decimal digits of a number, most significant first. -/
def digitChars (n : Nat) : List Char :=
  Nat.toDigits 10 n

/-- How a decimal is laid out: positionally when the exponent of its first digit is between
`leastPlain` and `mostPlain`, with an exponent otherwise. -/
structure DecimalStyle where
  leastPlain : Int
  mostPlain : Int

/-- The digits without zeros at their end, and how many were dropped. -/
def dropTrailingZeros (cs : List Char) : List Char × Nat :=
  let kept := (cs.reverse.dropWhile (· == '0')).reverse
  (kept, cs.length - kept.length)

/-- The text of a decimal. A positional text always has a point with a digit on both sides; an
exponent always has its sign. -/
def DecimalStyle.render (style : DecimalStyle) (d : Decimal) : List Char :=
  if d.digits = 0 then ['0', '.', '0']
  else
    let (digits, dropped) := dropTrailingZeros (digitChars d.digits)
    let last : Int := d.exponent + dropped
    let first : Int := last + digits.length - 1
    if style.leastPlain ≤ first ∧ first ≤ style.mostPlain then
      if first < 0 then
        '0' :: '.' :: List.replicate ((-first).toNat - 1) '0' ++ digits
      else
        let whole := first.toNat + 1
        let padded := digits ++ List.replicate (whole - digits.length) '0'
        let fraction := padded.drop whole
        padded.take whole ++ '.' :: (if fraction.isEmpty then ['0'] else fraction)
    else
      let exponent := (if first < 0 then '-' else '+') :: digitChars first.natAbs
      match digits with
      | [] => []
      | [d] => d :: 'e' :: exponent
      | d :: rest => d :: '.' :: rest ++ 'e' :: exponent

/-- The text of a value, with its sign. -/
def DecimalStyle.renderBinary64 (style : DecimalStyle) (x : Binary64) : List Char :=
  (if x.negative then ['-'] else []) ++ style.render x.shortest

end RealmKeeper.Number
