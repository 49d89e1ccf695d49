/-!
# Binary floating point of 64 bits

Finite values of the binary64 format as exact numbers `± mantissa * 2 ^ exponent`, and the
arithmetic that reading a decimal needs. All of it is done on natural numbers, so that it can be
evaluated and reasoned about.

* `roundRatio`: the nearest value to a quotient, the even one of two equally near;
* `mul`, `div`: product and quotient, rounded so;
* `ofDecimal`: the value of `significand * 10 ^ exponent`, scaled in steps that round one by one.
-/

namespace RealmKeeper.Number

/-- A quotient of natural numbers rounded to the nearest natural number, a half to the even
neighbour. -/
def roundHalfEven (num den : Nat) : Nat :=
  let q := num / den
  let r := num % den
  if 2 * r < den then q else if den < 2 * r then q + 1 else q + q % 2

/-- **A finite binary64 value** `± mantissa * 2 ^ exponent`. Values that the operations below
build are canonical: the mantissa has 53 bits, or the exponent is the least one. -/
structure Binary64 where
  negative : Bool
  mantissa : Nat
  exponent : Int
deriving DecidableEq, Repr, Inhabited

namespace Binary64

/-- The least exponent of a binary64 value. -/
def leastExponent : Int := -1074

/-- The greatest exponent of a binary64 value. -/
def greatestExponent : Int := 971

/-- Zero, with a sign. -/
def zero (negative : Bool) : Binary64 :=
  ⟨negative, 0, leastExponent⟩

/-- The value is zero, of either sign. -/
def isZero (x : Binary64) : Bool :=
  x.mantissa == 0

/-- `2 ^ e` as a quotient. -/
def twoPow (e : Int) : Nat × Nat :=
  if 0 ≤ e then (Nat.pow 2 e.toNat, 1) else (1, Nat.pow 2 (-e).toNat)

/-- The greatest `l` with `2 ^ l ≤ num / den`, for positive arguments. -/
def floorLog2 (num den : Nat) : Int :=
  let l : Int := (Nat.log2 num : Int) - (Nat.log2 den : Int)
  let (p, q) := twoPow l
  if p * den ≤ num * q then l else l - 1

/-- **The nearest value to a quotient**, of two equally near ones that with an even mantissa;
`none` if it is beyond the greatest finite value. -/
def roundRatio (negative : Bool) (num den : Nat) : Option Binary64 :=
  if num = 0 then some (zero negative)
  else
    let e := max (floorLog2 num den - 52) leastExponent
    let (p, q) := twoPow e
    let m := roundHalfEven (num * q) (den * p)
    let (m, e) := if m = Nat.pow 2 53 then (Nat.pow 2 52, e + 1) else (m, e)
    if greatestExponent < e then none else some ⟨negative, m, e⟩

/-- The nearest value to a natural number. -/
def ofNat (n : Nat) : Option Binary64 :=
  roundRatio false n 1

/-- The magnitude as a quotient of natural numbers. -/
def ratio (x : Binary64) : Nat × Nat :=
  let (p, q) := twoPow x.exponent
  (x.mantissa * p, q)

/-- The rounded product of two values. -/
def mul (x y : Binary64) : Option Binary64 :=
  roundRatio (x.negative != y.negative) (x.ratio.1 * y.ratio.1) (x.ratio.2 * y.ratio.2)

/-- The rounded quotient by a value other than zero. -/
def div (x y : Binary64) : Option Binary64 :=
  roundRatio (x.negative != y.negative) (x.ratio.1 * y.ratio.2) (x.ratio.2 * y.ratio.1)

/-- The same magnitude with the given sign. -/
def withSign (x : Binary64) (negative : Bool) : Binary64 :=
  { x with negative }

/-- The exponent of the greatest power of ten that is used as one factor. -/
def greatestPower : Nat := 308

/-- The value of a power of ten. -/
def tenPower (k : Nat) : Option Binary64 :=
  ofNat (Nat.pow 10 k)

/-- Divides by the greatest power of ten a number of times, unless zero is reached before. -/
def scaleDown (x : Binary64) : Nat → Option Binary64
  | 0 => some x
  | k + 1 =>
    if x.isZero then some x
    else (tenPower greatestPower).bind fun power => (x.div power).bind fun y => scaleDown y k

/-- `x * 10 ^ exponent`, by factors of at most the greatest power; every step rounds. -/
def scale (x : Binary64) (exponent : Int) : Option Binary64 :=
  let n := exponent.natAbs
  if 0 ≤ exponent then
    if n ≤ greatestPower then (tenPower n).bind x.mul
    else if x.isZero then some x
    else none
  else
    let steps := (n - 1) / greatestPower
    (scaleDown x steps).bind fun y =>
      if y.isZero then some y else (tenPower (n - steps * greatestPower)).bind y.div

/-- **The value of `significand * 10 ^ exponent`**: the significand is rounded first and then
scaled; `none` if it is too large. -/
def ofDecimal (negative : Bool) (significand : Nat) (exponent : Int) : Option Binary64 :=
  (ofNat significand).bind fun x => (scale x exponent).map (·.withSign negative)

end Binary64

end RealmKeeper.Number
