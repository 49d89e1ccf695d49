/-!
# Lengths of time

* `Duration`: a length of time in nanoseconds;
* `Duration.parse?`: lengths written as terms such as `5m`, which are all added up (`1h 30m`,
  `1h + 30m`) or all multiplied (`2 * 30s`).

A term and every intermediate result must be below `2 ^ 64` nanoseconds.
-/

namespace RealmKeeper

/-- **A length of time.** -/
structure Duration where
  nanoseconds : Nat
deriving DecidableEq, Repr, Inhabited

namespace Duration

/-- Nanoseconds in a second. -/
def second : Nat := 1000000000

/-- A length of whole seconds. -/
def ofSeconds (n : Nat) : Duration := ⟨n * second⟩

/-- The whole seconds of a length. -/
def seconds (d : Duration) : Nat := d.nanoseconds / second

/-- What is left beside the whole seconds, in nanoseconds. -/
def subsecond (d : Duration) : Nat := d.nanoseconds % second

/-! ### Terms -/

/-- The units and their lengths in nanoseconds. -/
def units : List (List String × Nat) :=
  [(["y", "year"], 365 * 86400 * second), (["mon", "month"], 30 * 86400 * second),
    (["w", "week"], 7 * 86400 * second), (["d", "day"], 86400 * second),
    (["h", "hr", "hour"], 3600 * second), (["m", "min", "minute"], 60 * second),
    (["s", "sec", "second"], second), (["ms", "msec", "millisecond"], 1000000),
    (["us", "\u00B5s", "usec", "\u00B5sec", "usecond", "\u00B5second", "microsecond"], 1000),
    (["ns", "nsec", "nanosecond"], 1)]

/-- The length of a unit, in small or capital letters. -/
def unit? (cs : List Char) : Option Nat :=
  (units.find? fun u => u.1.contains (String.ofList (cs.map Char.toLower))).map Prod.snd

/-- A character of a unit. -/
def isUnitChar (c : Char) : Bool :=
  c.isAlpha || c == '\u00B5'

/-- A character that may stand around terms. -/
def isSpace (c : Char) : Bool :=
  c == ' ' || c == '\t' || c == '\r' || c == '\n'

/-- The bound of all lengths. -/
def bound : Nat := 18446744073709551616

/-- The number, if it is below the bound. -/
def bounded? (n : Nat) : Option Nat :=
  if n < bound then some n else none

/-- The number that decimal digits denote. -/
def digitsValue (cs : List Char) : Nat :=
  cs.foldl (fun n c => 10 * n + (c.toNat - 0x30)) 0

/-- A number directly followed by its unit. Without one it counts seconds. -/
structure Term where
  nanoseconds : Nat
  hasUnit : Bool

/-- Reads a term; what follows it is given back. -/
def term? (cs : List Char) : Option (Term × List Char) :=
  let digits := cs.takeWhile Char.isDigit
  let rest := cs.dropWhile Char.isDigit
  let unit := rest.takeWhile isUnitChar
  if digits.isEmpty then none
  else
    (if unit.isEmpty then some second else unit? unit).bind fun length =>
      (bounded? (digitsValue digits * length)).map fun n =>
        (⟨n, !unit.isEmpty⟩, rest.dropWhile isUnitChar)

/-! ### Sums and products -/

/-- How terms are combined. -/
inductive Operator where
  | plus
  | times
deriving DecidableEq, Repr

/-- Reads the terms after one, each with its operator; a missing operator adds. A term without a
unit is followed by an operator or by nothing. -/
def moreTerms? : Nat → Bool → List Char → Option (List (Operator × Nat))
  | 0, _, _ => none
  | fuel + 1, hasUnit, cs =>
    let next (operator : Operator) (rest : List Char) : Option (List (Operator × Nat)) :=
      (term? rest).bind fun (t, rest) =>
        (moreTerms? fuel t.hasUnit rest).map fun ts => (operator, t.nanoseconds) :: ts
    match cs.dropWhile isSpace with
    | [] => if hasUnit || cs.isEmpty then some [] else none
    | '+' :: rest => next .plus (rest.dropWhile isSpace)
    | '*' :: rest => next .times (rest.dropWhile isSpace)
    | rest => if hasUnit then next .plus rest else none

/-- The sum of lengths. -/
def add? (a b : Nat) : Option Nat :=
  bounded? (a + b)

/-- The product of lengths, as numbers of seconds; what is less than a nanosecond is dropped. -/
def times? (a b : Nat) : Option Nat :=
  bounded? (a * b / second)

/-- Combines the lengths after the first, and then the first with the result. -/
def combine? (first : Nat) (terms : List (Operator × Nat)) : Option Nat :=
  let lengths := terms.map Prod.snd
  if terms.isEmpty then some first
  else if terms.all (·.1 = .plus) then
    (lengths.foldlM add? 0).bind (add? first)
  else if terms.all (·.1 = .times) then
    (lengths.foldlM times? second).bind (times? first)
  else none

/-- **The length that a text denotes.** -/
def parse? (cs : List Char) : Option Duration :=
  (term? (cs.dropWhile isSpace)).bind fun (t, rest) =>
    (moreTerms? (rest.length + 1) t.hasUnit rest).bind fun terms =>
      (combine? t.nanoseconds terms).map Duration.mk

end Duration

end RealmKeeper
