import RealmKeeper.Json.Numeral

/-!
# Points in time

* `Instant`: nanoseconds since the epoch, within the years that the calendar covers;
* `Instant.addSeconds?`: a later or earlier point, if the calendar covers it;
* `Instant.text`: date and time of day in UTC.
-/

namespace RealmKeeper

/-- The first and the last nanosecond of the calendar: from the beginning of the year -262143 to the
end of the year 262142. -/
def calendarStart : Int := -8334601228800000000000

/-- The last nanosecond of the calendar. -/
def calendarEnd : Int := 8210266876799999999999

/-- **A point in time**, in nanoseconds since the epoch. -/
structure Instant where
  nanoseconds : Int
  covered : calendarStart ≤ nanoseconds ∧ nanoseconds ≤ calendarEnd
deriving DecidableEq

namespace Instant

/-- The point at a number of nanoseconds since the epoch. -/
def ofNanoseconds? (n : Int) : Option Instant :=
  if h : calendarStart ≤ n ∧ n ≤ calendarEnd then some ⟨n, h⟩ else none

/-- The epoch itself. -/
def epoch : Instant := ⟨0, by decide⟩

instance : Inhabited Instant := ⟨epoch⟩

/-- The point at a number of seconds since the epoch. -/
def ofSeconds? (n : Int) : Option Instant :=
  ofNanoseconds? (n * 1000000000)

/-- The point so many seconds later. -/
def addSeconds? (t : Instant) (seconds : Int) : Option Instant :=
  ofNanoseconds? (t.nanoseconds + seconds * 1000000000)

/-- The point so many nanoseconds later; the calendar's end is not passed. -/
def advance (t : Instant) (nanoseconds : Nat) : Instant :=
  (ofNanoseconds? (t.nanoseconds + nanoseconds)).getD t

/-- One point is later than another. -/
def isAfter (t u : Instant) : Bool :=
  u.nanoseconds < t.nanoseconds

/-! ### Dates -/

/-- A day of the calendar. -/
structure Date where
  year : Int
  month : Nat
  day : Nat
deriving DecidableEq, Repr

/-- The date of a day, counted from the epoch: years begin in March, so that the leap day is the
last one. -/
def dateOfDay (n : Int) : Date :=
  let shifted := n + 719468
  let era := shifted.fdiv 146097
  let dayOfEra := (shifted - era * 146097).toNat
  let yearOfEra := (dayOfEra - dayOfEra / 1460 + dayOfEra / 36524 - dayOfEra / 146096) / 365
  let dayOfYear := dayOfEra - (365 * yearOfEra + yearOfEra / 4 - yearOfEra / 100)
  let shiftedMonth := (5 * dayOfYear + 2) / 153
  let day := dayOfYear - (153 * shiftedMonth + 2) / 5 + 1
  let month := if shiftedMonth < 10 then shiftedMonth + 3 else shiftedMonth - 9
  ⟨yearOfEra + era * 400 + (if month ≤ 2 then 1 else 0), month, day⟩

/-- A number with at least so many digits. -/
def padded (width n : Nat) : List Char :=
  let digits := Number.digitChars n
  List.replicate (width - digits.length) '0' ++ digits

/-- A year: four digits, and with a sign outside the years 0 to 9999. -/
def yearChars (year : Int) : List Char :=
  if 0 ≤ year ∧ year ≤ 9999 then padded 4 year.natAbs
  else (if year < 0 then '-' else '+') :: padded 4 year.natAbs

/-- **Date and time of day in UTC**, to the second. -/
def text (t : Instant) : String :=
  let seconds := t.nanoseconds.fdiv 1000000000
  let day := seconds.fdiv 86400
  let second := (seconds - day * 86400).toNat
  let date := dateOfDay day
  String.ofList (yearChars date.year ++ '-' :: padded 2 date.month ++ '-' :: padded 2 date.day ++
    'T' :: padded 2 (second / 3600) ++ ':' :: padded 2 (second / 60 % 60) ++
    ':' :: padded 2 (second % 60) ++ ['+', '0', '0', ':', '0', '0'])

end Instant

end RealmKeeper
