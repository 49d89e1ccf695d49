import RealmKeeper.Instant

/-!
# Admin tokens

* `StoredToken`: an admin token and the time up to which it is used again;
* `tokenExpiry`: that time, from the lifetime which the provider states. It is computed in numbers
  of 64 bits, and `toInt_usableSeconds` and `tokenExpiry_eq` say that none of them overflows.
-/

namespace RealmKeeper.Admin

/-- A token is given up so many seconds before its lifetime ends. -/
def expiryMargin : Int64 := 30

/-- The lifetime of a token for which none is stated, in seconds. -/
def defaultLifetime : Int64 := 300

/-- The longest lifetime that is believed, in seconds. -/
def longestLifetime : Int64 := 86400

/-- **A token that is kept** to be used again. -/
structure StoredToken where
  value : String
  expiresAt : Instant
deriving DecidableEq

/-- The token may be used at the given time. -/
def StoredToken.isUsableAt (t : StoredToken) (now : Instant) : Bool :=
  t.expiresAt.isAfter now

/-- A number, or the end of the range beyond which it lies. -/
def clamp (low high n : Int64) : Int64 :=
  if n < low then low else if high < n then high else n

/-- A difference, or the end of the numbers of 64 bits beyond which it lies. -/
def saturatingSub (a b : Int64) : Int64 :=
  Int64.ofInt (max (-9223372036854775808) (min 9223372036854775807 (a.toInt - b.toInt)))

/-- The seconds for which a token is used, from its stated lifetime: a lifetime below zero counts
as zero, one that is too long as the longest, and the margin is taken off. -/
def usableSeconds (expiresIn : Option Int64) : Int64 :=
  saturatingSub (clamp 0 longestLifetime (expiresIn.getD defaultLifetime)) expiryMargin

/-- Seconds as a length of time, which has at most as many milliseconds as 64 bits count. -/
def spanOfSeconds? (seconds : Int64) : Option Int :=
  if -9223372036854775 ≤ seconds.toInt ∧ seconds.toInt ≤ 9223372036854775 then some seconds.toInt
  else none

/-- **The time up to which a token is used.** Past the end of the calendar it is not used at all. -/
def tokenExpiry (now : Instant) (expiresIn : Option Int64) : Instant :=
  ((spanOfSeconds? (usableSeconds expiresIn)).bind now.addSeconds?).getD now

/-! ### Nothing overflows -/

theorem toInt_clamp {low high : Int64} (ordered : low ≤ high) (n : Int64) :
    (clamp low high n).toInt = max low.toInt (min high.toInt n.toInt) := by
  have ordered := Int64.le_iff_toInt_le.mp ordered
  unfold clamp
  split
  · rename_i below
    have below := Int64.lt_iff_toInt_lt.mp below
    omega
  · rename_i above
    have above := mt Int64.lt_iff_toInt_lt.mpr above
    split
    · rename_i beyond
      have beyond := Int64.lt_iff_toInt_lt.mp beyond
      omega
    · rename_i under
      have under := mt Int64.lt_iff_toInt_lt.mpr under
      omega

/-- A difference of numbers that are not negative is exact. -/
theorem toInt_saturatingSub {a b : Int64} (ha : 0 ≤ a.toInt) (hb : 0 ≤ b.toInt) :
    (saturatingSub a b).toInt = a.toInt - b.toInt := by
  have high := a.toInt_lt
  have high' := b.toInt_lt
  have inside : max (-9223372036854775808) (min 9223372036854775807 (a.toInt - b.toInt)) =
      a.toInt - b.toInt := by
    omega
  rw [saturatingSub, inside]
  exact Int64.toInt_ofInt_of_le (by omega) (by omega)

/-- The seconds for which a token is used, without bounds on the numbers. -/
theorem toInt_usableSeconds (expiresIn : Option Int64) :
    (usableSeconds expiresIn).toInt =
      max 0 (min 86400 ((expiresIn.map Int64.toInt).getD 300)) - 30 := by
  have held := @toInt_clamp 0 longestLifetime (by decide) (expiresIn.getD defaultLifetime)
  have zero : (0 : Int64).toInt = 0 := rfl
  have longest : longestLifetime.toInt = 86400 := by decide
  have margin : expiryMargin.toInt = 30 := by decide
  have stated : (expiresIn.getD defaultLifetime).toInt = (expiresIn.map Int64.toInt).getD 300 := by
    cases expiresIn with
    | none => decide
    | some n => rfl
  rw [zero, longest, stated] at held
  rw [usableSeconds, toInt_saturatingSub (by omega) (by omega), held, margin]

/-- **The time up to which a token is used**, without bounds on the numbers but for the calendar. -/
theorem tokenExpiry_eq (now : Instant) (expiresIn : Option Int64) :
    tokenExpiry now expiresIn = (now.addSeconds? (usableSeconds expiresIn).toInt).getD now := by
  have seconds := toInt_usableSeconds expiresIn
  rw [tokenExpiry, spanOfSeconds?, if_pos (by omega)]
  rfl

end RealmKeeper.Admin
