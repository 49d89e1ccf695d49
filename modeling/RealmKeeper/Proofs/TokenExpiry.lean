import RealmKeeper.Admin.Token
import Mathlib.Tactic.Common

/-!
# Up to when a token is used

The time up to which a token is used again is computed from the time of its reply and from the
lifetime that the reply states, which may be any number of 64 bits.

* `statedLifetime`: the lifetime in seconds, `heldSeconds`: how much of it is made use of;
* `Instant.Reaches`: the calendar covers the point so many seconds later;
* `tokenExpiry_of_reaches`, `tokenExpiry_of_not_reaches`: the time itself;
* `heldSeconds_mono`, `heldSeconds_pos_iff`, `heldSeconds_le`: how it depends on the lifetime;
* `tokenExpiry_le_iff`, `margin_iff`: where a longer lifetime never gives an earlier time, and where
  thirty seconds are left of it;
* `expiry_of_lifetime`: all of this for one time of a reply;
* `shorter_lifetime_lasts_longer`: what happens in the first seconds of the calendar.
-/

namespace RealmKeeper

/-! ### The calendar -/

namespace Instant

/-- The calendar covers the point so many seconds later. -/
def Reaches (t : Instant) (seconds : Int) : Prop :=
  calendarStart ≤ t.nanoseconds + seconds * 1000000000 ∧
    t.nanoseconds + seconds * 1000000000 ≤ calendarEnd

instance (t : Instant) (seconds : Int) : Decidable (t.Reaches seconds) := by
  unfold Reaches; infer_instance

variable {t : Instant} {seconds more : Int}

theorem addSeconds?_of_reaches (h : t.Reaches seconds) :
    t.addSeconds? seconds = some ⟨t.nanoseconds + seconds * 1000000000, h⟩ :=
  dif_pos h

theorem addSeconds?_of_not_reaches (h : ¬ t.Reaches seconds) : t.addSeconds? seconds = none :=
  dif_neg h

theorem Reaches.of_le (h : t.Reaches more) (nonneg : 0 ≤ seconds) (le : seconds ≤ more) :
    t.Reaches seconds := by
  have start := t.covered.1
  have finish := h.2
  constructor <;> omega

end Instant

/-! ### The lifetime -/

namespace Admin

/-- **The lifetime that is stated**, in seconds. -/
def statedLifetime (expiresIn : Option Int64) : Int :=
  (expiresIn.map Int64.toInt).getD 300

/-- **The seconds of a lifetime that are made use of**: at most a day of it counts, and thirty
seconds are taken off. -/
def heldSeconds (expiresIn : Option Int64) : Int :=
  max 0 (min 86400 (statedLifetime expiresIn)) - 30

section heldSeconds

variable {expiresIn longer : Option Int64}

theorem heldSeconds_bounds (expiresIn : Option Int64) :
    -30 ≤ heldSeconds expiresIn ∧ heldSeconds expiresIn ≤ 86370 := by
  unfold heldSeconds
  omega

theorem heldSeconds_mono (h : statedLifetime expiresIn ≤ statedLifetime longer) :
    heldSeconds expiresIn ≤ heldSeconds longer := by
  unfold heldSeconds
  omega

theorem heldSeconds_pos_iff : 0 < heldSeconds expiresIn ↔ 30 < statedLifetime expiresIn := by
  unfold heldSeconds
  omega

theorem heldSeconds_le (nonneg : 0 ≤ statedLifetime expiresIn) :
    heldSeconds expiresIn ≤ statedLifetime expiresIn - 30 := by
  unfold heldSeconds
  omega

/-- **No number overflows** on the way to a length of time. -/
theorem spanOfSeconds?_usableSeconds (expiresIn : Option Int64) :
    spanOfSeconds? (usableSeconds expiresIn) = some (heldSeconds expiresIn) := by
  have seconds : (usableSeconds expiresIn).toInt = heldSeconds expiresIn :=
    toInt_usableSeconds expiresIn
  have bounds := heldSeconds_bounds expiresIn
  rw [spanOfSeconds?, if_pos (by omega), seconds]

end heldSeconds

/-! ### The time -/

section tokenExpiry

variable {now : Instant} {expiresIn longer : Option Int64}

theorem tokenExpiry_of_reaches (h : now.Reaches (heldSeconds expiresIn)) :
    (tokenExpiry now expiresIn).nanoseconds =
      now.nanoseconds + heldSeconds expiresIn * 1000000000 := by
  rw [tokenExpiry, spanOfSeconds?_usableSeconds, Option.bind_some,
    Instant.addSeconds?_of_reaches h]
  rfl

theorem tokenExpiry_of_not_reaches (h : ¬ now.Reaches (heldSeconds expiresIn)) :
    tokenExpiry now expiresIn = now := by
  rw [tokenExpiry, spanOfSeconds?_usableSeconds, Option.bind_some,
    Instant.addSeconds?_of_not_reaches h]
  rfl

/-- Where the calendar goes on for a day, it lacks the sum only before its beginning. -/
theorem near_start_of_not_reaches (room : now.Reaches 86370)
    (h : ¬ now.Reaches (heldSeconds expiresIn)) :
    heldSeconds expiresIn < 0 ∧ now.nanoseconds < calendarStart + 30 * 1000000000 := by
  have bounds := heldSeconds_bounds expiresIn
  have negative : heldSeconds expiresIn < 0 := by
    by_contra nonneg
    exact h (room.of_le (by omega) bounds.2)
  refine ⟨negative, ?_⟩
  by_contra late
  have finish := room.2
  exact h ⟨by omega, by omega⟩

theorem tokenExpiry_bounds (now : Instant) (expiresIn : Option Int64) :
    now.nanoseconds - 30 * 1000000000 ≤ (tokenExpiry now expiresIn).nanoseconds ∧
      (tokenExpiry now expiresIn).nanoseconds ≤ now.nanoseconds + 86370 * 1000000000 := by
  have bounds := heldSeconds_bounds expiresIn
  by_cases h : now.Reaches (heldSeconds expiresIn)
  · rw [tokenExpiry_of_reaches h]
    omega
  · rw [tokenExpiry_of_not_reaches h]
    omega

/-- **A longer lifetime gives no earlier time**, unless only the sum with the shorter one is outside
the calendar, and the longer one ends before the reply. -/
theorem tokenExpiry_le_iff (room : now.Reaches 86370)
    (le : statedLifetime expiresIn ≤ statedLifetime longer) :
    (tokenExpiry now expiresIn).nanoseconds ≤ (tokenExpiry now longer).nanoseconds ↔
      now.Reaches (heldSeconds expiresIn) ∨ ¬ now.Reaches (heldSeconds longer) ∨
        0 ≤ heldSeconds longer := by
  have held := heldSeconds_mono le
  -- only where the shorter lifetime alone is outside the calendar can the order turn round
  by_cases h : now.Reaches (heldSeconds expiresIn) <;>
    by_cases h' : now.Reaches (heldSeconds longer)
  · rw [tokenExpiry_of_reaches h, tokenExpiry_of_reaches h']
    exact iff_of_true (by omega) (.inl h)
  · have negative := (near_start_of_not_reaches room h').1
    rw [tokenExpiry_of_reaches h, tokenExpiry_of_not_reaches h']
    exact iff_of_true (by omega) (.inl h)
  · rw [tokenExpiry_of_not_reaches h, tokenExpiry_of_reaches h']
    simp only [h, h', not_true_eq_false, false_or]
    omega
  · rw [tokenExpiry_of_not_reaches h, tokenExpiry_of_not_reaches h']
    exact iff_of_true (Int.le_refl _) (.inr (.inl h'))

/-- **Thirty seconds of a lifetime are left** exactly where the calendar covers the sum. -/
theorem margin_iff (room : now.Reaches 86370) (nonneg : 0 ≤ statedLifetime expiresIn) :
    (tokenExpiry now expiresIn).nanoseconds + 30 * 1000000000 ≤
        now.nanoseconds + statedLifetime expiresIn * 1000000000 ↔
      now.Reaches (heldSeconds expiresIn) := by
  by_cases h : now.Reaches (heldSeconds expiresIn)
  · have left := heldSeconds_le nonneg
    rw [tokenExpiry_of_reaches h]
    exact iff_of_true (by omega) h
  · have negative := (near_start_of_not_reaches room h).1
    have short : ¬ 30 ≤ statedLifetime expiresIn := by
      unfold heldSeconds at negative
      omega
    rw [tokenExpiry_of_not_reaches h]
    exact iff_of_false (by omega) h

theorem isAfter_tokenExpiry_iff (room : now.Reaches 86370) :
    (tokenExpiry now expiresIn).isAfter now = true ↔ 30 < statedLifetime expiresIn := by
  rw [← heldSeconds_pos_iff, Instant.isAfter, decide_eq_true_iff]
  by_cases h : now.Reaches (heldSeconds expiresIn)
  · rw [tokenExpiry_of_reaches h]
    omega
  · have negative := (near_start_of_not_reaches room h).1
    rw [tokenExpiry_of_not_reaches h]
    omega

/-- A token whose time is the one of its reply is never used again. -/
theorem not_isUsableAt_of_not_reaches (h : ¬ now.Reaches (heldSeconds expiresIn)) (value : String)
    {later : Instant} (past : now.nanoseconds ≤ later.nanoseconds) :
    StoredToken.isUsableAt ⟨value, tokenExpiry now expiresIn⟩ later = false := by
  rw [tokenExpiry_of_not_reaches h]
  exact decide_eq_false (Int.not_lt.mpr past)

end tokenExpiry

/-! ### All lifetimes -/

/-- **Up to when a token is used.** For every lifetime that a reply states or leaves out no number
overflows, and the time lies between thirty seconds before the reply and a day, less these seconds,
after it. Where the calendar goes on for a day after the reply, the time lies after the reply
exactly if the lifetime is longer than thirty seconds. There a longer lifetime never gives an
earlier time, and a lifetime that is not negative is left thirty seconds before its end, as long as
the calendar covers the sum of the reply and the seconds made use of; it does so outside its first
half minute. Whenever it does not cover the sum, the time is that of the reply, and the token is not
used again. -/
theorem expiry_of_lifetime (now : Instant) :
    (∀ expiresIn, spanOfSeconds? (usableSeconds expiresIn) = some (heldSeconds expiresIn) ∧
      now.nanoseconds - 30 * 1000000000 ≤ (tokenExpiry now expiresIn).nanoseconds ∧
      (tokenExpiry now expiresIn).nanoseconds ≤ now.nanoseconds + 86370 * 1000000000) ∧
    (now.Reaches 86370 →
      (∀ expiresIn, (tokenExpiry now expiresIn).isAfter now = true ↔
        30 < statedLifetime expiresIn) ∧
      (∀ expiresIn longer, statedLifetime expiresIn ≤ statedLifetime longer →
        ((tokenExpiry now expiresIn).nanoseconds ≤ (tokenExpiry now longer).nanoseconds ↔
          now.Reaches (heldSeconds expiresIn) ∨ ¬ now.Reaches (heldSeconds longer) ∨
            0 ≤ heldSeconds longer)) ∧
      (∀ expiresIn, 0 ≤ statedLifetime expiresIn →
        ((tokenExpiry now expiresIn).nanoseconds + 30 * 1000000000 ≤
            now.nanoseconds + statedLifetime expiresIn * 1000000000 ↔
          now.Reaches (heldSeconds expiresIn))) ∧
      ∀ expiresIn, ¬ now.Reaches (heldSeconds expiresIn) →
        now.nanoseconds < calendarStart + 30 * 1000000000) ∧
    ∀ expiresIn, ¬ now.Reaches (heldSeconds expiresIn) → tokenExpiry now expiresIn = now ∧
      ∀ value (later : Instant), now.nanoseconds ≤ later.nanoseconds →
        StoredToken.isUsableAt ⟨value, tokenExpiry now expiresIn⟩ later = false := by
  refine ⟨fun expiresIn => ⟨spanOfSeconds?_usableSeconds expiresIn,
    tokenExpiry_bounds now expiresIn⟩, fun room => ⟨?_, ?_, ?_, ?_⟩, ?_⟩
  · exact fun expiresIn => isAfter_tokenExpiry_iff room
  · exact fun expiresIn longer le => tokenExpiry_le_iff room le
  · exact fun expiresIn nonneg => margin_iff room nonneg
  · exact fun expiresIn h => (near_start_of_not_reaches room h).2
  · exact fun expiresIn h => ⟨tokenExpiry_of_not_reaches h,
      fun value later past => not_isUsableAt_of_not_reaches h value past⟩

/-- The last point of the calendar. -/
def lastInstant : Instant := ⟨calendarEnd, by decide⟩

/-- The shortest and the longest lifetime, the boundary at thirty seconds, and the end of the
calendar. -/
theorem expiry_of_lifetime_extreme :
    (Instant.epoch.Reaches 86370 ∧
      Instant.epoch.Reaches (heldSeconds (some (-9223372036854775808))) ∧
      (tokenExpiry .epoch (some (-9223372036854775808))).nanoseconds ≤
        (tokenExpiry .epoch (some 9223372036854775807)).nanoseconds ∧
      (tokenExpiry .epoch (some 30)).isAfter .epoch = false ∧
      (tokenExpiry .epoch (some 31)).isAfter .epoch = true) ∧
    ¬ lastInstant.Reaches (heldSeconds none) ∧ tokenExpiry lastInstant none = lastInstant := by
  have room : Instant.epoch.Reaches 86370 := by decide
  have begins : Instant.epoch.Reaches (heldSeconds (some (-9223372036854775808))) := by decide
  have ends : ¬ lastInstant.Reaches (heldSeconds none) := by decide
  obtain ⟨after, monotone, -⟩ := (expiry_of_lifetime .epoch).2.1 room
  refine ⟨⟨room, begins, (monotone _ _ (by decide)).mpr (.inl begins), ?_, ?_⟩, ends,
    ((expiry_of_lifetime lastInstant).2.2 none ends).1⟩
  · exact Bool.eq_false_iff.mpr (mt (after (some 30)).mp (by decide))
  · exact (after (some 31)).mpr (by decide)

/-- Fifteen seconds after the beginning of the calendar. -/
def earlyInstant : Instant := ⟨calendarStart + 15 * 1000000000, by decide⟩

/-- **Shortly after the beginning of the calendar** a lifetime of twenty seconds gives an earlier
time than none at all, which is left at its end and not thirty seconds before it. And what has to be
covered is the sum with the seconds made use of: with the whole of the longest lifetime it is not
covered at the epoch, and still the time lies after the reply. -/
theorem shorter_lifetime_lasts_longer :
    (earlyInstant.Reaches 86370 ∧ statedLifetime (some 0) ≤ statedLifetime (some 20) ∧
      ¬ (tokenExpiry earlyInstant (some 0)).nanoseconds ≤
        (tokenExpiry earlyInstant (some 20)).nanoseconds ∧
      ¬ (tokenExpiry earlyInstant (some 0)).nanoseconds + 30 * 1000000000 ≤
        earlyInstant.nanoseconds + statedLifetime (some 0) * 1000000000) ∧
    Instant.epoch.Reaches 86370 ∧
      ¬ Instant.epoch.Reaches (statedLifetime (some 9223372036854775807)) ∧
      (tokenExpiry .epoch (some 9223372036854775807)).isAfter .epoch = true := by
  decide

end Admin

end RealmKeeper
