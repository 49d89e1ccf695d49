import RealmKeeper.Text.Utf8
import Mathlib.Tactic.Common

/-!
# Reading what is written as UTF-8

* `readWith_encodeNat`: the octets of a character are read as this character, whatever follows;
* `decode_encode`: the octets of a text are read as this text, and `encode_injective`: no two texts
  have the same octets.
-/

namespace RealmKeeper.Text.Utf8

section octets

variable {onFault : List Char → Option (List Char)} {rest : List UInt8} {done : List Char}
  {b : UInt8} {p q : Pending} {n : Nat}

/-! ### One octet -/

theorem readWith_lead (h : lead b.toNat = some p) (owed : p.owed ≠ 0) :
    readWith onFault (b :: rest) none done = readWith onFault rest (some p) done := by
  rw [readWith, h]
  exact if_neg owed

theorem readWith_continue (h : p.continueWith b.toNat = some q) (owed : q.owed ≠ 0) :
    readWith onFault (b :: rest) (some p) done = readWith onFault rest (some q) done := by
  rw [readWith, h]
  exact if_neg owed

theorem readWith_last (h : p.continueWith b.toNat = some q) (owed : q.owed = 0) :
    readWith onFault (b :: rest) (some p) done =
      readWith onFault rest none (Char.ofNat q.value :: done) := by
  rw [readWith, h]
  exact if_pos owed

theorem toNat_toUInt8 (h : n < 0x100) : n.toUInt8.toNat = n := by
  simp
  omega

theorem continueWith_tail {value owed low high m : Nat} (hm : m < 0x40) (hl : low ≤ 0x80 + m)
    (hh : 0x80 + m ≤ high) :
    (Pending.mk value owed low high).continueWith ((0x80 + m).toUInt8).toNat =
      some ⟨value * 0x40 + m, owed - 1, 0x80, 0xBF⟩ := by
  rw [toNat_toUInt8 (by omega), Pending.continueWith, if_pos ⟨hl, hh⟩, Nat.add_sub_cancel_left]

theorem continueWith_free {value owed m : Nat} (hm : m < 0x40) :
    (Pending.mk value owed 0x80 0xBF).continueWith ((0x80 + m).toUInt8).toNat =
      some ⟨value * 0x40 + m, owed - 1, 0x80, 0xBF⟩ :=
  continueWith_tail hm (by omega) (by omega)

/-! ### Lead octets -/

theorem lead_two (h : 0x80 ≤ n) (h' : n < 0x800) :
    lead ((0xC0 + n / 0x40).toUInt8).toNat = some ⟨n / 0x40, 1, 0x80, 0xBF⟩ := by
  rw [toNat_toUInt8 (by omega), lead, if_neg (by omega), if_neg (by omega), if_pos (by omega),
    Nat.add_sub_cancel_left]

/-- The lead octet of three lets the next one pass, as the number is none of a surrogate. -/
theorem lead_three (h : 0x800 ≤ n) (h' : n < 0x10000) (hs : n < 0xD800 ∨ 0xDFFF < n) :
    ∃ low high, lead ((0xE0 + n / 0x1000).toUInt8).toNat = some ⟨n / 0x1000, 2, low, high⟩ ∧
      low ≤ 0x80 + n / 0x40 % 0x40 ∧ 0x80 + n / 0x40 % 0x40 ≤ high := by
  rw [toNat_toUInt8 (by omega), lead, if_neg (by omega), if_neg (by omega), if_neg (by omega)]
  by_cases h0 : n / 0x1000 = 0
  · exact ⟨0xA0, 0xBF, by rw [h0]; rfl, by omega, by omega⟩
  by_cases hD : n / 0x1000 = 0xD
  · exact ⟨0x80, 0x9F, by rw [hD]; rfl, by omega, by omega⟩
  · rw [if_neg (by omega), if_neg (by omega), if_pos (by omega), Nat.add_sub_cancel_left]
    exact ⟨0x80, 0xBF, rfl, by omega, by omega⟩

/-- The lead octet of four lets the next one pass, as the number is one of a character. -/
theorem lead_four (h : 0x10000 ≤ n) (h' : n < 0x110000) :
    ∃ low high, lead ((0xF0 + n / 0x40000).toUInt8).toNat = some ⟨n / 0x40000, 3, low, high⟩ ∧
      low ≤ 0x80 + n / 0x1000 % 0x40 ∧ 0x80 + n / 0x1000 % 0x40 ≤ high := by
  rw [toNat_toUInt8 (by omega), lead, if_neg (by omega), if_neg (by omega), if_neg (by omega),
    if_neg (by omega), if_neg (by omega), if_neg (by omega)]
  by_cases h0 : n / 0x40000 = 0
  · exact ⟨0x90, 0xBF, by rw [h0]; rfl, by omega, by omega⟩
  by_cases h4 : n / 0x40000 = 4
  · exact ⟨0x80, 0x8F, by rw [h4]; rfl, by omega, by omega⟩
  · rw [if_neg (by omega), if_pos (by omega), Nat.add_sub_cancel_left]
    exact ⟨0x80, 0xBF, rfl, by omega, by omega⟩

/-! ### Characters and texts -/

/-- **The octets of a character are read as this character**, whatever follows. -/
theorem readWith_encodeNat (c : Char) :
    readWith onFault (encodeNat c.toNat ++ rest) none done =
      readWith onFault rest none (c :: done) := by
  have valid : c.toNat < 0xD800 ∨ 0xDFFF < c.toNat ∧ c.toNat < 0x110000 := c.valid
  have hc : Char.ofNat c.toNat = c := Char.ofNat_toNat c
  generalize c.toNat = n at valid hc
  -- one case for each number of octets; the digits are put together again in each
  unfold encodeNat
  by_cases h1 : n < 0x80
  · rw [if_pos h1, List.singleton_append, readWith, toNat_toUInt8 (by omega), lead, if_pos h1]
    simp [hc]
  rw [if_neg h1]
  by_cases h2 : n < 0x800
  · have value : n / 0x40 * 0x40 + n % 0x40 = n := by omega
    rw [if_pos h2, List.cons_append, List.singleton_append,
      readWith_lead (lead_two (by omega) h2) (by simp),
      readWith_last (continueWith_free (by omega)) rfl, value, hc]
  rw [if_neg h2]
  by_cases h3 : n < 0x10000
  · obtain ⟨low, high, hlead, hl, hh⟩ := lead_three (n := n) (by omega) h3 (by omega)
    have value : (n / 0x1000 * 0x40 + n / 0x40 % 0x40) * 0x40 + n % 0x40 = n := by omega
    rw [if_pos h3, List.cons_append, List.cons_append, List.singleton_append,
      readWith_lead hlead (by simp),
      readWith_continue (continueWith_tail (by omega) hl hh) (by simp),
      readWith_last (continueWith_free (by omega)) rfl, value, hc]
  · obtain ⟨low, high, hlead, hl, hh⟩ := lead_four (n := n) (by omega) (by omega)
    have value : ((n / 0x40000 * 0x40 + n / 0x1000 % 0x40) * 0x40 + n / 0x40 % 0x40) * 0x40 +
        n % 0x40 = n := by omega
    rw [if_neg h3, List.cons_append, List.cons_append, List.cons_append, List.singleton_append,
      readWith_lead hlead (by simp),
      readWith_continue (continueWith_tail (by omega) hl hh) (by simp),
      readWith_continue (continueWith_free (by omega)) (by simp),
      readWith_last (continueWith_free (by omega)) rfl, value, hc]

theorem readWith_encode (cs : List Char) :
    readWith onFault (encode cs) none done = some (done.reverse ++ cs) := by
  induction cs generalizing done with
  | nil => simp [encode_nil, readWith]
  | cons c rest ih => rw [encode_cons, readWith_encodeNat, ih, List.reverse_cons, List.append_assoc,
      List.singleton_append]

end octets

/-- **The octets of a text are read as this text.** -/
theorem decode_encode (cs : List Char) : decode (encode cs) = some cs :=
  readWith_encode cs

/-- **No two texts have the same octets.** -/
theorem encode_injective {cs ds : List Char} (h : encode cs = encode ds) : cs = ds := by
  have hd := decode_encode cs
  rw [h, decode_encode ds] at hd
  exact (Option.some.inj hd).symm

end RealmKeeper.Text.Utf8
