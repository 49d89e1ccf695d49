import RealmKeeper.Proofs.Utf8
import Mathlib.Data.String.Basic

/-!
# Reading any octets as a text

What `decodeLossy` makes of octets, said without its automaton. The octets are parted from left to
right: a character where the octets of one stand, and otherwise a *fault*, which is as many octets
as begin a character, or one octet that begins none.

* `Reads`: the octets have these parts. `exists_reads`: any octets have parts, and
  `Reads.decodeLossy_eq`: their text is a character for each part, the replacement character for a
  fault;
* `After`: the state of the automaton after octets that begin a character, with `Admits`, the
  numbers that are still possible in it;
* `Reads.utf8ByteSize_stringLossy`: the size of the text is the width of the parts, in which a fault
  counts three, and `Reads.width_le`: it is at most three times that of what is read.
-/

namespace RealmKeeper.Text.Utf8

/-! ### Parts -/

/-- The octets begin those of a character. -/
def Begins (bs : List UInt8) : Prop :=
  ∃ c : Char, bs <+: encodeNat c.toNat

/-- **A part of octets**: a character, or a part that is ill formed. -/
inductive Part where
  | character (c : Char)
  | fault (bs : List UInt8)

/-- How a part reads. -/
def Part.text : Part → Char
  | character c => c
  | fault _ => replacement

/-- **How many octets the text of parts has**: as many as the characters have, and three for each
part that is ill formed. -/
def width : List Part → Nat
  | [] => 0
  | .character c :: rest => (encodeNat c.toNat).length + width rest
  | .fault _ :: rest => 3 + width rest

/-- **The octets `bad` are an ill-formed part** before `rest`: not the octets of a character, but as
many as begin one, or a single octet. -/
structure IsFault (bad rest : List UInt8) : Prop where
  nonempty : bad ≠ []
  ill_formed : ∀ c : Char, encodeNat c.toNat ≠ bad
  part : Begins bad ∨ bad.length = 1
  maximal : ∀ b ∈ rest.head?, ¬ Begins (bad ++ [b])

/-- **The octets have these parts**, from left to right. -/
inductive Reads : List UInt8 → List Part → Prop where
  | nil : Reads [] []
  | character {rest : List UInt8} {parts : List Part} (c : Char) :
    Reads rest parts → Reads (encodeNat c.toNat ++ rest) (.character c :: parts)
  | fault {bad rest : List UInt8} {parts : List Part} :
    IsFault bad rest → Reads rest parts → Reads (bad ++ rest) (.fault bad :: parts)

section

variable {bs bs' bad rest : List UInt8} {parts : List Part} {b : UInt8} {p q : Pending} {n : Nat}

theorem Begins.of_prefix (h : Begins bs) (h' : bs' <+: bs) : Begins bs' := by
  obtain ⟨c, hc⟩ := h
  exact ⟨c, h'.trans hc⟩

/-! ### The numbers that are possible in a state -/

/-- The last `k` octets of the number `n`, which continue what a lead octet has begun. -/
def tail : Nat → Nat → List UInt8
  | 0, _ => []
  | k + 1, n => (0x80 + n / 0x40 ^ k % 0x40).toUInt8 :: tail k n

namespace Pending

/-- **The number is possible** in the state: it has the value so far, and its next octet is within
the bounds. -/
def Admits (p : Pending) (n : Nat) : Prop :=
  n / 0x40 ^ p.owed = p.value ∧
    ∀ k, p.owed = k + 1 → p.low ≤ 0x80 + n / 0x40 ^ k % 0x40 ∧ 0x80 + n / 0x40 ^ k % 0x40 ≤ p.high

/-- The bounds are those of continuation octets. -/
def IsBounded (p : Pending) : Prop :=
  0x80 ≤ p.low ∧ p.low ≤ p.high ∧ p.high ≤ 0xBF

/-- Some number is possible in each state: the one with the least next octet. -/
theorem IsBounded.exists_admits (h : p.IsBounded) : ∃ n, p.Admits n := by
  obtain ⟨h1, h2, h3⟩ := h
  obtain ⟨value, owed, low, high⟩ := p
  simp only at h1 h2 h3
  cases owed with
  | zero => exact ⟨value, by simp, nofun⟩
  | succ k =>
    have hk : 0 < 0x40 ^ k := Nat.pow_pos (by decide)
    have next : (value * 0x40 + (low - 0x80)) * 0x40 ^ k / 0x40 ^ k = value * 0x40 + (low - 0x80) :=
      Nat.mul_div_cancel _ hk
    refine ⟨(value * 0x40 + (low - 0x80)) * 0x40 ^ k, ?_, ?_⟩
    · rw [pow_succ, ← Nat.div_div_eq_div_mul, next]
      simp only
      omega
    · rintro j ⟨⟩
      rw [next]
      simp only
      omega

end Pending

/-! ### Lead octets -/

/-- **What a lead octet begins**: how many octets are owed, which numbers it can be the first octet
of, and what the bounds of the next octet keep out of them. -/
inductive Leads (b : Nat) (p : Pending) : Prop where
  | one : p.owed = 0 → b < 0x80 → b = p.value → Leads b p
  | two : p.owed = 1 → 2 ≤ p.value → p.value < 0x20 → b = 0xC0 + p.value → Leads b p
  | three : p.owed = 2 → p.value < 0x10 → b = 0xE0 + p.value → (p.value = 0 → 0xA0 ≤ p.low) →
    (p.value = 0xD → p.high ≤ 0x9F) → Leads b p
  | four : p.owed = 3 → p.value ≤ 4 → b = 0xF0 + p.value → (p.value = 0 → 0x90 ≤ p.low) →
    (p.value = 4 → p.high ≤ 0x8F) → Leads b p

theorem lead_isBounded {b : Nat} (h : lead b = some p) : p.IsBounded := by
  unfold lead at h
  split_ifs at h <;> obtain rfl := Option.some.inj h <;> simp [Pending.IsBounded]

theorem leads_of_lead {b : Nat} (h : lead b = some p) : Leads b p := by
  unfold lead at h
  split_ifs at h <;> obtain rfl := Option.some.inj h
  · exact .one rfl (by omega) rfl
  · exact .two rfl (by simp only; omega) (by simp only; omega) (by simp only; omega)
  · exact .three rfl (by simp) (by simp only; omega) (by simp) (by simp)
  · exact .three rfl (by simp) (by simp only; omega) (by simp) (by simp)
  · exact .three rfl (by simp only; omega) (by simp only; omega) (by simp only; omega)
      (by simp only; omega)
  · exact .four rfl (by simp) (by simp only; omega) (by simp) (by simp)
  · exact .four rfl (by simp only; omega) (by simp only; omega) (by simp only; omega)
      (by simp only; omega)
  · exact .four rfl (by simp) (by simp only; omega) (by simp) (by simp)

theorem toUInt8_eq (h : b.toNat = n) : n.toUInt8 = b := by
  rw [← h]
  exact UInt8.ofNat_toNat

/-- **A lead octet begins each number that is possible after it.** -/
theorem encodeNat_of_lead (h : lead b.toNat = some p) (hn : p.Admits n) :
    n.isValidChar ∧ encodeNat n = b :: tail p.owed n := by
  obtain ⟨value, bounds⟩ := hn
  -- the bounds of the next octet keep out what fewer octets would write, surrogates, and what is
  -- too great for a character
  rcases leads_of_lead h with ⟨owed, hb, hv⟩ | ⟨owed, hl, hh, hb⟩ | ⟨owed, hv, hb, hl, hh⟩ |
    ⟨owed, hv, hb, hl, hh⟩
  · rw [owed, pow_zero, Nat.div_one] at value
    refine ⟨.inl (by omega), ?_⟩
    rw [encodeNat, if_pos (by omega), toUInt8_eq (b := b) (by omega), owed, tail]
  · rw [owed, pow_one] at value
    refine ⟨.inl (by omega), ?_⟩
    rw [encodeNat, if_neg (by omega), if_pos (by omega), toUInt8_eq (b := b) (by omega), owed]
    simp [tail]
  · have next := bounds 1 owed
    rw [pow_one] at next
    rw [owed, show (0x40 ^ 2 : Nat) = 0x1000 from rfl] at value
    refine ⟨by unfold Nat.isValidChar; omega, ?_⟩
    rw [encodeNat, if_neg (by omega), if_neg (by omega), if_pos (by omega),
      toUInt8_eq (b := b) (by omega), owed]
    simp [tail]
  · have next := bounds 2 owed
    rw [show (0x40 ^ 2 : Nat) = 0x1000 from rfl] at next
    rw [owed, show (0x40 ^ 3 : Nat) = 0x40000 from rfl] at value
    refine ⟨by unfold Nat.isValidChar; omega, ?_⟩
    rw [encodeNat, if_neg (by omega), if_neg (by omega), if_neg (by omega),
      toUInt8_eq (b := b) (by omega), owed]
    simp [tail]

/-! ### Continuation octets -/

theorem continueWith_eq (h : p.continueWith b.toNat = some q) :
    (p.low ≤ b.toNat ∧ b.toNat ≤ p.high) ∧
      q = ⟨p.value * 0x40 + (b.toNat - 0x80), p.owed - 1, 0x80, 0xBF⟩ := by
  unfold Pending.continueWith at h
  split_ifs at h with bounds
  exact ⟨bounds, (Option.some.inj h).symm⟩

/-- **What is possible after a continuation octet was possible before it**, and has this octet. -/
theorem admits_of_continueWith (h : p.continueWith b.toNat = some q) (hp : p.IsBounded)
    (owed : p.owed ≠ 0) (hn : q.Admits n) : p.Admits n ∧ tail p.owed n = b :: tail q.owed n := by
  obtain ⟨⟨hl, hh⟩, rfl⟩ := continueWith_eq h
  obtain ⟨low, -, high⟩ := hp
  obtain ⟨k, hk⟩ := Nat.exists_eq_succ_of_ne_zero owed
  have value : n / 0x40 ^ k = p.value * 0x40 + (b.toNat - 0x80) := by
    simpa [hk] using hn.1
  have digit : n / 0x40 ^ k % 0x40 = b.toNat - 0x80 := by omega
  refine ⟨⟨?_, fun j hj => ?_⟩, ?_⟩
  · rw [hk, Nat.succ_eq_add_one, pow_succ, ← Nat.div_div_eq_div_mul, value]
    omega
  · obtain rfl : k = j := by omega
    rw [digit]
    omega
  · rw [hk, Nat.succ_eq_add_one, tail, digit, toUInt8_eq (b := b) (by omega), Nat.add_sub_cancel]

theorem continueWith_isBounded (h : p.continueWith b.toNat = some q) : q.IsBounded := by
  obtain ⟨-, rfl⟩ := continueWith_eq h
  simp [Pending.IsBounded]

/-! ### The state after octets that begin a character -/

/-- **The state of the automaton after octets** that begin a character and are not all of one. -/
inductive After : List UInt8 → Pending → Prop where
  | lead {b : UInt8} {p : Pending} : lead b.toNat = some p → p.owed ≠ 0 → After [b] p
  | continue {bs : List UInt8} {b : UInt8} {p q : Pending} :
    After bs p → p.continueWith b.toNat = some q → q.owed ≠ 0 → After (bs ++ [b]) q

theorem After.owed (h : After bs p) : p.owed ≠ 0 := by
  cases h with
  | lead _ owed | «continue» _ _ owed => exact owed

theorem After.isBounded (h : After bs p) : p.IsBounded := by
  cases h with
  | lead h _ => exact lead_isBounded h
  | «continue» _ h _ => exact continueWith_isBounded h

/-- **The octets begin each number that is possible after them.** -/
theorem After.encodeNat_eq (h : After bs p) (hn : p.Admits n) :
    n.isValidChar ∧ encodeNat n = bs ++ tail p.owed n := by
  induction h with
  | lead h _ => exact encodeNat_of_lead h hn
  | «continue» before h _ ih =>
    obtain ⟨hp, octets⟩ := admits_of_continueWith h before.isBounded before.owed hn
    obtain ⟨scalar, text⟩ := ih hp
    exact ⟨scalar, by rw [text, octets, List.append_assoc, List.singleton_append]⟩

/-- **The octets are read** up to this state. -/
theorem After.readWith_append {onFault : List Char → Option (List Char)} {done : List Char}
    (h : After bs p) (rest : List UInt8) :
    readWith onFault (bs ++ rest) none done = readWith onFault rest (some p) done := by
  induction h generalizing rest with
  | lead h owed => exact readWith_lead h owed
  | «continue» _ h owed ih => rw [List.append_assoc, ih, List.singleton_append,
      readWith_continue h owed]

theorem begins_of_encodeNat (scalar : n.isValidChar) (h : bs <+: encodeNat n) : Begins bs := by
  have hn : (Char.ofNat n).toNat = n := by
    rw [Char.ofNat, dif_pos scalar]
    rfl
  exact ⟨Char.ofNat n, by rwa [hn]⟩

theorem begins_of_lead (h : lead b.toNat = some p) : Begins [b] := by
  obtain ⟨n, hn⟩ := (lead_isBounded h).exists_admits
  obtain ⟨scalar, text⟩ := encodeNat_of_lead h hn
  exact begins_of_encodeNat scalar ⟨tail p.owed n, text.symm⟩

theorem After.begins_append (h : After bs p) (hq : p.continueWith b.toNat = some q) :
    Begins (bs ++ [b]) := by
  obtain ⟨n, hn⟩ := (continueWith_isBounded hq).exists_admits
  obtain ⟨hp, octets⟩ := admits_of_continueWith hq h.isBounded h.owed hn
  obtain ⟨scalar, text⟩ := h.encodeNat_eq hp
  refine begins_of_encodeNat scalar ⟨tail q.owed n, ?_⟩
  rw [text, octets, List.append_assoc, List.singleton_append]

/-- **Octets that begin a character and are not all of it** have a state. -/
theorem exists_after {c : Char} (h : bs <+: encodeNat c.toNat) (nonempty : bs ≠ [])
    (proper : bs ≠ encodeNat c.toNat) : ∃ p, After bs p := by
  have valid : c.toNat.isValidChar := c.valid
  have positive : bs.length ≠ 0 := fun none => nonempty (List.length_eq_zero_iff.1 none)
  have short : bs.length < (encodeNat c.toNat).length :=
    lt_of_le_of_ne h.length_le fun all => proper (h.eq_of_length all)
  -- the octets are the first `k` of the character, of which the lead octet owes the others
  rw [List.prefix_iff_eq_take.1 h]
  generalize bs.length = k at positive short
  generalize c.toNat = n at valid short
  unfold encodeNat at short ⊢
  by_cases h1 : n < 0x80
  · rw [if_pos h1, List.length_singleton] at short
    omega
  rw [if_neg h1] at short ⊢
  by_cases h2 : n < 0x800
  · have two := After.lead (lead_two (by omega) h2) (by simp)
    rw [if_pos h2] at short ⊢
    obtain rfl : k = 1 := by simp only [List.length_cons, List.length_nil] at short; omega
    exact ⟨_, two⟩
  rw [if_neg h2] at short ⊢
  by_cases h3 : n < 0x10000
  · obtain ⟨low, high, hlead, hl, hh⟩ := lead_three (n := n) (by omega) h3 (by omega)
    have one := After.lead hlead (by simp)
    have two := one.continue (continueWith_tail (by omega) hl hh) (by simp)
    rw [if_pos h3] at short ⊢
    obtain rfl | rfl : k = 1 ∨ k = 2 := by
      simp only [List.length_cons, List.length_nil] at short; omega
    · exact ⟨_, one⟩
    · exact ⟨_, two⟩
  · obtain ⟨low, high, hlead, hl, hh⟩ := lead_four (n := n) (by omega) (by omega)
    have one := After.lead hlead (by simp)
    have two := one.continue (continueWith_tail (by omega) hl hh) (by simp)
    have three := two.continue (continueWith_free (m := n / 0x40 % 0x40) (by omega)) (by simp)
    rw [if_neg h3] at short ⊢
    obtain rfl | rfl | rfl : k = 1 ∨ k = 2 ∨ k = 3 := by
      simp only [List.length_cons, List.length_nil] at short; omega
    · exact ⟨_, one⟩
    · exact ⟨_, two⟩
    · exact ⟨_, three⟩

/-! ### Faults are read as replacement characters -/

/-- How `decodeLossy` reads an ill-formed part. -/
abbrev replace (done : List Char) : Option (List Char) :=
  some (replacement :: done)

/-- A character that is not gone on with is a fault, whether something follows or not. -/
theorem readWith_broken {done : List Char} (h : ∀ b ∈ rest.head?, p.continueWith b.toNat = none) :
    readWith replace rest (some p) done = readWith replace rest none (replacement :: done) := by
  cases rest with
  | nil => rfl
  | cons b rest => rw [readWith, readWith, h b rfl]

theorem IsFault.readWith_append {done : List Char} (h : IsFault bad rest) :
    readWith replace (bad ++ rest) none done =
      readWith replace rest none (replacement :: done) := by
  by_cases begins : Begins bad
  · obtain ⟨c, hc⟩ := begins
    obtain ⟨p, after⟩ := exists_after hc h.nonempty (h.ill_formed c).symm
    rw [after.readWith_append]
    -- an octet that the state passes would go on with a character
    refine readWith_broken fun b hb => ?_
    by_contra passes
    obtain ⟨q, hq⟩ := Option.ne_none_iff_exists'.1 passes
    exact h.maximal b hb (after.begins_append hq)
  · obtain ⟨b, rfl⟩ := List.length_eq_one_iff.1 (h.part.resolve_left begins)
    have none : lead b.toNat = none := by
      by_contra passes
      obtain ⟨p, hp⟩ := Option.ne_none_iff_exists'.1 passes
      exact begins (begins_of_lead hp)
    rw [List.singleton_append, readWith, none]

theorem Reads.readWith_eq {done : List Char} (h : Reads bs parts) :
    readWith replace bs none done = some (done.reverse ++ parts.map Part.text) := by
  induction h generalizing done with
  | nil => simp [readWith]
  | character c _ ih => rw [readWith_encodeNat, ih]; simp [Part.text]
  | fault bad _ ih => rw [bad.readWith_append, ih]; simp [Part.text]

/-- **The text of any octets is that of their parts.** -/
theorem Reads.decodeLossy_eq (h : Reads bs parts) : decodeLossy bs = parts.map Part.text := by
  rw [decodeLossy, h.readWith_eq]
  rfl

example : decodeLossy [0xE2, 0x82, 0x61, 0xFF] = [replacement, 'a', replacement] := by decide

/-! ### Any octets have parts -/

/-- Octets that begin a character go on to as many as do. -/
theorem Begins.exists_maximal (h : Begins bs) (rest : List UInt8) :
    ∃ more rest', rest = more ++ rest' ∧ Begins (bs ++ more) ∧
      ∀ b ∈ rest'.head?, ¬ Begins (bs ++ more ++ [b]) := by
  induction rest generalizing bs with
  | nil => exact ⟨[], [], rfl, by rwa [List.append_nil], nofun⟩
  | cons b rest ih =>
    by_cases goesOn : Begins (bs ++ [b])
    · obtain ⟨more, rest', hrest, hmore, maximal⟩ := ih goesOn
      rw [List.append_assoc, List.singleton_append] at hmore maximal
      exact ⟨b :: more, rest', by rw [hrest, List.cons_append], hmore, maximal⟩
    · exact ⟨[], b :: rest, rfl, by rwa [List.append_nil], by simpa using goesOn⟩

theorem exists_isFault (h : ∀ c : Char, ¬ encodeNat c.toNat <+: b :: bs) :
    ∃ bad rest, b :: bs = bad ++ rest ∧ IsFault bad rest := by
  by_cases begins : Begins [b]
  · obtain ⟨more, rest, hbs, hmore, maximal⟩ := begins.exists_maximal bs
    refine ⟨b :: more, rest, by rw [hbs, List.cons_append], List.cons_ne_nil _ _, ?_, .inl hmore,
      maximal⟩
    intro c hc
    exact h c ⟨rest, by rw [hc, hbs, List.cons_append]⟩
  · refine ⟨[b], bs, rfl, List.cons_ne_nil _ _, ?_, .inr rfl, ?_⟩
    · exact fun c hc => begins ⟨c, hc ▸ List.prefix_rfl⟩
    · exact fun b' _ goesOn => begins (goesOn.of_prefix (List.prefix_append _ _))

theorem encodeNat_ne_nil (n : Nat) : encodeNat n ≠ [] := by
  unfold encodeNat
  split_ifs <;> exact List.cons_ne_nil _ _

/-- **Any octets have parts.** -/
theorem exists_reads (bs : List UInt8) : ∃ parts, Reads bs parts := by
  -- on the number of octets, as each part takes some of them away
  induction hn : bs.length using Nat.strong_induction_on generalizing bs with
  | _ n ih =>
    subst hn
    cases bs with
    | nil => exact ⟨[], .nil⟩
    | cons b bs =>
      by_cases stands : ∃ c : Char, encodeNat c.toNat <+: b :: bs
      · obtain ⟨c, rest, hrest⟩ := stands
        have shorter : rest.length < (b :: bs).length := by
          rw [← hrest, List.length_append]
          exact Nat.lt_add_of_pos_left (List.length_pos_iff.2 (encodeNat_ne_nil _))
        obtain ⟨parts, h⟩ := ih _ shorter rest rfl
        exact ⟨_, hrest ▸ h.character c⟩
      · obtain ⟨bad, rest, hbs, fault⟩ := exists_isFault (not_exists.1 stands)
        have shorter : rest.length < (b :: bs).length := by
          rw [hbs, List.length_append]
          exact Nat.lt_add_of_pos_left (List.length_pos_iff.2 fault.nonempty)
        obtain ⟨parts, h⟩ := ih _ shorter rest rfl
        exact ⟨_, hbs ▸ h.fault fault⟩

/-! ### Texts that are cut off -/

theorem Reads.encode_append (h : Reads bs parts) (cs : List Char) :
    Reads (encode cs ++ bs) (cs.map Part.character ++ parts) := by
  induction cs with
  | nil => exact h
  | cons c cs ih =>
    rw [encode_cons, List.append_assoc]
    exact ih.character c

/-- Octets that begin a character and are not all of it are not those of another one either. -/
theorem After.ne_encodeNat (h : After bs p) (c : Char) : encodeNat c.toNat ≠ bs := by
  intro same
  -- strict reading refuses the beginning and gives the character
  have refused : readWith (fun _ => none) (bs ++ []) none [] = none := h.readWith_append []
  rw [← same, readWith_encodeNat] at refused
  cases refused

/-- **A character that is cut off is a fault.** -/
theorem isFault_of_cut {c : Char} (h : bs <+: encodeNat c.toNat) (nonempty : bs ≠ [])
    (proper : bs ≠ encodeNat c.toNat) : IsFault bs [] := by
  obtain ⟨p, after⟩ := exists_after h nonempty proper
  exact ⟨nonempty, after.ne_encodeNat, .inl ⟨c, h⟩, nofun⟩

/-- **A text that is cut off inside a character** ends in a fault. -/
theorem reads_of_cut {c : Char} (cs : List Char) (h : bs <+: encodeNat c.toNat)
    (nonempty : bs ≠ []) (proper : bs ≠ encodeNat c.toNat) :
    Reads (encode cs ++ bs) (cs.map Part.character ++ [.fault bs]) := by
  have fault := Reads.nil.fault (isFault_of_cut h nonempty proper)
  rw [List.append_nil] at fault
  exact fault.encode_append cs

/-! ### How long the text is -/

theorem length_encodeNat (c : Char) : (encodeNat c.toNat).length = c.utf8Size := by
  have sizes : c.utf8Size = if c.toNat < 0x80 then 1 else if c.toNat < 0x800 then 2 else
      if c.toNat < 0x10000 then 3 else 4 := by
    simp only [Char.utf8Size, UInt32.le_iff_toNat_le, ← Nat.lt_succ_iff]
    rfl
  rw [sizes, encodeNat]
  split_ifs <;> rfl

theorem utf8ByteSize_text (parts : List Part) :
    (String.ofList (parts.map Part.text)).utf8ByteSize = width parts := by
  rw [String.utf8ByteSize_ofList]
  induction parts with
  | nil => rfl
  | cons part rest ih =>
    rw [List.map_cons, String.utf8Len_cons, ih, Nat.add_comm]
    cases part with
    | character c => rw [width, length_encodeNat, Part.text]
    | fault bs => rfl

/-- **The size of the text** is the width of the parts. -/
theorem Reads.utf8ByteSize_stringLossy (h : Reads bs parts) :
    (stringLossy bs).utf8ByteSize = width parts := by
  rw [stringLossy, h.decodeLossy_eq, utf8ByteSize_text]

/-- **The text is at most three times as long** as what it is read from. -/
theorem Reads.width_le (h : Reads bs parts) : width parts ≤ 3 * bs.length := by
  induction h with
  | nil => exact Nat.le_refl 0
  | character c _ ih =>
    rw [width, List.length_append]
    omega
  | fault bad _ ih =>
    have := List.length_pos_iff.2 bad.nonempty
    rw [width, List.length_append]
    omega

theorem width_characters_append (cs : List Char) (parts : List Part) :
    width (cs.map Part.character ++ parts) = (encode cs).length + width parts := by
  induction cs with
  | nil => exact (Nat.zero_add _).symm
  | cons c cs ih =>
    rw [List.map_cons, List.cons_append, width, ih, encode_cons, List.length_append, Nat.add_assoc]

theorem length_encode_replicate (k : Nat) (c : Char) :
    (encode (List.replicate k c)).length = k * (encodeNat c.toNat).length := by
  induction k with
  | zero => exact (Nat.zero_mul _).symm
  | succ k ih => rw [List.replicate_succ, encode_cons, List.length_append, ih, Nat.succ_mul,
      Nat.add_comm]

end

end RealmKeeper.Text.Utf8
