import RealmKeeper.Proofs.Escaping
import RealmKeeper.Text.Separated
import RealmKeeper.Url.Form
import Mathlib.Tactic.Common

/-!
# Reading form encoding

What is written as a pair is read as this pair, and stands for itself behind whatever a text already
holds.

* `formDecode_formEncode`: a name or value is read as it was written;
* `formParts_eq_splitOn`: the parts of a text are those between its ampersands;
* `formPairs_appendPair`: one more pair in a text is one more pair that is read;
* `exists_appendPair`: the text stands unchanged before it.
-/

namespace RealmKeeper.Url

open RealmKeeper.Text

/-! ### One octet -/

/-- **The signs of a form**: they part pairs, part a name from its value, and stand for spaces. -/
def IsFormSign (c : Char) : Prop :=
  c = '&' ∨ c = '=' ∨ c = '+'

instance (c : Char) : Decidable (IsFormSign c) := by
  unfold IsFormSign; infer_instance

theorem not_isFormSign_of_mem_escapeOctet {b : UInt8} {c : Char} (h : c ∈ escapeOctet b) :
    ¬ IsFormSign c :=
  of_mem_escapeOctet (P := (¬ IsFormSign ·)) (by decide) (by decide) h

theorem toNat_lt_of_isFormPlain {b : UInt8} (h : isFormPlain b = true) : b.toNat < 0x80 := by
  simp only [isFormPlain, Bool.or_eq_true, Bool.and_eq_true, decide_eq_true_eq, beq_iff_eq,
    UInt8.le_iff_toNat_le] at h
  rcases h with (((((⟨-, h⟩ | ⟨-, h⟩) | ⟨-, h⟩) | rfl) | rfl) | rfl) | rfl
  · exact Nat.lt_of_le_of_lt h (by decide)
  · exact Nat.lt_of_le_of_lt h (by decide)
  · exact Nat.lt_of_le_of_lt h (by decide)
  all_goals decide

theorem ofNat_of_isFormPlain {b : UInt8} (h : isFormPlain b = true) :
    (Char.ofNat b.toNat).toNat = b.toNat ∧ ¬ IsFormSign (Char.ofNat b.toNat) ∧
      Char.ofNat b.toNat ≠ '%' := by
  have ascii : ∀ n < 0x80, isFormPlain n.toUInt8 = true →
      (Char.ofNat n).toNat = n ∧ ¬ IsFormSign (Char.ofNat n) ∧ Char.ofNat n ≠ '%' := by decide
  refine ascii b.toNat (toNat_lt_of_isFormPlain h) ?_
  simpa using h

/-- **No sign is written in a name or value**, but for spaces. -/
theorem ne_of_mem_formOctet {b : UInt8} {c : Char} (h : c ∈ formOctet b) : c ≠ '&' ∧ c ≠ '=' := by
  have apart {c : Char} (hc : ¬ IsFormSign c) : c ≠ '&' ∧ c ≠ '=' :=
    ⟨fun he => hc (.inl he), fun he => hc (.inr (.inl he))⟩
  unfold formOctet at h
  split_ifs at h with plain space
  · rw [List.mem_singleton.mp h]
    exact apart (ofNat_of_isFormPlain plain).2.1
  · rw [List.mem_singleton.mp h]
    decide
  · exact apart (not_isFormSign_of_mem_escapeOctet h)

theorem ne_of_mem_formEncode {cs : List Char} {c : Char} (h : c ∈ formEncode cs) :
    c ≠ '&' ∧ c ≠ '=' := by
  obtain ⟨b, -, hc⟩ := List.mem_flatMap.mp h
  exact ne_of_mem_formOctet hc

/-! ### Names and values -/

/-- What a plus sign stands for. -/
def spaced (c : Char) : Char :=
  if c = '+' then ' ' else c

theorem spaced_of_not_isFormSign {c : Char} (h : ¬ IsFormSign c) : spaced c = c :=
  if_neg fun he => h (.inr (.inr he))

theorem unescape_formOctet (b : UInt8) (rest : List Char) :
    unescape ((formOctet b).map spaced ++ rest) = b :: unescape rest := by
  unfold formOctet
  split_ifs with plain space
  · obtain ⟨value, sign, percent⟩ := ofNat_of_isFormPlain plain
    have ascii := toNat_lt_of_isFormPlain plain
    rw [List.map_singleton, spaced_of_not_isFormSign sign, List.singleton_append,
      unescape_cons percent, value, Utf8.encodeNat, if_pos ascii]
    simp
  · rw [space]
    exact unescape_cons (by decide) rest
  · have same : (escapeOctet b).map spaced = (escapeOctet b).map id :=
      List.map_congr_left fun c hc =>
        spaced_of_not_isFormSign (not_isFormSign_of_mem_escapeOctet hc)
    rw [same, List.map_id, unescape_escapeOctet]

theorem unescape_formOctets (bs : List UInt8) :
    unescape ((bs.flatMap formOctet).map spaced) = bs := by
  induction bs with
  | nil => rfl
  | cons b bs ih => rw [List.flatMap_cons, List.map_append, unescape_formOctet, ih]

/-- **A name or value is read as it was written.** -/
theorem formDecode_formEncode (cs : List Char) : formDecode (formEncode cs) = cs := by
  show Utf8.decodeLossy (unescape ((formEncode cs).map spaced)) = cs
  rw [formEncode, unescape_formOctets, Utf8.decodeLossy, Utf8.readWith_encode]
  rfl

/-! ### Pairs -/

theorem pairOf_formPair (pair : List Char × List Char) : pairOf (formPair pair) = pair := by
  have name : ∀ c ∈ formEncode pair.1, decide (c ≠ '=') = true :=
    fun c hc => decide_eq_true (ne_of_mem_formEncode hc).2
  unfold pairOf formPair
  rw [List.takeWhile_append_of_pos name, List.dropWhile_append_of_pos name]
  simp [formDecode_formEncode]

/-- **The parts of a text** are those between its ampersands. -/
theorem formParts_eq_splitOn (cs : List Char) : formParts cs = cs.splitOn '&' := by
  induction cs with
  | nil => rfl
  | cons c rest ih =>
    rw [formParts, List.splitOn_cons_eq_if_modifyHead, ih]
    by_cases h : c = '&'
    · rw [if_pos h, if_pos (by simpa using h)]
    · rw [if_neg h, if_neg (by simpa using h)]
      exact modifyHead_eq_match c _ (List.splitOn_ne_nil _ _)

theorem ampersand_not_mem_formPair (pair : List Char × List Char) : '&' ∉ formPair pair := by
  intro h
  rcases List.mem_append.mp h with h | h
  · exact (ne_of_mem_formEncode h).1 rfl
  · rcases List.mem_cons.mp h with h | h
    · exact absurd h (by decide)
    · exact (ne_of_mem_formEncode h).1 rfl

theorem formPairs_formPair (pair : List Char × List Char) : formPairs (formPair pair) = [pair] := by
  have filled : formPair pair ≠ [] := by simp [formPair]
  rw [formPairs, formParts_eq_splitOn, List.splitOn_eq_singleton (ampersand_not_mem_formPair pair),
    List.filter_cons_of_pos (by simpa using filled), List.filter_nil, List.map_singleton,
    pairOf_formPair]

/-- **One more pair in a text** is one more pair that is read. -/
theorem formPairs_appendPair (text : List Char) (pair : List Char × List Char) :
    formPairs (appendPair text pair) = formPairs text ++ [pair] := by
  have last := formPairs_formPair pair
  unfold appendPair
  cases text with
  | nil => exact last
  | cons c rest =>
    rw [← last]
    simp only [formPairs, formParts_eq_splitOn, List.isEmpty_cons, Bool.false_eq_true, if_false]
    rw [List.splitOn_append_cons_self, List.filter_append, List.map_append]

example : formPairs (appendPair "a=1&&b".toList ("c".toList, "x&y= +".toList)) =
    [("a".toList, "1".toList), ("b".toList, []), ("c".toList, "x&y= +".toList)] := by decide

/-- **The text stands unchanged** before the pair, which is parted from it by an ampersand. -/
theorem exists_appendPair (text : List Char) (pair : List Char × List Char) :
    ∃ written, '&' ∉ written ∧ formPairs written = [pair] ∧
      (text = [] ∧ appendPair text pair = written ∨
        text ≠ [] ∧ appendPair text pair = text ++ '&' :: written) := by
  refine ⟨formPair pair, ampersand_not_mem_formPair pair, formPairs_formPair pair, ?_⟩
  cases text with
  | nil => exact .inl ⟨rfl, rfl⟩
  | cons c rest => exact .inr ⟨List.cons_ne_nil c rest, rfl⟩

theorem appendPair_injective (text : List Char) {pair other : List Char × List Char}
    (h : appendPair text pair = appendPair text other) : pair = other := by
  have read := congrArg formPairs h
  rw [formPairs_appendPair, formPairs_appendPair] at read
  exact List.singleton_inj.mp (List.append_cancel_left read)

end RealmKeeper.Url
