import RealmKeeper.Proofs.Utf8
import RealmKeeper.Url.Percent

/-!
# Reading what is escaped

* `unescape_escape`: where the percent sign itself is escaped, an escaped text has the octets of the
  text;
* `escape_injective`: no two texts are escaped to the same.
-/

namespace RealmKeeper.Url

open RealmKeeper.Text

/-! ### One octet -/

theorem hexValue_upperHexChar {n : Nat} (h : n < 16) : hexValue? (upperHexChar n) = some n := by
  have all : ∀ i : Fin 16, hexValue? (upperHexChar i) = some i.val := by decide
  exact all ⟨n, h⟩

theorem of_mem_escapeOctet {P : Char → Prop} (percent : P '%')
    (digits : ∀ i : Fin 16, P (upperHexChar i)) {b : UInt8} {c : Char} (h : c ∈ escapeOctet b) :
    P c := by
  have hb : b.toNat < 256 := b.toNat_lt
  simp only [escapeOctet, List.mem_cons, List.not_mem_nil, or_false] at h
  rcases h with rfl | rfl | rfl
  · exact percent
  · exact digits ⟨b.toNat / 16, by omega⟩
  · exact digits ⟨b.toNat % 16, by omega⟩

theorem unescape_escapeOctet (b : UInt8) (rest : List Char) :
    unescape (escapeOctet b ++ rest) = b :: unescape rest := by
  have hb : b.toNat < 256 := b.toNat_lt
  have value : 16 * (b.toNat / 16) + b.toNat % 16 = b.toNat := by omega
  show unescape ('%' :: upperHexChar (b.toNat / 16) :: upperHexChar (b.toNat % 16) :: rest) = _
  rw [unescape, hexValue_upperHexChar (by omega), hexValue_upperHexChar (by omega)]
  show (16 * (b.toNat / 16) + b.toNat % 16).toUInt8 :: unescape rest = _
  rw [value]
  simp

theorem unescape_escapeOctets (bs : List UInt8) (rest : List Char) :
    unescape (bs.flatMap escapeOctet ++ rest) = bs ++ unescape rest := by
  induction bs with
  | nil => rfl
  | cons b bs ih =>
    rw [List.flatMap_cons, List.append_assoc, unescape_escapeOctet, ih, List.cons_append]

theorem unescape_cons {c : Char} (h : c ≠ '%') (rest : List Char) :
    unescape (c :: rest) = Utf8.encodeNat c.toNat ++ unescape rest := by
  rw [unescape]
  rintro a b rest' ⟨⟩
  exact absurd rfl h

/-! ### Texts -/

variable {inSet : Char → Bool}

theorem unescape_escapeChar (percent : inSet '%' = true) (c : Char) (rest : List Char) :
    unescape (escapeChar inSet c ++ rest) = Utf8.encodeNat c.toNat ++ unescape rest := by
  unfold escapeChar
  split
  · rename_i plain
    have hc : c ≠ '%' := by
      rintro rfl
      simp [percent] at plain
    exact unescape_cons hc rest
  · exact unescape_escapeOctets _ rest

/-- **An escaped text has the octets of the text.** -/
theorem unescape_escape (percent : inSet '%' = true) (cs : List Char) :
    unescape (escape inSet cs) = Utf8.encode cs := by
  induction cs with
  | nil => rfl
  | cons c rest ih =>
    show unescape (escapeChar inSet c ++ escape inSet rest) = _
    rw [unescape_escapeChar percent, ih, Utf8.encode_cons]

/-- **No two texts are escaped to the same.** -/
theorem escape_injective (percent : inSet '%' = true) {cs ds : List Char}
    (h : escape inSet cs = escape inSet ds) : cs = ds := by
  refine Utf8.encode_injective ?_
  rw [← unescape_escape percent, h, unescape_escape percent]

end RealmKeeper.Url
