import RealmKeeper.Json.Text
import RealmKeeper.Json.Token
import RealmKeeper.Proofs.Utf8
import Mathlib.Data.Nat.Digits.Lemmas

/-!
# The words of written values

The compact text of a value, word by word.

* `words`: the words of a value;
* `IsTextual`: a value that its text holds, nested so deep at most, with numbers that are read from
  their spelling;
* `spells_string`, `isSpelled_integer`: texts and integers are read from their spelling;
* `tokens_bytes`: the text of a value has the words of the value.
-/

namespace RealmKeeper.Json

open Text

/-! ### Words -/

mutual

/-- **The words of a value**, in the order of its text. -/
def words : Json → List Token
  | .null => [.null]
  | .bool b => [.bool b]
  | .number n => [.number (some n)]
  | .string s => [.string (some s)]
  | .array items => .openArray :: itemWords items ++ [.closeArray]
  | .object members => .openObject :: memberWords members ++ [.closeObject]

def itemWords : List Json → List Token
  | [] => []
  | [v] => words v
  | v :: rest => words v ++ .comma :: itemWords rest

def memberWords : List (String × Json) → List Token
  | [] => []
  | [(name, v)] => .string (some name) :: .colon :: words v
  | (name, v) :: rest => .string (some name) :: .colon :: words v ++ .comma :: memberWords rest

end

/-- **A number is read from its spelling.** -/
def Numeral.IsSpelled (n : Numeral) : Prop :=
  tokens (Utf8.encode n.chars) = [.number (some n)]

/-- **The text of a value holds it**: it is nested so deep at most, and its numbers are read from
their spelling. -/
inductive IsTextual : Nat → Json → Prop
  | null {depth : Nat} : IsTextual depth .null
  | bool {depth : Nat} {b : Bool} : IsTextual depth (.bool b)
  | number {depth : Nat} {n : Numeral} (spelled : n.IsSpelled) : IsTextual depth (.number n)
  | string {depth : Nat} {s : String} : IsTextual depth (.string s)
  | array {depth : Nat} {items : List Json} (each : ∀ v ∈ items, IsTextual depth v) :
    IsTextual (depth + 1) (.array items)
  | object {depth : Nat} {members : List (String × Json)}
    (each : ∀ m ∈ members, IsTextual depth m.2) : IsTextual (depth + 1) (.object members)

/-! ### Runs of the automaton -/

/-- **The words so far are complete**, though the number that the last of them is may go on. -/
inductive Completes : Mode × List Token → List Token → Prop
  | between {done : List Token} : Completes (.between, done) done
  | word {w : Token} {done : List Token} : Completes (.word [] w, done) (w :: done)
  | number {d : NumberDraft} {l : Literal} {done : List Token} (h : d.literal? = some l) :
    Completes (.number d, done) (.number l.value :: done)

/-- The octets that may follow a value, with their words. -/
inductive Follows : UInt8 → Token → Prop
  | comma : Follows 0x2C .comma
  | closeArray : Follows 0x5D .closeArray
  | closeObject : Follows 0x7D .closeObject

theorem Completes.finish {s : Mode × List Token} {done : List Token} (h : Completes s done) :
    finish s = done.reverse := by
  cases h with
  | between | word => rfl
  | number h => rw [Json.finish, h]

theorem Follows.stepBetween {b : UInt8} {w : Token} (h : Follows b w) (done : List Token) :
    stepBetween done b = (.between, w :: done) := by
  cases h <;> rfl

theorem Follows.ended {b : UInt8} {w : Token} (h : Follows b w) {d : NumberDraft} {l : Literal}
    (hl : d.literal? = some l) : d.step b = .ended := by
  obtain ⟨stage, negative, whole, fraction, down, exponent⟩ := d
  cases stage <;> first | (cases h <;> rfl) | cases hl

theorem Completes.step {s : Mode × List Token} {done : List Token} (h : Completes s done)
    {b : UInt8} {w : Token} (hb : Follows b w) : Json.step s b = (.between, w :: done) := by
  cases h with
  | between | word => exact hb.stepBetween _
  | number hl =>
    rw [Json.step, hb.ended hl]
    simp only [hl]
    exact hb.stepBetween _

theorem completes_of_finish {s : Mode × List Token} {n : Numeral}
    (h : finish s = [.number (some n)]) : Completes s [.number (some n)] := by
  have single : ∀ {ws : List Token} {w : Token}, ws.reverse = [w] → ws = [w] := fun h =>
    List.reverse_eq_iff.mp h
  obtain ⟨mode, done⟩ := s
  cases mode with
  | between =>
    obtain rfl := single h
    exact .between
  | word owed w =>
    cases owed with
    | nil => exact single h ▸ .word
    | cons b owed => cases single h
  | number d =>
    cases hl : d.literal? with
    | none =>
      rw [finish, hl] at h
      cases single h
    | some l =>
      rw [finish, hl] at h
      exact single h ▸ .number hl
  | _ => cases single h

/-- A state with words that were there before. -/
def behind (before : List Token) (s : Mode × List Token) : Mode × List Token :=
  (s.1, s.2 ++ before)

theorem Completes.behind {s : Mode × List Token} {done : List Token} (h : Completes s done)
    (before : List Token) : Completes (Json.behind before s) (done ++ before) := by
  cases h with
  | between => exact .between
  | word => exact .word
  | number hl => exact .number hl

section behind

variable (before : List Token)

theorem stepBetween_behind (done : List Token) (b : UInt8) :
    stepBetween (done ++ before) b = behind before (stepBetween done b) := by
  unfold stepBetween
  simp only [apply_ite (behind before)]
  rfl

theorem step_behind (s : Mode × List Token) (b : UInt8) :
    step (behind before s) b = behind before (step s b) := by
  obtain ⟨mode, done⟩ := s
  -- no step looks at the words that are done; some add one
  cases mode with
  | between => exact stepBetween_behind before done b
  | word owed w =>
    match owed with
    | [] => exact stepBetween_behind before (w :: done) b
    | [_] | _ :: _ :: _ =>
      simp only [behind, step]
      split_ifs <;> rfl
  | number d =>
    simp only [behind, step]
    cases d.step b with
    | more d => rfl
    | broken => rfl
    | ended =>
      cases d.literal? with
      | none => rfl
      | some l => exact stepBetween_behind before (.number l.value :: done) b
  | string pieces =>
    simp only [behind, step]
    split_ifs <;> rfl
  | escape pieces =>
    simp only [behind, step]
    cases escaped? b <;> split_ifs <;> rfl
  | hex pieces value owed =>
    simp only [behind, step]
    cases hexDigit? b with
    | none => rfl
    | some n =>
      simp only
      split_ifs <;> rfl
  | broken => rfl

theorem foldl_behind (bs : List UInt8) (s : Mode × List Token) :
    bs.foldl step (behind before s) = behind before (bs.foldl step s) := by
  induction bs generalizing s with
  | nil => rfl
  | cons b bs ih => rw [List.foldl_cons, List.foldl_cons, step_behind, ih]

end behind

/-- **A text spells words**, wherever it stands between two words. -/
def Spells (cs : List Char) (ws : List Token) : Prop :=
  ∀ done, Completes ((Utf8.encode cs).foldl step (.between, done)) (ws.reverse ++ done)

/-- A text spells words that nothing can go on. -/
def SpellsWhole (cs : List Char) (ws : List Token) : Prop :=
  ∀ done, (Utf8.encode cs).foldl step (.between, done) = (.between, ws.reverse ++ done)

section runs

variable {cs ds : List Char} {ws us : List Token}

theorem SpellsWhole.spells (h : SpellsWhole cs ws) : Spells cs ws := by
  intro done
  rw [h done]
  exact .between

theorem SpellsWhole.append (h : SpellsWhole cs ws) (h' : Spells ds us) :
    Spells (cs ++ ds) (ws ++ us) := by
  intro done
  rw [Utf8.encode_append, List.foldl_append, h done, List.reverse_append, List.append_assoc]
  exact h' _

theorem SpellsWhole.append_whole (h : SpellsWhole cs ws) (h' : SpellsWhole ds us) :
    SpellsWhole (cs ++ ds) (ws ++ us) := by
  intro done
  rw [Utf8.encode_append, List.foldl_append, h done, List.reverse_append, List.append_assoc]
  exact h' _

theorem Spells.close (h : Spells cs ws) {c : Char} {b : UInt8} {w : Token}
    (hc : Utf8.encodeNat c.toNat = [b]) (hb : Follows b w) :
    SpellsWhole (cs ++ [c]) (ws ++ [w]) := by
  intro done
  rw [Utf8.encode_append, Utf8.encode_cons, hc, Utf8.encode_nil, List.append_nil, List.foldl_append,
    List.foldl_cons, List.foldl_nil, (h done).step hb]
  simp

theorem Spells.tokens (h : Spells cs ws) : tokens (Utf8.encode cs) = ws := by
  rw [Json.tokens, (h []).finish, List.append_nil, List.reverse_reverse]

/-- **A number that is read from its spelling is spelled so anywhere.** -/
theorem Numeral.IsSpelled.spells {n : Numeral} (h : n.IsSpelled) :
    Spells n.chars [.number (some n)] := by
  intro done
  -- the words before do not matter, and the number may go on until something follows it
  have start : (Mode.between, done) = behind done (.between, []) := rfl
  rw [start, foldl_behind]
  exact (completes_of_finish h).behind done

end runs

/-! ### Texts -/

section texts

variable {pieces : List Piece} {done : List Token} {out : List UInt8}

theorem octetsOf_octets (bs : List UInt8) (rest : List Piece) :
    octetsOf (bs.map .octet ++ rest) out = octetsOf rest (bs.reverse ++ out) := by
  induction bs generalizing out with
  | nil => rfl
  | cons b bs ih => rw [List.map_cons, List.cons_append, octetsOf, ih, List.reverse_cons,
      List.append_assoc, List.singleton_append]

/-- A character that is spelled by its number, but for the surrogates. -/
theorem octetsOf_unit {n : Nat} (h : n < 0xD800) (rest : List Piece) :
    octetsOf (.unit n :: rest) out = octetsOf rest ((Utf8.encodeNat n).reverse ++ out) := by
  have high : isHighSurrogate n = false := by
    simp only [isHighSurrogate, Bool.and_eq_false_iff, decide_eq_false_iff_not]
    omega
  have low : isLowSurrogate n = false := by
    simp only [isLowSurrogate, Bool.and_eq_false_iff, decide_eq_false_iff_not]
    omega
  cases rest with
  | nil => simp [octetsOf, high, low]
  | cons piece rest => cases piece <;> simp [octetsOf, high, low]

theorem plain_of_mem_encodeNat {n : Nat} (visible : 0x20 ≤ n) (quote : n ≠ 0x22)
    (backslash : n ≠ 0x5C) (valid : n < 0x110000) {b : UInt8} (h : b ∈ Utf8.encodeNat n) :
    b ≠ 0x22 ∧ b ≠ 0x5C ∧ ¬ b < 0x20 := by
  have octet : ∃ m : Nat, b.toNat = m ∧ 0x20 ≤ m ∧ m ≠ 0x22 ∧ m ≠ 0x5C := by
    unfold Utf8.encodeNat at h
    split_ifs at h <;>
      simp only [List.mem_cons, List.not_mem_nil, or_false] at h
    · subst h
      refine ⟨n, Utf8.toNat_toUInt8 (by omega), visible, quote, backslash⟩
    · rcases h with rfl | rfl <;>
        exact ⟨_, Utf8.toNat_toUInt8 (by omega), by omega, by omega, by omega⟩
    · rcases h with rfl | rfl | rfl <;>
        exact ⟨_, Utf8.toNat_toUInt8 (by omega), by omega, by omega, by omega⟩
    · rcases h with rfl | rfl | rfl | rfl <;>
        exact ⟨_, Utf8.toNat_toUInt8 (by omega), by omega, by omega, by omega⟩
  obtain ⟨m, rfl, visible, quote, backslash⟩ := octet
  refine ⟨?_, ?_, ?_⟩
  · rintro rfl
    exact quote rfl
  · rintro rfl
    exact backslash rfl
  · rw [UInt8.lt_iff_toNat_lt]
    exact Nat.not_lt.mpr visible

theorem foldl_plain {bs : List UInt8} (plain : ∀ b ∈ bs, b ≠ 0x22 ∧ b ≠ 0x5C ∧ ¬ b < 0x20) :
    bs.foldl step (.string pieces, done) = (.string ((bs.map .octet).reverse ++ pieces), done) := by
  induction bs generalizing pieces with
  | nil => rfl
  | cons b bs ih =>
    obtain ⟨⟨quote, backslash, visible⟩, plain⟩ := List.forall_mem_cons.mp plain
    have one : step (.string pieces, done) b = (.string (.octet b :: pieces), done) := by
      rw [step, if_neg quote, if_neg backslash, if_neg visible]
    rw [List.foldl_cons, one, ih plain]
    simp

theorem hexDigit?_hexChar : ∀ n < 16, ∃ b, Utf8.encodeNat (hexChar n).toNat = [b] ∧
    hexDigit? b = some n := by
  have digit : ∀ n < 16, Utf8.encodeNat (hexChar n).toNat = [(hexChar n).toNat.toUInt8] ∧
      hexDigit? (hexChar n).toNat.toUInt8 = some n := by decide
  exact fun n hn => ⟨_, digit n hn⟩

theorem foldl_control {n : Nat} (h : n < 0x20) :
    (Utf8.encode ['\\', 'u', '0', '0', hexChar (n / 16), hexChar (n % 16)]).foldl step
      (.string pieces, done) = (.string (.unit n :: pieces), done) := by
  obtain ⟨high, ehigh, vhigh⟩ := hexDigit?_hexChar (n / 16) (by omega)
  obtain ⟨low, elow, vlow⟩ := hexDigit?_hexChar (n % 16) (by omega)
  have octets : Utf8.encode ['\\', 'u', '0', '0', hexChar (n / 16), hexChar (n % 16)] =
      [0x5C, 0x75, 0x30, 0x30] ++ [high] ++ [low] := by
    rw [show ['\\', 'u', '0', '0', hexChar (n / 16), hexChar (n % 16)] =
      ['\\', 'u', '0', '0'] ++ [hexChar (n / 16)] ++ [hexChar (n % 16)] from rfl]
    rw [Utf8.encode_append, Utf8.encode_append, Utf8.encode_cons (hexChar (n / 16)),
      Utf8.encode_cons (hexChar (n % 16)), ehigh, elow]
    rfl
  have begun : [0x5C, 0x75, 0x30, 0x30].foldl step (.string pieces, done) =
      (.hex pieces 0 2, done) := rfl
  have next : step (.hex pieces 0 2, done) high = (.hex pieces (n / 16) 1, done) := by
    simp [step, vhigh]
  have last : step (.hex pieces (n / 16) 1, done) low = (.string (.unit n :: pieces), done) := by
    have value : 16 * (n / 16) + n % 16 = n := by omega
    simp [step, vlow, value]
  simp only [octets, List.foldl_append, begun, List.foldl_cons, List.foldl_nil, next, last]

/-- **A character is read from its spelling**: from pieces that stand for its octets. -/
theorem exists_pieces (c : Char) : ∃ new : List Piece,
    (∀ pieces done, (Utf8.encode (escapeChar c)).foldl step (.string pieces, done) =
      (.string (new.reverse ++ pieces), done)) ∧
    ∀ rest out, octetsOf (new ++ rest) out =
      octetsOf rest ((Utf8.encodeNat c.toNat).reverse ++ out) := by
  unfold escapeChar
  split_ifs with quote backslash back feed line carriage tab control
  · subst quote
    exact ⟨[.octet 0x22], fun _ _ => rfl, fun _ _ => rfl⟩
  · subst backslash
    exact ⟨[.octet 0x5C], fun _ _ => rfl, fun _ _ => rfl⟩
  · subst back
    exact ⟨[.octet 0x08], fun _ _ => rfl, fun _ _ => rfl⟩
  · subst feed
    exact ⟨[.octet 0x0C], fun _ _ => rfl, fun _ _ => rfl⟩
  · subst line
    exact ⟨[.octet 0x0A], fun _ _ => rfl, fun _ _ => rfl⟩
  · subst carriage
    exact ⟨[.octet 0x0D], fun _ _ => rfl, fun _ _ => rfl⟩
  · subst tab
    exact ⟨[.octet 0x09], fun _ _ => rfl, fun _ _ => rfl⟩
  · refine ⟨[.unit c.toNat], fun _ _ => foldl_control control, fun rest out => ?_⟩
    exact octetsOf_unit (by omega) rest
  · have valid : c.toNat < 0xD800 ∨ 0xDFFF < c.toNat ∧ c.toNat < 0x110000 := c.valid
    have other : ∀ {d : Char}, c ≠ d → c.toNat ≠ d.toNat :=
      fun ne same => ne (Char.toNat_inj.mp same)
    refine ⟨(Utf8.encodeNat c.toNat).map .octet, fun pieces done => ?_, fun rest out => ?_⟩
    · rw [Utf8.encode_cons, Utf8.encode_nil, List.append_nil]
      exact foldl_plain fun b hb => plain_of_mem_encodeNat (by omega) (other quote)
        (other backslash) (by omega) hb
    · exact octetsOf_octets _ rest

theorem exists_pieces_of_chars (cs : List Char) : ∃ new : List Piece,
    (∀ pieces done, (Utf8.encode (cs.flatMap escapeChar)).foldl step (.string pieces, done) =
      (.string (new.reverse ++ pieces), done)) ∧
    ∀ out, octetsOf new out = some (out.reverse ++ Utf8.encode cs) := by
  induction cs with
  | nil => exact ⟨[], fun _ _ => rfl, fun out => by simp [octetsOf, Utf8.encode_nil]⟩
  | cons c cs ih =>
    obtain ⟨first, reads, octets⟩ := exists_pieces c
    obtain ⟨others, reads', octets'⟩ := ih
    refine ⟨first ++ others, fun pieces done => ?_, fun out => ?_⟩
    · rw [List.flatMap_cons, Utf8.encode_append, List.foldl_append, reads, reads',
        List.reverse_append, List.append_assoc]
    · rw [octets, octets', Utf8.encode_cons]
      simp

/-- **A text is read from its spelling.** -/
theorem spells_string (s : String) : SpellsWhole (stringChars s) [.string (some s)] := by
  intro done
  obtain ⟨pieces, reads, octets⟩ := exists_pieces_of_chars s.toList
  have text : stringOf pieces = some s := by
    rw [stringOf, octets, Option.bind_some, List.reverse_nil, List.nil_append, Utf8.string?,
      Utf8.decode_encode, Option.map_some, String.ofList_toList]
  have spelled : Utf8.encode (stringChars s) =
      0x22 :: (Utf8.encode (s.toList.flatMap escapeChar) ++ [0x22]) := by
    rw [stringChars, List.cons_append, Utf8.encode_cons, Utf8.encode_append]
    rfl
  rw [spelled, List.foldl_cons, List.foldl_append,
    show step (.between, done) 0x22 = (.string [], done) from rfl, reads, List.append_nil]
  simp [step, text]

end texts

/-! ### Integers -/

section integers

open Number

variable {done : List Token}

/-- The octet of a decimal digit. -/
def digitOctet (k : Nat) : UInt8 :=
  (Nat.digitChar k).toNat.toUInt8

theorem digitOctet_spec : ∀ k < 10, Utf8.encodeNat (Nat.digitChar k).toNat = [digitOctet k] ∧
    digit? (digitOctet k) = some k := by
  decide

theorem encode_digitChars_of_lt {n : Nat} (h : n < 10) :
    Utf8.encode (digitChars n) = [digitOctet n] := by
  rw [digitChars, Nat.toDigits_of_lt_base h, Utf8.encode_cons, (digitOctet_spec n h).1,
    Utf8.encode_nil, List.append_nil]

theorem encode_digitChars_of_le {n : Nat} (h : 10 ≤ n) :
    Utf8.encode (digitChars n) = Utf8.encode (digitChars (n / 10)) ++ [digitOctet (n % 10)] := by
  have small : n % 10 < 10 := by omega
  rw [digitChars, Nat.toDigits_of_base_le (by decide) h, Utf8.encode_append,
    Utf8.encode_cons, (digitOctet_spec _ small).1, Utf8.encode_nil, List.append_nil]
  rfl

/-- A number in progress of which there are whole digits. -/
def wholeDraft (negative : Bool) (digits : List Nat) : NumberDraft :=
  ⟨.whole, negative, digits, [], false, []⟩

/-- **The digits of a number** are gathered, if the first of them begins it. -/
theorem foldl_digits {s : Mode × List Token} {negative : Bool}
    (first : ∀ k, 0 < k → k < 10 →
      step s (digitOctet k) = (.number (wholeDraft negative [k]), done))
    {n : Nat} (pos : 0 < n) :
    (Utf8.encode (digitChars n)).foldl step s =
      (.number (wholeDraft negative (Nat.digits 10 n)), done) := by
  -- on the number without its last digit
  induction n using Nat.strongRecOn with
  | ind n ih =>
    by_cases small : n < 10
    · rw [encode_digitChars_of_lt small, List.foldl_cons, List.foldl_nil, first n pos small,
        Nat.digits_of_lt 10 n (by omega) small]
    · have last : n % 10 < 10 := by omega
      rw [encode_digitChars_of_le (by omega), List.foldl_append, ih (n / 10) (by omega) (by omega),
        List.foldl_cons, List.foldl_nil, Nat.digits_def' (by decide) pos]
      simp only [step, NumberDraft.step, wholeDraft, (digitOctet_spec _ last).2]

theorem le_foldl_digits (ds : List Nat) (s : Nat) : s ≤ ds.foldl (fun n d => 10 * n + d) s := by
  induction ds generalizing s with
  | nil => exact Nat.le_refl s
  | cons d ds ih =>
    have more := ih (10 * s + d)
    rw [List.foldl_cons]
    omega

theorem takeDigits_of_lt {ds : List Nat} {s : Nat}
    (h : ds.foldl (fun n d => 10 * n + d) s < 18446744073709551616) :
    takeDigits s ds = (ds.foldl (fun n d => 10 * n + d) s, []) := by
  induction ds generalizing s with
  | nil => rfl
  | cons d ds ih =>
    rw [List.foldl_cons] at h
    have fits : 10 * s + d < 18446744073709551616 := Nat.lt_of_le_of_lt (le_foldl_digits ds _) h
    rw [takeDigits, if_pos fits, ih h, List.foldl_cons]

theorem takeDigits_digits {n : Nat} (h : n < 18446744073709551616) :
    takeDigits 0 (Nat.digits 10 n).reverse = (n, []) := by
  have value : (Nat.digits 10 n).reverse.foldl (fun n d => 10 * n + d) 0 = n := by
    have digits := Nat.ofDigits_digits 10 n
    rw [Nat.ofDigits_eq_foldr] at digits
    have same : (fun d n : Nat => 10 * n + d) = fun d n => d + 10 * n := by
      funext d n
      omega
    rw [List.foldl_reverse, same]
    exact digits
  rw [takeDigits_of_lt (by rw [value]; exact h), value]

theorem finish_wholeDraft {negative : Bool} {n : Nat} (h : n < 18446744073709551616) :
    finish (.number (wholeDraft negative (Nat.digits 10 n)), []) =
      [.number (integerLiteral negative n)] := by
  have value : (Literal.mk negative (Nat.digits 10 n).reverse [] none).value =
      integerLiteral negative n := by
    rw [Literal.value, takeDigits_digits h]
    rfl
  rw [← value]
  rfl

theorem integerLiteral_of_exact (negative : Bool) {m : Nat} {n : Int} (h : Exact n)
    (same : (if negative then -(m : Int) else m) = n) (given : negative → m ≠ 0) :
    integerLiteral negative m = some (.integer n h) := by
  subst same
  have plain : ¬ (negative = true ∧ m = 0) := fun both => given both.1 both.2
  rw [integerLiteral, if_neg plain, dif_pos h]

/-- **Integers are read from their spelling.** -/
theorem isSpelled_integer (n : Int) (h : Exact n) : (Numeral.integer n h).IsSpelled := by
  obtain ⟨low, high⟩ := id h
  rw [Numeral.IsSpelled, tokens, Numeral.chars, intChars]
  by_cases negative : n < 0
  · have minus : Utf8.encode ('-' :: digitChars n.natAbs) =
        0x2D :: Utf8.encode (digitChars n.natAbs) := rfl
    have first : ∀ k, 0 < k → k < 10 → step (step (.between, []) 0x2D) (digitOctet k) =
        (.number (wholeDraft true [k]), []) := by
      intro k _ _
      interval_cases k <;> rfl
    have value : -(n.natAbs : Int) = n := by omega
    have given : n.natAbs ≠ 0 := by omega
    rw [if_pos negative, minus, List.foldl_cons, foldl_digits first (by omega),
      finish_wholeDraft (by omega), integerLiteral_of_exact true h value fun _ => given]
  · rw [if_neg negative]
    by_cases zero : n = 0
    · subst zero
      rfl
    · have first : ∀ k, 0 < k → k < 10 → step (.between, []) (digitOctet k) =
          (.number (wholeDraft false [k]), []) := by
        intro k _ _
        interval_cases k <;> rfl
      have value : (n.natAbs : Int) = n := by omega
      have given : n.natAbs ≠ 0 := by omega
      rw [foldl_digits first (by omega), finish_wholeDraft (by omega),
        integerLiteral_of_exact false h value fun _ => given]

end integers

/-! ### Values -/

section values

theorem spells_items {items : List Json} (each : ∀ v ∈ items, Spells (chars v) (words v)) :
    Spells (itemChars items) (itemWords items) := by
  induction items with
  | nil => exact fun _ => .between
  | cons v rest ih =>
    obtain ⟨first, others⟩ := List.forall_mem_cons.mp each
    cases rest with
    | nil => exact first
    | cons w rest =>
      have comma : SpellsWhole (chars v ++ [',']) (words v ++ [.comma]) := first.close rfl .comma
      have whole := comma.append (ih others)
      rw [List.append_assoc, List.append_assoc] at whole
      exact whole

theorem spells_members {members : List (String × Json)}
    (each : ∀ m ∈ members, Spells (chars m.2) (words m.2)) :
    Spells (memberChars members) (memberWords members) := by
  have colon : SpellsWhole [':'] [.colon] := fun _ => rfl
  have named : ∀ (name : String) {v : Json}, Spells (chars v) (words v) →
      Spells (stringChars name ++ ':' :: chars v) (.string (some name) :: .colon :: words v) :=
    fun name _ value => (spells_string name).append (colon.append value)
  induction members with
  | nil => exact fun _ => .between
  | cons m rest ih =>
    obtain ⟨name, v⟩ := m
    obtain ⟨first, others⟩ := List.forall_mem_cons.mp each
    cases rest with
    | nil => exact named name first
    | cons m' rest =>
      have comma : SpellsWhole ((stringChars name ++ ':' :: chars v) ++ [','])
          ((.string (some name) :: .colon :: words v) ++ [.comma]) :=
        (named name first).close rfl .comma
      have whole := comma.append (ih others)
      simp only [List.append_assoc, List.cons_append, List.nil_append] at whole
      simpa only [memberChars, memberWords, List.append_assoc, List.cons_append] using whole

/-- **The text of a value spells its words.** -/
theorem IsTextual.spells {depth : Nat} {v : Json} (h : IsTextual depth v) :
    Spells (chars v) (words v) := by
  induction h with
  | null => exact fun _ => .between
  | @bool _ b => cases b <;> exact fun _ => .between
  | number spelled => exact spelled.spells
  | string => exact (spells_string _).spells
  | array _ each =>
    have opened : SpellsWhole ['['] [.openArray] := fun _ => rfl
    have closed := (spells_items each).close (c := ']') rfl .closeArray
    exact (opened.append_whole closed).spells
  | object _ each =>
    have opened : SpellsWhole ['\x7b'] [.openObject] := fun _ => rfl
    have closed := (spells_members each).close (c := '\x7d') rfl .closeObject
    exact (opened.append_whole closed).spells

/-- **The text of a value has the words of the value.** -/
theorem tokens_bytes {depth : Nat} {v : Json} (h : IsTextual depth v) :
    tokens (bytes v) = words v :=
  h.spells.tokens

end values

end RealmKeeper.Json
