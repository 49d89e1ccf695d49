/-!
# UTF-8

Writing characters as octets and reading octets as characters.

* `encode`: the octets of a text;
* `decode`: the text of octets that are well formed, `none` otherwise;
* `decodeLossy`: every octet sequence has a text, in which each maximal ill-formed part stands as
  one U+FFFD.

Reading follows one automaton: between characters a lead octet says how many octets are still owed
and between which bounds the next one lies.
-/

namespace RealmKeeper.Text.Utf8

/-- The octets of one code point. -/
def encodeNat (n : Nat) : List UInt8 :=
  if n < 0x80 then [n.toUInt8]
  else if n < 0x800 then [(0xC0 + n / 0x40).toUInt8, (0x80 + n % 0x40).toUInt8]
  else if n < 0x10000 then
    [(0xE0 + n / 0x1000).toUInt8, (0x80 + n / 0x40 % 0x40).toUInt8, (0x80 + n % 0x40).toUInt8]
  else
    [(0xF0 + n / 0x40000).toUInt8, (0x80 + n / 0x1000 % 0x40).toUInt8,
      (0x80 + n / 0x40 % 0x40).toUInt8, (0x80 + n % 0x40).toUInt8]

/-- **The octets of a text.** -/
def encode (cs : List Char) : List UInt8 :=
  cs.flatMap fun c => encodeNat c.toNat

/-- The octets of a string. -/
def bytes (s : String) : List UInt8 :=
  encode s.toList

/-! ### Reading -/

/-- What a character that has begun still needs: `owed` octets, the next of which lies between
`low` and `high`; `value` is what the octets so far contribute. -/
structure Pending where
  value : Nat
  owed : Nat
  low : Nat
  high : Nat
deriving DecidableEq, Repr

/-- What a lead octet begins; `none` for an octet that begins nothing. -/
def lead (b : Nat) : Option Pending :=
  if b < 0x80 then some ⟨b, 0, 0x80, 0xBF⟩
  else if b < 0xC2 then none
  else if b < 0xE0 then some ⟨b - 0xC0, 1, 0x80, 0xBF⟩
  else if b = 0xE0 then some ⟨0, 2, 0xA0, 0xBF⟩
  else if b = 0xED then some ⟨0xD, 2, 0x80, 0x9F⟩
  else if b < 0xF0 then some ⟨b - 0xE0, 2, 0x80, 0xBF⟩
  else if b = 0xF0 then some ⟨0, 3, 0x90, 0xBF⟩
  else if b < 0xF4 then some ⟨b - 0xF0, 3, 0x80, 0xBF⟩
  else if b = 0xF4 then some ⟨4, 3, 0x80, 0x8F⟩
  else none

/-- One continuation octet, if it is within the bounds. -/
def Pending.continueWith (p : Pending) (b : Nat) : Option Pending :=
  if p.low ≤ b ∧ b ≤ p.high then some ⟨p.value * 0x40 + (b - 0x80), p.owed - 1, 0x80, 0xBF⟩
  else none

/-- The replacement character U+FFFD. -/
def replacement : Char :=
  '\uFFFD'

/-- Reads octets, one at a time, with the characters so far in reverse. `onFault` says what an
ill-formed part does to them: give up, or stand as a character. -/
def readWith (onFault : List Char → Option (List Char)) :
    List UInt8 → Option Pending → List Char → Option (List Char)
  | [], none, done => some done.reverse
  | [], some _, done => (onFault done).map List.reverse
  | b :: rest, none, done =>
    match lead b.toNat with
    | none =>
      match onFault done with
      | none => none
      | some done => readWith onFault rest none done
    | some p =>
      if p.owed = 0 then readWith onFault rest none (Char.ofNat p.value :: done)
      else readWith onFault rest (some p) done
  | b :: rest, some p, done =>
    match p.continueWith b.toNat with
    | some p =>
      if p.owed = 0 then readWith onFault rest none (Char.ofNat p.value :: done)
      else readWith onFault rest (some p) done
    | none =>
      match onFault done with
      | none => none
      | some done =>
        match lead b.toNat with
        | none =>
          match onFault done with
          | none => none
          | some done => readWith onFault rest none done
        | some p =>
          if p.owed = 0 then readWith onFault rest none (Char.ofNat p.value :: done)
          else readWith onFault rest (some p) done

/-- **The text of well-formed octets.** -/
def decode (bs : List UInt8) : Option (List Char) :=
  readWith (fun _ => none) bs none []

/-- **The text of any octets**: each maximal ill-formed part reads as one replacement
character. -/
def decodeLossy (bs : List UInt8) : List Char :=
  (readWith (fun done => some (replacement :: done)) bs none []).getD []

/-- The string of well-formed octets. -/
def string? (bs : List UInt8) : Option String :=
  (decode bs).map String.ofList

/-- The string of any octets. -/
def stringLossy (bs : List UInt8) : String :=
  String.ofList (decodeLossy bs)

theorem encode_nil : encode [] = [] := rfl

theorem encode_cons (c : Char) (cs : List Char) :
    encode (c :: cs) = encodeNat c.toNat ++ encode cs := rfl

theorem encode_append (cs ds : List Char) : encode (cs ++ ds) = encode cs ++ encode ds := by
  simp [encode]

end RealmKeeper.Text.Utf8
