import RealmKeeper.Proofs.BodyReadings
import RealmKeeper.Proofs.LossyReading

/-!
# The text that is kept of a body

For diagnostics a text is kept of a body. It is read from as many octets as the limit says, and what
is ill formed in them is replaced, so that the text can be longer than the limit.

* `extend_take`, `gather_take`: one chunk after the other, the octets gathered are the first of
  those that have arrived, and `excerpt_eq`: the text is read from them;
* `FitsLimit`: the parts of these octets are not wider than the limit;
* `Keeps`: how long the text of a body can be, and `keeps_excerpt`: it is so for every body;
* `excerpt_of_octets`: the text does not depend on the pieces in which a body arrives.
-/

namespace RealmKeeper.Http.Delivery

open RealmKeeper.Text

variable {d d' : Delivery}

/-! ### The octets that are gathered -/

/-- The octets that arrive in some events. -/
def octetsIn (events : List Event) : List UInt8 :=
  events.flatMap fun
    | .chunk bs => bs
    | .cancellation => []

theorem octetsIn_chunk (bs : List UInt8) (rest : List Event) :
    octetsIn (.chunk bs :: rest) = bs ++ octetsIn rest :=
  List.flatMap_cons

/-- **One chunk** behind the first octets of what has arrived: they are the first ones still. -/
theorem extend_take (limit : Nat) (arrived chunk : List UInt8) :
    extend limit (arrived.take limit) chunk = (arrived ++ chunk).take limit := by
  have room : min chunk.length (limit - (arrived.take limit).length) =
      min (limit - arrived.length) chunk.length := by
    rw [List.length_take]
    omega
  rw [extend, room, ← List.take_take, List.take_length, List.take_append]

/-- **All chunks** behind the first octets of what has arrived: it does not matter in which pieces
the others come. -/
theorem gather_take (limit : Nat) (arrived : List UInt8) (events : List Event) :
    gather limit (arrived.take limit) events = (arrived ++ octetsIn events).take limit := by
  induction events generalizing arrived with
  | nil => rw [gather, octetsIn, List.flatMap_nil, List.append_nil]
  | cons event rest ih =>
    by_cases below : (arrived.take limit).length < limit
    · cases event with
      | cancellation =>
        rw [gather, if_pos below]
        exact ih arrived
      | chunk bs =>
        rw [gather, if_pos below, extend_take, ih, octetsIn_chunk, List.append_assoc]
    · -- the loop ends, and what follows lies beyond the limit
      have enough : limit ≤ arrived.length := by
        rw [List.length_take] at below
        omega
      rw [gather_full (Nat.not_lt.mp below), List.take_append_of_le_length enough]

theorem gather_eq_take (limit : Nat) (events : List Event) :
    gather limit [] events = (octetsIn events).take limit := by
  have begins := gather_take limit [] events
  rwa [List.take_nil, List.nil_append] at begins

/-- **The text is read from the first octets** of a body. -/
theorem excerpt_eq (d : Delivery) :
    d.excerpt = Utf8.stringLossy (d.octets.take excerptLimit) := by
  rw [excerpt, gather_eq_take]
  rfl

theorem excerpt_congr_take (h : d.octets.take excerptLimit = d'.octets.take excerptLimit) :
    d.excerpt = d'.excerpt := by
  rw [excerpt_eq, excerpt_eq, h]

theorem excerpt_congr (h : d.octets = d'.octets) : d.excerpt = d'.excerpt := by
  rw [excerpt_eq, excerpt_eq, h]

/-! ### How long the text is -/

/-- **The parts of the octets that are kept are not wider than the limit**: characters count as
their octets, and each ill-formed part as the three octets of the replacement character. -/
def FitsLimit (d : Delivery) : Prop :=
  ∃ parts, Utf8.Reads (d.octets.take excerptLimit) parts ∧ Utf8.width parts ≤ excerptLimit

/-- **What is kept of a body**: the text of the parts of its first octets. It has at most three
times as many octets as the limit says, and no more than the limit exactly when the parts fit. -/
structure Keeps (d : Delivery) (text : String) : Prop where
  reads : ∃ parts, Utf8.Reads (d.octets.take excerptLimit) parts ∧
    text = String.ofList (parts.map Utf8.Part.text)
  bounded : text.utf8ByteSize ≤ 3 * excerptLimit
  fits_iff : text.utf8ByteSize ≤ excerptLimit ↔ d.FitsLimit

theorem utf8ByteSize_excerpt {parts : List Utf8.Part}
    (h : Utf8.Reads (d.octets.take excerptLimit) parts) :
    d.excerpt.utf8ByteSize = Utf8.width parts := by
  rw [excerpt_eq, h.utf8ByteSize_stringLossy]

theorem keeps_excerpt (d : Delivery) : d.Keeps d.excerpt := by
  obtain ⟨parts, reads⟩ := Utf8.exists_reads (d.octets.take excerptLimit)
  have size := utf8ByteSize_excerpt reads
  refine ⟨⟨parts, reads, ?_⟩, ?_, fun fits => ⟨parts, reads, size ▸ fits⟩, ?_⟩
  · rw [excerpt_eq, Utf8.stringLossy, reads.decodeLossy_eq]
  · calc d.excerpt.utf8ByteSize = Utf8.width parts := size
      _ ≤ 3 * (d.octets.take excerptLimit).length := reads.width_le
      _ ≤ 3 * excerptLimit := Nat.mul_le_mul_left 3 (List.length_take_le _ _)
  · rintro ⟨parts', reads', fits⟩
    rwa [utf8ByteSize_excerpt reads']

/-- **A text whose octets are cut off inside a character** keeps what is before the character, and
the replacement character for the rest of it. -/
theorem utf8ByteSize_excerpt_of_cut {cs : List Char} {c : Char} {bs : List UInt8}
    (h : d.octets.take excerptLimit = Utf8.encode cs ++ bs) (begins : bs <+: Utf8.encodeNat c.toNat)
    (nonempty : bs ≠ []) (proper : bs ≠ Utf8.encodeNat c.toNat) :
    d.excerpt.utf8ByteSize = (Utf8.encode cs).length + 3 := by
  have reads := Utf8.reads_of_cut cs begins nonempty proper
  rw [← h] at reads
  rw [utf8ByteSize_excerpt reads, Utf8.width_characters_append]
  rfl

/-! ### Whatever the pieces -/

theorem gather_octets (d : Delivery) :
    gather excerptLimit [] d.events = d.octets.take (min excerptLimit d.octets.length) := by
  rw [← List.take_take, List.take_length, gather_eq_take]
  rfl

theorem excerpt_eq_parts {parts : List Utf8.Part}
    (h : Utf8.Reads (d.octets.take (min excerptLimit d.octets.length)) parts) :
    d.excerpt = String.ofList (parts.map Utf8.Part.text) := by
  rw [excerpt, gather_octets, Utf8.stringLossy, h.decodeLossy_eq]

/-- **The text depends on the first octets alone.** However a body comes, in chunks of whatever
size, to its end or to the place where it breaks off: what is gathered of it are its first octets,
up to the limit, and the text is that of their characters, with a replacement for each ill-formed
part. The same octets in other pieces, broken off or not, have the same text; and so have all bodies
that go on behind the limit. -/
theorem excerpt_of_octets (d : Delivery) :
    let first := d.octets.take (min excerptLimit d.octets.length)
    gather excerptLimit [] d.events = first ∧
    (∃ parts, Utf8.Reads first parts) ∧
    (∀ parts, Utf8.Reads first parts →
      d.excerpt = String.ofList (parts.map Utf8.Part.text)) ∧
    (∀ other : Delivery, other.octets = d.octets → other.excerpt = d.excerpt) ∧
    ∀ longer : Delivery, d.octets <+: longer.octets → excerptLimit ≤ d.octets.length →
      longer.excerpt = d.excerpt := by
  refine ⟨gather_octets d, Utf8.exists_reads _, fun parts => excerpt_eq_parts,
    fun other => excerpt_congr, fun longer begins enough => ?_⟩
  obtain ⟨more, octets⟩ := begins
  refine excerpt_congr_take ?_
  rw [← octets, List.take_append_of_le_length enough]

/-- A character that comes in two pieces, with an empty one between them; and a body that goes on
behind the limit and breaks off there. -/
theorem excerpt_of_octets_split :
    (∃ parts, Utf8.Reads [0xC3, 0xA9] parts ∧
      excerpt ⟨[.chunk [0xC3], .chunk [], .chunk [0xA9]], true⟩ =
        String.ofList (parts.map Utf8.Part.text)) ∧
    excerpt ⟨[.chunk [0xC3], .chunk [], .chunk [0xA9]], true⟩ =
      excerpt ⟨[.chunk [0xC3, 0xA9]], false⟩ ∧
    excerpt ⟨[.chunk (List.replicate 4000 0x61), .chunk (List.replicate 97 0x61)], false⟩ =
      excerpt ⟨[.chunk (List.replicate 4096 0x61)], true⟩ := by
  obtain ⟨-, ⟨parts, reads⟩, text, same, -⟩ :=
    excerpt_of_octets ⟨[.chunk [0xC3], .chunk [], .chunk [0xA9]], true⟩
  obtain ⟨-, -, -, -, longer⟩ := excerpt_of_octets ⟨[.chunk (List.replicate 4096 0x61)], true⟩
  refine ⟨⟨parts, reads, text parts reads⟩, (same ⟨[.chunk [0xC3, 0xA9]], false⟩ rfl).symm,
    longer _ ?_ ?_⟩
  · refine ⟨[0x61], ?_⟩
    simp only [octets, List.flatMap_cons, List.flatMap_nil, List.append_nil]
    rw [← List.replicate_one, List.replicate_append_replicate, List.replicate_append_replicate]
  · simp only [octets, List.flatMap_cons, List.flatMap_nil, List.append_nil]
    rw [List.length_replicate]
    exact le_rfl

end RealmKeeper.Http.Delivery
