import RealmKeeper.Proofs.OpenRecords
import Mathlib.Data.List.Perm.Basic

/-!
# Records that are written and read back

Records that keep nothing but their declared members, from what they are written as.

* `ValueTree.Writes`: a tree that denotes a value as it is written, or in canonical form;
* `ReadsAs`: what a reader makes of everything that writes a value, and this for the basic readers;
* `Member`, `Record`: the declared members of such a record, which are independent of each other;
* `Record.readsAs`: a record is read from what it is written as, member by member.
-/

namespace RealmKeeper.Json

variable {φ α σ : Type}

/-! ### Trees that write a value -/

/-- **A tree writes a value**: it denotes it, with its members in the order in which they are
written or in canonical form. -/
def ValueTree.Writes (t : ValueTree φ) (v : Json) : Prop :=
  t.Denotes v ∨ t.Denotes (Json.canonical v)

theorem canonical_array_map (values : List Json) :
    canonical (.array values) = .array (values.map canonical) := by
  have gathered : ∀ done, canonicalItems values done = done.reverse ++ values.map canonical := by
    induction values with
    | nil => simp [canonicalItems]
    | cons v rest ih =>
      intro done
      rw [canonicalItems, ih]
      simp
  rw [canonical, gathered []]
  rfl

theorem Dict.exists_of_mem_ofMembers {members : List (String × Json)} {m : String × Json}
    (h : m ∈ (Dict.ofMembers members).members) :
    ∃ v, (m.1, v) ∈ members ∧ Json.canonical v = m.2 := by
  have found : m.2 ∈ valuesOf m.1 (Dict.ofMembers members).members := mem_valuesOf.mpr h
  rw [Dict.valuesOf_members, Dict.get?_ofMembers, Option.mem_toList,
    Option.map_eq_some_iff] at found
  obtain ⟨v, last, same⟩ := found
  exact ⟨v, mem_valuesOf.mp (List.mem_of_getLast? last), same⟩

theorem Dict.mem_names_ofMembers {members : List (String × Json)} {name : String} :
    name ∈ (Dict.ofMembers members).names ↔ name ∈ members.map Prod.fst := by
  rw [← not_iff_not, ← Dict.get?_eq_none_iff, Dict.get?_ofMembers, Option.map_eq_none_iff,
    List.getLast?_eq_none_iff, valuesOf_eq_nil_iff]

theorem DenoteMembers.names {trees : List (String × ValueTree φ)} {members : List (String × Json)}
    (denote : DenoteMembers trees members) :
    trees.map Prod.fst = members.map Prod.fst ∧
      ∀ m ∈ trees, ∃ v, (m.1, v) ∈ members ∧ m.2.Denotes v := by
  induction denote with
  | nil => exact ⟨rfl, nofun⟩
  | @cons m m' trees members denotes _ ih =>
    obtain ⟨named, denotes⟩ := denotes
    obtain ⟨same, each⟩ := ih
    refine ⟨by rw [List.map_cons, List.map_cons, named, same], ?_⟩
    refine List.forall_mem_cons.mpr ⟨⟨m'.2, ?_, denotes⟩, fun u hu => ?_⟩
    · rw [named]
      exact List.mem_cons_self
    · obtain ⟨v, hv, denotes⟩ := each u hu
      exact ⟨v, List.mem_cons_of_mem _ hv, denotes⟩

section writes

variable {t : ValueTree φ} {v : Json}

theorem writes_self (v : Json) : v.Writes v :=
  .inl (denotes_self v)

theorem writes_of_canonical (h : canonical v = v) : t.Writes v ↔ t.Denotes v := by
  rw [ValueTree.Writes, h, or_self]

theorem writes_string {s : String} : t.Writes (.string s) ↔ t = .string s :=
  (writes_of_canonical rfl).trans denotes_string

theorem writes_number {n : Numeral} : t.Writes (.number n) ↔ t = .number n :=
  (writes_of_canonical rfl).trans denotes_number

theorem writes_null : t.Writes .null ↔ t = .null :=
  (writes_of_canonical rfl).trans denotes_null

theorem writes_bool {b : Bool} : t.Writes (.bool b) ↔ t = .bool b := by
  rw [writes_of_canonical rfl, denotes_iff]
  cases t <;> simp [ValueTree.isClean, ValueTree.unmarked]

theorem ValueTree.Writes.ne_null (h : t.Writes v) (given : v ≠ .null) : t ≠ .null := by
  rintro rfl
  rcases h with h | h
  · exact given (Option.some.inj h).symm
  · have nothing : canonical v = .null := (Option.some.inj h).symm
    cases v with
    | null => exact given rfl
    | unreadable f => exact nomatch f
    | _ => cases nothing

theorem ValueTree.Writes.exists_items {values : List Json} (h : t.Writes (.array values)) :
    ∃ items, t = .array items ∧ List.Forall₂ ValueTree.Writes items values := by
  rcases h with h | h
  · obtain ⟨items, rfl, denote⟩ := denotes_array.mp h
    exact ⟨items, rfl, denote.imp fun _ _ => Or.inl⟩
  · obtain ⟨items, rfl, denote⟩ := denotes_array.mp (canonical_array_map values ▸ h)
    rw [List.forall₂_map_right_iff] at denote
    exact ⟨items, rfl, denote.imp fun _ _ => Or.inr⟩

/-- **The members of an object** are those of the value in some order, if it repeats no name, and
each writes what the value has there. -/
theorem ValueTree.Writes.exists_members {members : List (String × Json)}
    (nodup : (members.map Prod.fst).Nodup) (h : t.Writes (.object members)) :
    ∃ trees, t = .object trees ∧ (trees.map Prod.fst).Perm (members.map Prod.fst) ∧
      ∀ m ∈ trees, ∃ v, (m.1, v) ∈ members ∧ m.2.Writes v := by
  rcases h with h | h
  · obtain ⟨trees, rfl, denote⟩ := denotes_object.mp h
    obtain ⟨same, each⟩ := denote.names
    refine ⟨trees, rfl, .of_eq same, fun m hm => ?_⟩
    obtain ⟨v, hv, denotes⟩ := each m hm
    exact ⟨v, hv, .inl denotes⟩
  · rw [canonical_object] at h
    obtain ⟨trees, rfl, denote⟩ := denotes_object.mp h
    obtain ⟨same, each⟩ := denote.names
    refine ⟨trees, rfl, ?_, fun m hm => ?_⟩
    · rw [same]
      refine (List.perm_ext_iff_of_nodup (Dict.nodup_names _) nodup).mpr fun name => ?_
      exact Dict.mem_names_ofMembers
    · obtain ⟨w, hw, denotes⟩ := each m hm
      obtain ⟨v, hv, same⟩ := Dict.exists_of_mem_ofMembers hw
      refine ⟨v, hv, .inr ?_⟩
      rw [same]
      exact denotes

end writes

/-! ### Readers -/

/-- **A reader makes a value** of every tree that writes a JSON value. -/
def ReadsAs (read : ValueTree φ → Decoded α) (v : Json) (a : α) : Prop :=
  ∀ t, t.Writes v → read t = .ok a

section readers

variable {read : ValueTree φ → Decoded α} {v : Json} {a : α}

theorem readsAs_string [Medium φ] (s : String) : ReadsAs (φ := φ) readString (.string s) s :=
  fun _ h => readString_eq_ok_iff.mpr (writes_string.mp h)

theorem readsAs_bool (b : Bool) : ReadsAs (φ := φ) readBool (.bool b) b := by
  intro t h
  rw [writes_bool.mp h]
  rfl

theorem readsAs_uint16 (n : UInt16) : ReadsAs (φ := φ) readUInt16 (ofUInt16 n) n := by
  intro t h
  have high := n.toNat_lt
  have bounds : 0 ≤ (n.toNat : Int) ∧ (n.toNat : Int) < 65536 := by omega
  rw [writes_number.mp h, readUInt16, readInt, if_pos bounds]
  exact congrArg Except.ok n.ofNat_toNat

theorem readsAs_json (v : Json) : ReadsAs (φ := φ) readJson v (canonical v) := by
  intro t h
  have said : ∃ w, t.Denotes w ∧ canonical w = canonical v := by
    rcases h with h | h
    · exact ⟨v, h, rfl⟩
    · exact ⟨canonical v, h, canonical_of_isCanonical _ (isCanonical_canonical v)⟩
  obtain ⟨w, denotes, same⟩ := said
  rw [readJson, Layout.readWritten_eq_ok_iff.mpr denotes, ← same]
  rfl

theorem ReadsAs.option (reads : ReadsAs read v a) (given : v ≠ .null) :
    ReadsAs (readOption read) v (some a) := by
  intro t h
  rw [readOption_of_ne_null (h.ne_null given), reads t h]
  rfl

theorem readsAs_option_null (read : ValueTree φ → Decoded α) :
    ReadsAs (readOption read) .null none := by
  intro t h
  rw [writes_null.mp h]
  rfl

theorem readsAs_list {values : List Json} {as : List α}
    (reads : List.Forall₂ (ReadsAs read) values as) :
    ReadsAs (readList read) (.array values) as := by
  intro t h
  obtain ⟨items, rfl, write⟩ := h.exists_items
  refine readList_eq_ok_iff.mpr ⟨items, rfl, ?_⟩
  clear h
  induction reads generalizing items with
  | nil =>
    cases write
    exact .nil
  | cons first _ ih =>
    cases write with
    | cons writes write => exact .cons (first _ writes) (ih _ write)

end readers

/-! ### Declared members -/

/-- **A declared member** of a record: how its values are read and written, and their place. -/
structure Member (σ : Type) where
  name : String
  required : Bool
  Value : Type
  read : {φ : Type} → [Medium φ] → ValueTree φ → Decoded Value
  /-- A value as it is written; `none` where the member is left out. -/
  write : Value → Option Json
  get : σ → Value
  put : Value → σ → σ

namespace Member

variable (p : Member σ)

/-- The member as a field of a record. -/
def field (φ : Type) [Medium φ] : Field φ σ :=
  .of p.name p.required p.read p.put

/-- The value that is written of a record for the member; `none` where it is left out. -/
def written (r : σ) : Option Json :=
  p.write (p.get r)

/-- Writing to one of the members is not seen in the place of the other. -/
@[mk_iff]
structure Independent (p q : Member σ) : Prop where
  left : ∀ v r, p.get (q.put v r) = p.get r
  right : ∀ v r, q.get (p.put v r) = q.get r

instance : Std.Symm (Independent (σ := σ)) := ⟨fun _ _ h => ⟨h.right, h.left⟩⟩

/-- **What one record has in the place of the member is read as what another has there**: from its
written value, or, where the member is left out, from a record without anything. -/
structure ReadsAs (φ : Type) [Medium φ] (blank r r' : σ) : Prop where
  given : ∀ v, p.written r = some v → Json.ReadsAs (φ := φ) p.read v (p.get r')
  absent : p.written r = none → p.required = false ∧ p.get r' = p.get blank

/-! #### Kinds of members -/

/-- A member that is always written. -/
def always {α : Type} (name : String) (required : Bool)
    (read : {φ : Type} → [Medium φ] → ValueTree φ → Decoded α) (write : α → Json) (get : σ → α)
    (put : α → σ → σ) : Member σ :=
  ⟨name, required, α, read, fun a => some (write a), get, put⟩

/-- A member that is left out where there is no value. -/
def optional {α : Type} (name : String)
    (read : {φ : Type} → [Medium φ] → ValueTree φ → Decoded α) (write : α → Json)
    (get : σ → Option α) (put : Option α → σ → σ) : Member σ :=
  ⟨name, false, Option α, readOption read, Option.map write, get, put⟩

/-- A text that is left out where there is none. -/
def text? (name : String) (get : σ → Option String) (put : Option String → σ → σ) : Member σ :=
  .optional name readString .string get put

/-- A list of texts that is left out where it is empty. -/
def texts (name : String) (get : σ → List String) (put : List String → σ → σ) : Member σ :=
  ⟨name, false, List String, readList readString,
    fun texts => if texts.isEmpty then none else some (.array (texts.map .string)), get, put⟩

section kinds

variable {φ α : Type} [Medium φ] {name : String} {required : Bool}
  {read : {φ : Type} → [Medium φ] → ValueTree φ → Decoded α} {write : α → Json} {blank r r' : σ}

theorem readsAs_always {get : σ → α} {put : α → σ → σ}
    (reads : Json.ReadsAs (φ := φ) read (write (get r)) (get r')) :
    (always name required read write get put).ReadsAs φ blank r r' := by
  refine ⟨fun v hv => ?_, nofun⟩
  obtain rfl := Option.some.inj hv
  exact reads

theorem readsAs_optional {get : σ → Option α} {put : Option α → σ → σ}
    (reads : ∀ a, get r = some a → Json.ReadsAs (φ := φ) (readOption read) (write a) (get r'))
    (absent : get r = none → get r' = get blank) :
    (optional name read write get put).ReadsAs φ blank r r' := by
  refine ⟨fun v hv => ?_, fun none => ⟨rfl, absent (Option.map_eq_none_iff.mp none)⟩⟩
  obtain ⟨a, ha, rfl⟩ := Option.map_eq_some_iff.mp hv
  exact reads a ha

theorem readsAs_optional_same {get : σ → Option α} {put : Option α → σ → σ}
    (reads : ∀ a ∈ get r, write a ≠ .null ∧ Json.ReadsAs (φ := φ) read (write a) a)
    (same : get r' = get r) (nothing : get blank = none) :
    (optional name read write get put).ReadsAs φ blank r r' := by
  refine readsAs_optional (fun a ha => ?_) fun none => ?_
  · obtain ⟨given, reads⟩ := reads a ha
    rw [same, ha]
    exact reads.option given
  · rw [same, none, nothing]

theorem readsAs_text? {get : σ → Option String} {put : Option String → σ → σ}
    (same : get r' = get r) (nothing : get blank = none) :
    (text? name get put).ReadsAs φ blank r r' := by
  refine readsAs_optional_same (fun s _ => ⟨?_, readsAs_string s⟩) same nothing
  simp

theorem readsAs_texts {get : σ → List String} {put : List String → σ → σ}
    (same : get r' = get r) (nothing : get blank = []) :
    (texts name get put).ReadsAs φ blank r r' := by
  have each : ∀ values : List String,
      List.Forall₂ (Json.ReadsAs (φ := φ) readString) (values.map .string) values := by
    intro values
    rw [List.forall₂_map_left_iff, List.forall₂_same]
    exact fun s _ => readsAs_string s
  refine ⟨fun v hv => ?_, fun none => ⟨rfl, ?_⟩⟩
  · obtain ⟨-, hv⟩ := Option.ite_none_left_eq_some.mp hv
    obtain rfl := Option.some.inj hv
    have back : Json.ReadsAs (φ := φ) (readList readString) (.array ((get r).map .string))
        (get r') := by
      rw [same]
      exact readsAs_list (each _)
    exact back
  · have empty : (get r).isEmpty = true := by
      by_contra filled
      exact Option.some_ne_none _ ((if_neg filled).symm.trans none)
    exact (same.trans (List.isEmpty_iff.mp empty)).trans nothing.symm

end kinds

end Member

/-- **A record that keeps nothing but its declared members.** -/
structure Record (σ : Type) where
  title : String
  declared : List (Member σ)
  /-- The record before anything is read. -/
  blank : σ
  names_nodup : (declared.map Member.name).Nodup
  get_put : ∀ p ∈ declared, ∀ v r, p.get (p.put v r) = v
  independent : declared.Pairwise Member.Independent
  ext : ∀ r r', (∀ p ∈ declared, p.get r = p.get r') → r = r'

namespace Record

variable (R : Record σ)

/-- The declared members as the shape of a record. -/
def shape (φ : Type) [Medium φ] : Shape φ σ where
  name := R.title
  fields := R.declared.map fun p => p.field φ

/-- Reads a record. -/
def read {φ : Type} [Medium φ] : ValueTree φ → Decoded σ :=
  (R.shape φ).read R.blank

/-- The members of a record that are written, in order. -/
def written (r : σ) : List (String × Json) :=
  R.declared.flatMap fun p => member? p.name (p.written r)

variable {R} {p q : Member σ} {r : σ}

theorem eq_of_name_eq (hp : p ∈ R.declared) (hq : q ∈ R.declared) (h : p.name = q.name) : p = q :=
  List.inj_on_of_nodup_map R.names_nodup hp hq h

theorem get_put_eq (hp : p ∈ R.declared) (hq : q ∈ R.declared) {r r' : σ} :
    q.get (p.put (p.get r') r) = if q.name = p.name then q.get r' else q.get r := by
  by_cases same : q.name = p.name
  · obtain rfl := eq_of_name_eq hq hp same
    rw [if_pos rfl]
    exact R.get_put q hq _ r
  · have apart : q ≠ p := fun he => same (congrArg Member.name he)
    rw [if_neg same]
    exact (R.independent.forall hq hp apart).left _ r

theorem find?_eq [Medium φ] (hp : p ∈ R.declared) :
    (R.shape φ).fields.find? (fun f => f.name = p.name) = some (p.field φ) := by
  cases hf : (R.shape φ).fields.find? fun f => f.name = p.name with
  | none =>
    have absent := List.find?_eq_none.mp hf (p.field φ) (List.mem_map_of_mem hp)
    exact absurd (decide_eq_true rfl) absent
  | some field =>
    obtain ⟨q, hq, rfl⟩ := List.mem_map.mp (List.mem_of_find?_eq_some hf)
    have named := List.find?_some hf
    rw [eq_of_name_eq hq hp (of_decide_eq_true named)]

/-! ### What is written -/

theorem mem_written {name : String} {v : Json} :
    (name, v) ∈ R.written r ↔ ∃ p ∈ R.declared, p.name = name ∧ p.written r = some v := by
  rw [written, List.mem_flatMap]
  refine exists_congr fun p => and_congr_right fun _ => ?_
  cases p.written r with
  | none => simp [member?]
  | some w => simp [member?, eq_comm]

theorem written_eq_none (hp : p ∈ R.declared) (h : p.name ∉ (R.written r).map Prod.fst) :
    p.written r = none := by
  refine Option.eq_none_iff_forall_ne_some.mpr fun v hv => h ?_
  exact List.mem_map.mpr ⟨(p.name, v), mem_written.mpr ⟨p, hp, rfl, hv⟩, rfl⟩

theorem nodup_written : ((R.written r).map Prod.fst).Nodup := by
  have names : ∀ declared : List (Member σ),
      ((declared.flatMap fun p => member? p.name (p.written r)).map Prod.fst).Sublist
        (declared.map Member.name) := by
    intro declared
    induction declared with
    | nil => exact .slnil
    | cons p declared ih =>
      rw [List.flatMap_cons, List.map_append, List.map_cons]
      cases p.written r with
      | none => exact ih.cons p.name
      | some v => exact ih.cons_cons p.name
  exact (names R.declared).nodup R.names_nodup

/-! ### Reading -/

variable [Medium φ] {trees : List (String × ValueTree φ)}

/-- **Reading members of which each is declared**, and none is given twice: their places have what
was read, the others stay as they are. -/
theorem readMembers_of_declared {seen : List String} {r : σ} (start : σ)
    (each : ∀ m ∈ trees, ∃ p ∈ R.declared, p.name = m.1 ∧ p.read m.2 = .ok (p.get r))
    (nodup : (trees.map Prod.fst).Nodup) (fresh : ∀ m ∈ trees, m.1 ∉ seen) :
    ∃ seen' finish, (R.shape φ).readMembers Shape.ignore trees seen start = .ok (seen', finish) ∧
      (∀ name, name ∈ seen' ↔ name ∈ seen ∨ name ∈ trees.map Prod.fst) ∧
      ∀ q ∈ R.declared,
        q.get finish = if q.name ∈ trees.map Prod.fst then q.get r else q.get start := by
  -- on the members, for any names that were seen before and any record that is filled so far
  induction trees generalizing seen start with
  | nil => exact ⟨seen, start, rfl, by simp, fun q _ => rfl⟩
  | cons m trees ih =>
    obtain ⟨name, t⟩ := m
    obtain ⟨⟨p, hp, rfl, reads⟩, others⟩ := List.forall_mem_cons.mp each
    obtain ⟨once, nodup⟩ := List.nodup_cons.mp nodup
    obtain ⟨unseen, fresh⟩ := List.forall_mem_cons.mp fresh
    have later : ∀ m ∈ trees, m.1 ∉ p.name :: seen := by
      intro m hm again
      rcases List.mem_cons.mp again with same | again
      · exact once (List.mem_map.mpr ⟨m, hm, same⟩)
      · exact fresh m hm again
    obtain ⟨seen', finish, done, names, places⟩ := ih (p.put (p.get r) start) others nodup later
    refine ⟨seen', finish, ?_, fun name => ?_, fun q hq => ?_⟩
    · rw [Shape.readMembers, find?_eq hp]
      simp only [if_neg unseen, Member.field, Field.of, reads, Except.map, within]
      exact done
    · rw [names, List.map_cons, List.mem_cons, List.mem_cons]
      tauto
    · rw [places q hq, get_put_eq hp hq, List.map_cons]
      by_cases same : q.name = p.name
      · rw [if_pos same, if_pos (List.mem_cons.mpr (.inl same)), ite_self]
      · rw [if_neg same]
        simp only [List.mem_cons, same, false_or]

/-- **A record is read from what it is written as**, member by member. -/
theorem readsAs {r' : σ} (each : ∀ p ∈ R.declared, p.ReadsAs φ R.blank r r') :
    ReadsAs (φ := φ) R.read (.object (R.written r)) r' := by
  intro t h
  obtain ⟨trees, rfl, names, write⟩ := h.exists_members nodup_written
  have reads : ∀ m ∈ trees, ∃ p ∈ R.declared, p.name = m.1 ∧ p.read m.2 = .ok (p.get r') := by
    intro m hm
    obtain ⟨v, hv, writes⟩ := write m hm
    obtain ⟨p, hp, named, written⟩ := mem_written.mp hv
    exact ⟨p, hp, named, (each p hp).given v written _ writes⟩
  have absent : ∀ p ∈ R.declared, p.name ∉ trees.map Prod.fst →
      p.required = false ∧ p.get r' = p.get R.blank := fun p hp unnamed =>
    (each p hp).absent (written_eq_none hp fun mem => unnamed (names.mem_iff.mpr mem))
  have once : (trees.map Prod.fst).Nodup := names.nodup_iff.mpr nodup_written
  have fresh : ∀ m ∈ trees, m.1 ∉ ([] : List String) := fun _ _ => List.not_mem_nil
  obtain ⟨seen, finish, done, seen_iff, places⟩ := readMembers_of_declared R.blank reads once fresh
  have whole : (R.shape φ).missing? seen = none := by
    rw [Shape.missing?, Option.map_eq_none_iff, List.find?_eq_none]
    intro field hf
    obtain ⟨p, hp, rfl⟩ := List.mem_map.mp hf
    by_cases named : p.name ∈ trees.map Prod.fst
    · have found : p.name ∈ seen := (seen_iff _).mpr (.inr named)
      simp [Member.field, Field.of, found]
    · simp [Member.field, Field.of, (absent p hp named).1]
  -- records are the same when every place has the same, written or left out
  have same : finish = r' := by
    refine R.ext finish r' fun p hp => ?_
    rw [places p hp]
    by_cases named : p.name ∈ trees.map Prod.fst
    · exact if_pos named
    · rw [if_neg named]
      exact (absent p hp named).2.symm
  rw [read, Shape.read, Shape.ofMembers, done]
  simp only [whole, same]

end Record

end RealmKeeper.Json

/-! ### Names -/

namespace RealmKeeper.Client

open RealmKeeper.Json

variable {κ : Type} [Named κ]

theorem Named.lookup_eq_find? (name : String) :
    lookup name ((Named.all (κ := κ)).map fun k => (Named.name k, k)) = Named.find? κ name := by
  unfold Named.find?
  induction Named.all (κ := κ) with
  | nil => rfl
  | cons k rest ih =>
    rw [List.map_cons, lookup, List.find?_cons, ih]
    by_cases same : Named.name k = name
    · simp [same]
    · simp [same, Ne.symm same]

theorem Named.readsAs {φ : Type} [Medium φ] (k : κ) :
    ReadsAs (φ := φ) Named.read (.string (Named.name k)) k := by
  intro t h
  have found := (Named.lookup_eq_find? (Named.name k)).trans (Named.find?_name k)
  rw [writes_string.mp h]
  simp only [Named.read, readVariant, variantOf, found]

end RealmKeeper.Client
