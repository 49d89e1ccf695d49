import RealmKeeper.Proofs.Members
import RealmKeeper.Proofs.OptionalParts
import Mathlib.Data.List.Nodup

/-!
# Closed records

Records of which every field may lack, read from an object by the names of the fields or from an
array by their order. Nothing else that the document says is kept.

* `HasParts`: what a document says under each of some names;
* `Shape.exists_read_iff`: a document is read as a record exactly when it has parts and each of them
  is read by its field;
* `Shape.read_place`: the place of a field holds what was read of its part, or stays blank.
-/

namespace RealmKeeper.Json

variable {φ σ α : Type}

/-- **The parts of a document** under some names: what an object says under each of them, which it
does once at most, or what an array of no more items has in their places. -/
inductive HasParts (names : List String) : Json → (String → Option Json) → Prop
  | named {members : List (String × Json)} {parts : String → Option Json}
      (said : ∀ name ∈ names, valuesOf name members = (parts name).toList) :
      HasParts names (.object members) parts
  | placed {items : List Json} {parts : String → Option Json} (few : items.length ≤ names.length)
      (put : ∀ (i : Nat) (name : String), names[i]? = some name → parts name = items[i]?) :
      HasParts names (.array items) parts

theorem hasParts_dict (d : Dict) (names : List String) : HasParts names d.toJson d.get? :=
  .named fun name _ => d.valuesOf_members name

/-! ### What is passed over -/

mutual

theorem isPassable_json : (v : Json) → v.isPassable = true
  | .null | .bool _ | .number _ | .string _ => rfl
  | .array items => arePassableItems_json items
  | .object members => arePassableMembers_json members

theorem arePassableItems_json : (items : List Json) → ValueTree.arePassableItems items = true
  | [] => rfl
  | v :: rest => by
    rw [ValueTree.arePassableItems, isPassable_json v, arePassableItems_json rest]
    rfl

theorem arePassableMembers_json : (members : List (String × Json)) →
    ValueTree.arePassableMembers members = true
  | [] => rfl
  | (_, v) :: rest => by
    rw [ValueTree.arePassableMembers, isPassable_json v, arePassableMembers_json rest]
    rfl

end

theorem skip_json (v : Json) : skip v = .ok () := by
  have h := isPassable_json v
  unfold skip
  cases v with
  | unreadable f => exact nomatch f
  | _ => exact if_pos h

/-! ### Fields -/

/-- **The field takes a part**, if there is one. -/
def Field.Takes (field : Field Empty σ) (part : Option Json) : Prop :=
  ∀ v ∈ part, ∃ put, field.read v = .ok put

/-- **Members fit a field**: they have one value for it at most, none if it was seen before, and the
field takes it. -/
def Field.Fits (field : Field Empty σ) (members : List (String × Json)) (seen : List String) :
    Prop :=
  ∃ part : Option Json, valuesOf field.name members = part.toList ∧
    (field.name ∈ seen → part = none) ∧ field.Takes part

section fits

variable {field : Field Empty σ} {members : List (String × Json)} {seen : List String} {v : Json}
  {name : String}

theorem Field.takes_none : field.Takes none :=
  fun _ h => nomatch h

theorem Field.fits_nil : field.Fits [] seen :=
  ⟨none, rfl, fun _ => rfl, Field.takes_none⟩

theorem Field.fits_cons_of_ne (h : name ≠ field.name) :
    field.Fits ((name, v) :: members) seen ↔ field.Fits members seen := by
  rw [Field.Fits, valuesOf_cons_of_ne h, Field.Fits]

theorem Field.fits_seen_of_ne (h : name ≠ field.name) :
    field.Fits members (name :: seen) ↔ field.Fits members seen := by
  simp [Field.Fits, Ne.symm h]

theorem Field.fits_cons_self :
    field.Fits ((field.name, v) :: members) seen ↔
      field.name ∉ seen ∧ (∃ put, field.read v = .ok put) ∧
        field.Fits members (field.name :: seen) := by
  constructor
  · rintro ⟨part, said, unseen, takes⟩
    rw [valuesOf_cons_self] at said
    cases part with
    | none => cases said
    | some u =>
      obtain ⟨rfl, no_more⟩ := List.cons.inj said
      exact ⟨fun old => (nomatch unseen old), takes v rfl, none, no_more, fun _ => rfl,
        Field.takes_none⟩
  · rintro ⟨fresh, reads, part, said, unseen, -⟩
    obtain rfl := unseen List.mem_cons_self
    refine ⟨some v, ?_, fun old => absurd old fresh, ?_⟩
    · rw [valuesOf_cons_self, said]
      rfl
    · rintro _ ⟨⟩
      exact reads

end fits

namespace Shape

variable {shape : Shape Empty σ} {field : Field Empty σ}

/-! ### Members -/

section members

variable {members : List (String × Json)}
  {seen : List String} {start : σ} {name : String} {v : Json} {result : List String × σ}

theorem eq_of_name_eq (nodup : (shape.fields.map Field.name).Nodup) {other : Field Empty σ}
    (h : field ∈ shape.fields) (ho : other ∈ shape.fields) (he : field.name = other.name) :
    field = other :=
  List.inj_on_of_nodup_map nodup h ho he

theorem find?_name (nodup : (shape.fields.map Field.name).Nodup) (h : field ∈ shape.fields) :
    shape.fields.find? (fun f => f.name = field.name) = some field := by
  cases hf : shape.fields.find? fun f => f.name = field.name with
  | none => exact absurd (decide_eq_true rfl) (List.find?_eq_none.mp hf field h)
  | some other =>
    have named := List.find?_some hf
    rw [eq_of_name_eq nodup (List.mem_of_find?_eq_some hf) h (of_decide_eq_true named)]

theorem readMembers_cons_field (nodup : (shape.fields.map Field.name).Nodup)
    (h : field ∈ shape.fields) :
    shape.readMembers ignore ((field.name, v) :: members) seen start = .ok result ↔
      field.name ∉ seen ∧ ∃ put, field.read v = .ok put ∧
        shape.readMembers ignore members (field.name :: seen) (put start) = .ok result := by
  rw [readMembers, find?_name nodup h]
  by_cases old : field.name ∈ seen
  · simp [old, refuse]
  · cases reads : field.read v <;> simp [old, reads, within]

theorem readMembers_cons_other (h : ∀ field ∈ shape.fields, field.name ≠ name) :
    shape.readMembers ignore ((name, v) :: members) seen start =
      shape.readMembers ignore members seen start := by
  have unknown : shape.fields.find? (fun f => f.name = name) = none :=
    List.find?_eq_none.mpr fun field hm => by simpa using h field hm
  rw [readMembers, unknown]
  simp [ignore, skip_json, Except.map, within]

/-- **Members are read** exactly when they fit the fields. -/
theorem exists_readMembers_iff (nodup : (shape.fields.map Field.name).Nodup) :
    (∃ result, shape.readMembers ignore members seen start = .ok result) ↔
      ∀ field ∈ shape.fields, field.Fits members seen := by
  induction members generalizing seen start with
  | nil => exact iff_of_true ⟨_, rfl⟩ fun field _ => Field.fits_nil
  | cons member members ih =>
    obtain ⟨name, v⟩ := member
    by_cases known : ∃ field ∈ shape.fields, field.name = name
    · obtain ⟨field, hm, rfl⟩ := known
      simp only [readMembers_cons_field nodup hm]
      constructor
      · rintro ⟨result, fresh, put, reads, h⟩ other ho
        have fits := ih.mp ⟨result, h⟩ other ho
        by_cases he : field.name = other.name
        · obtain rfl := eq_of_name_eq nodup hm ho he
          exact Field.fits_cons_self.mpr ⟨fresh, ⟨put, reads⟩, fits⟩
        · exact (Field.fits_cons_of_ne he).mpr ((Field.fits_seen_of_ne he).mp fits)
      · intro fits
        obtain ⟨fresh, ⟨put, reads⟩, -⟩ := Field.fits_cons_self.mp (fits field hm)
        have later : ∀ other ∈ shape.fields, other.Fits members (field.name :: seen) := by
          intro other ho
          by_cases he : field.name = other.name
          · obtain rfl := eq_of_name_eq nodup hm ho he
            exact (Field.fits_cons_self.mp (fits field hm)).2.2
          · exact (Field.fits_seen_of_ne he).mpr ((Field.fits_cons_of_ne he).mp (fits other ho))
        obtain ⟨result, h⟩ := ih.mpr later
        exact ⟨result, fresh, put, reads, h⟩
    · have unknown : ∀ field ∈ shape.fields, field.name ≠ name :=
        fun field hm he => known ⟨field, hm, he⟩
      rw [readMembers_cons_other unknown, ih]
      exact forall₂_congr fun field hm => (Field.fits_cons_of_ne (unknown field hm).symm).symm

end members

/-! ### Items -/

section items

variable {fields : List (Field Empty σ)} {items : List Json} {index : Nat} {start finish : σ}
  (optional : ∀ field ∈ fields, field.required = false)

theorem readItems_cons_field {v : Json} {result : List Json × σ} :
    shape.readItems index (field :: fields) (v :: items) start = .ok result ↔
      ∃ put, field.read v = .ok put ∧
        shape.readItems (index + 1) fields items (put start) = .ok result := by
  rw [readItems]
  cases reads : field.read v <;> simp [within]

theorem readItems_nil (optional : ∀ field ∈ fields, field.required = false) :
    shape.readItems index fields [] start = .ok ([], start) := by
  induction fields generalizing index with
  | nil => rfl
  | cons field fields ih =>
    obtain ⟨free, optional⟩ := List.forall_mem_cons.mp optional
    rw [readItems, free]
    exact ih optional

/-- **Items are read** exactly when there are no more of them than fields, and each is taken by its
field. -/
theorem exists_readItems_iff (optional : ∀ field ∈ fields, field.required = false) :
    (∃ record, shape.readItems index fields items start = .ok ([], record)) ↔
      items.length ≤ fields.length ∧
        ∀ (i : Nat) (field : Field Empty σ), fields[i]? = some field → field.Takes items[i]? := by
  induction fields generalizing index items start with
  | nil => cases items <;> simp [readItems]
  | cons field fields ih =>
    cases items with
    | nil =>
      refine iff_of_true ⟨start, readItems_nil optional⟩ ⟨Nat.zero_le _, fun i field _ => ?_⟩
      exact Field.takes_none
    | cons v items =>
      have later := (List.forall_mem_cons.mp optional).2
      simp only [readItems_cons_field, List.length_cons, Nat.add_le_add_iff_right]
      constructor
      · rintro ⟨record, put, reads, h⟩
        obtain ⟨few, takes⟩ := (ih later).mp ⟨record, h⟩
        refine ⟨few, fun i other hi => ?_⟩
        cases i with
        | zero =>
          obtain rfl := Option.some.inj hi
          rintro _ ⟨⟩
          exact ⟨put, reads⟩
        | succ i => exact takes i other hi
      · rintro ⟨few, takes⟩
        obtain ⟨put, reads⟩ := takes 0 field rfl v rfl
        obtain ⟨record, h⟩ := (ih later).mpr ⟨few, fun i other hi => takes (i + 1) other hi⟩
        exact ⟨record, put, reads, h⟩

end items

/-! ### Documents -/

section documents

variable {blank record : σ} {members : List (String × Json)} {items : List Json}

theorem read_object_eq_ok_iff (optional : ∀ field ∈ shape.fields, field.required = false) :
    shape.read blank (.object members) = .ok record ↔
      ∃ seen, shape.readMembers ignore members [] blank = .ok (seen, record) := by
  have whole (seen : List String) : shape.missing? seen = none := by
    rw [missing?, List.find?_eq_none.mpr fun field hm => by simp [optional field hm]]
    rfl
  rw [read, ofMembers]
  cases shape.readMembers ignore members [] blank with
  | error r => simp
  | ok result => simp [whole, Prod.ext_iff]

theorem read_array_eq_ok_iff :
    shape.read blank (.array items) = .ok record ↔
      shape.readItems 0 shape.fields items blank = .ok ([], record) := by
  rw [read, ofItems]
  cases shape.readItems 0 shape.fields items blank with
  | error r => simp
  | ok result =>
    obtain ⟨rest, finish⟩ := result
    cases rest <;> simp [Medium.streamed, refuse]

/-- **A document is read as a record** of which every field may lack exactly when it has parts under
the names of the fields, and each field takes its part. -/
theorem exists_read_iff (shape : Shape Empty σ) (nodup : (shape.fields.map Field.name).Nodup)
    (optional : ∀ field ∈ shape.fields, field.required = false) (blank : σ) (v : Json) :
    (∃ record, shape.read blank v = .ok record) ↔
      ∃ parts, HasParts (shape.fields.map Field.name) v parts ∧
        ∀ field ∈ shape.fields, field.Takes (parts field.name) := by
  cases v with
  | object members =>
    simp only [read_object_eq_ok_iff optional]
    constructor
    · rintro ⟨record, seen, h⟩
      have fits := (exists_readMembers_iff nodup).mp ⟨_, h⟩
      have said : ∀ field ∈ shape.fields, ∃ part : Option Json,
          valuesOf field.name members = part.toList ∧ part = lookup field.name members ∧
            field.Takes part := by
        intro field hm
        obtain ⟨part, said, -, takes⟩ := fits field hm
        exact ⟨part, said, by rw [lookup_eq_head?, said, Option.head?_toList], takes⟩
      -- each field has at most one value, so the one looked up is all that is said of it
      refine ⟨fun name => lookup name members, .named ?_, ?_⟩
      · refine List.forall_mem_map.mpr fun field hm => ?_
        obtain ⟨part, said, rfl, -⟩ := said field hm
        exact said
      · intro field hm
        obtain ⟨part, -, rfl, takes⟩ := said field hm
        exact takes
    · rintro ⟨parts, has, takes⟩
      cases has with
      | named said =>
        have fits : ∀ field ∈ shape.fields, field.Fits members [] := fun field hm =>
          ⟨_, said _ (List.mem_map_of_mem hm), nofun, takes field hm⟩
        obtain ⟨⟨seen, record⟩, h⟩ := (exists_readMembers_iff nodup).mpr fits
        exact ⟨record, seen, h⟩
  | array items =>
    simp only [read_array_eq_ok_iff, exists_readItems_iff optional]
    constructor
    · rintro ⟨few, takes⟩
      -- items stand in the order of the fields, in which no name comes twice
      have place : ∀ (i : Nat) (name : String), (shape.fields.map Field.name)[i]? = some name →
          items[(shape.fields.map Field.name).idxOf name]? = items[i]? := by
        intro i name hi
        obtain ⟨bound, rfl⟩ := List.getElem?_eq_some_iff.mp hi
        rw [nodup.idxOf_getElem i bound]
      refine ⟨_, .placed (by simpa using few) place, fun field hm => ?_⟩
      obtain ⟨i, hi⟩ := List.mem_iff_getElem?.mp hm
      have named : (shape.fields.map Field.name)[i]? = some field.name := by simp [hi]
      rw [place i _ named]
      exact takes i field hi
    · rintro ⟨parts, has, takes⟩
      cases has with
      | placed few put =>
        refine ⟨by simpa using few, fun i field hi => ?_⟩
        rw [← put i field.name (by simp [hi])]
        exact takes field (List.mem_of_getElem? hi)
  | unreadable f => exact nomatch f
  | _ =>
    refine iff_of_false ?_ ?_
    · rintro ⟨record, ⟨⟩⟩
    · rintro ⟨parts, ⟨⟩, -⟩

end documents

end Shape

/-! ### Places -/

/-- **A place becomes** what is read of its part, and stays as it is without one. -/
def Becomes (read : Json → Decoded α) : Option Json → α → α → Prop
  | none, a, b => b = a
  | some v, _, b => read v = .ok b

theorem Becomes.unique {read : Json → Decoded α} {part : Option Json} {a b c : α}
    (h : Becomes read part a b) (h' : Becomes read part a c) : b = c := by
  cases part with
  | none => exact h.trans h'.symm
  | some v => exact Except.ok.inj (h.symm.trans h')

/-- **A field sets a place** of a record to what is read of its part. -/
def Field.Sets (field : Field Empty σ) (get : σ → α) (read : Json → Decoded α) : Prop :=
  ∀ v put, field.read v = .ok put → ∀ record, read v = .ok (get (put record))

section of

variable {name : String} {required : Bool} {read : Json → Decoded α} {put : α → σ → σ}

theorem Field.takes_of_iff {part : Option Json} :
    (Field.of name required read put).Takes part ↔ ∀ v ∈ part, ∃ a, read v = .ok a := by
  refine forall₂_congr fun v _ => ?_
  cases h : read v <;> simp [Field.of, h, Except.map]

theorem Field.sets_of {get : σ → α} (own : ∀ a r, get (put a r) = a) :
    (Field.of name required read put).Sets get read := by
  intro v f h r
  obtain ⟨a, ha, rfl⟩ := exists_of_map_eq_ok h
  rw [own, ha]

end of

namespace Shape

variable {shape : Shape Empty σ} {field : Field Empty σ} {get : σ → α} {read : Json → Decoded α}
  {start finish : σ}

theorem readMembers_place (nodup : (shape.fields.map Field.name).Nodup)
    (mine : field ∈ shape.fields) (sets : field.Sets get read)
    (spares : ∀ other ∈ shape.fields, other.name ≠ field.name → other.Spares (some ∘ get))
    {members : List (String × Json)} {part : Option Json} {seen last : List String}
    (said : valuesOf field.name members = part.toList)
    (h : shape.readMembers ignore members seen start = .ok (last, finish)) :
    Becomes read part (get start) (get finish) := by
  induction members generalizing seen start part with
  | nil =>
    cases h
    cases part with
    | none => rfl
    | some v => cases said
  | cons member members ih =>
    obtain ⟨name, v⟩ := member
    by_cases known : ∃ other ∈ shape.fields, other.name = name
    · obtain ⟨other, hm, rfl⟩ := known
      obtain ⟨-, put, reads, h⟩ := (readMembers_cons_field nodup hm).mp h
      by_cases he : other.name = field.name
      · obtain rfl := eq_of_name_eq nodup hm mine he
        rw [valuesOf_cons_self] at said
        cases part with
        | none => cases said
        | some u =>
          obtain ⟨rfl, no_more⟩ := List.cons.inj said
          have kept : Becomes read none (get (put start)) (get finish) := ih no_more h
          rw [show get finish = get (put start) from kept]
          exact sets v put reads start
      · have same : get (put start) = get start :=
          Option.some.inj (spares other hm he v put reads start)
        rw [valuesOf_cons_of_ne he] at said
        exact same ▸ ih said h
    · have unknown : ∀ other ∈ shape.fields, other.name ≠ name :=
        fun other hm he => known ⟨other, hm, he⟩
      rw [readMembers_cons_other unknown] at h
      rw [valuesOf_cons_of_ne (unknown field mine).symm] at said
      exact ih said h

theorem readItems_place {before after : List (Field Empty σ)} (sets : field.Sets get read)
    (earlier : ∀ other ∈ before, other.Spares (some ∘ get))
    (later : ∀ other ∈ after, other.Spares (some ∘ get)) {index : Nat} {items rest : List Json}
    (h : shape.readItems index (before ++ field :: after) items start = .ok (rest, finish)) :
    Becomes read items[before.length]? (get start) (get finish) := by
  induction before generalizing index items start with
  | nil =>
    cases items with
    | nil =>
      have same : get finish = get start := by
        rw [List.nil_append, readItems] at h
        split at h
        · cases h
        · exact Option.some.inj (readItems_spares later h)
      exact same
    | cons v items =>
      obtain ⟨put, reads, h⟩ := readItems_cons_field.mp h
      have same : get finish = get (put start) := Option.some.inj (readItems_spares later h)
      exact same ▸ sets v put reads start
  | cons other before ih =>
    obtain ⟨spared, earlier⟩ := List.forall_mem_cons.mp earlier
    cases items with
    | nil =>
      rw [List.cons_append, readItems] at h
      split at h
      · cases h
      · simpa using ih earlier h
    | cons v items =>
      obtain ⟨put, reads, h⟩ := readItems_cons_field.mp h
      have same : get (put start) = get start := Option.some.inj (spared v put reads start)
      simpa [same] using ih earlier h

/-- **The place of a field** becomes what is read of its part. -/
theorem read_place (before after : List (Field Empty σ))
    (fields : shape.fields = before ++ field :: after)
    (nodup : (shape.fields.map Field.name).Nodup)
    (optional : ∀ field ∈ shape.fields, field.required = false) (sets : field.Sets get read)
    (spares : ∀ other ∈ before ++ after, other.Spares (some ∘ get)) {v : Json}
    {parts : String → Option Json} (has : HasParts (shape.fields.map Field.name) v parts)
    (h : shape.read start v = .ok finish) :
    Becomes read (parts field.name) (get start) (get finish) := by
  have mine : field ∈ shape.fields := by simp [fields]
  cases has with
  | named said =>
    obtain ⟨seen, h⟩ := (read_object_eq_ok_iff optional).mp h
    refine readMembers_place nodup mine sets (fun other hm hn => spares other ?_)
      (said _ (List.mem_map_of_mem mine)) h
    rw [fields] at hm
    rcases List.mem_append.mp hm with hm | hm
    · exact List.mem_append_left _ hm
    · rcases List.mem_cons.mp hm with rfl | hm
      · exact absurd rfl hn
      · exact List.mem_append_right _ hm
  | placed few put =>
    have h := read_array_eq_ok_iff.mp h
    rw [put before.length field.name (by simp [fields])]
    rw [fields] at h
    exact readItems_place sets (fun other hm => spares other (List.mem_append_left _ hm))
      (fun other hm => spares other (List.mem_append_right _ hm)) h

/-- **A record with something in the place of a field** is read exactly of the documents with a part
that puts it there, and with parts that the other fields take. -/
theorem exists_read_place_iff (shape : Shape Empty σ) (get : σ → α) {name : String}
    {required : Bool} {put : α → σ → σ} (own : ∀ a r, get (put a r) = a)
    (before after : List (Field Empty σ))
    (fields : shape.fields = before ++ .of name required read put :: after)
    (nodup : (shape.fields.map Field.name).Nodup)
    (optional : ∀ field ∈ shape.fields, field.required = false)
    (spares : ∀ other ∈ before ++ after, other.Spares (some ∘ get)) (blank : σ) (v : Json) (a : α) :
    (∃ record, shape.read blank v = .ok record ∧ get record = a) ↔
      ∃ parts, HasParts (shape.fields.map Field.name) v parts ∧
        (∀ other ∈ before ++ after, other.Takes (parts other.name)) ∧
          Becomes read (parts name) (get blank) a := by
  have accepts := shape.exists_read_iff nodup optional blank v
  have place {record : σ} {parts : String → Option Json}
      (has : HasParts (shape.fields.map Field.name) v parts)
      (h : shape.read blank v = .ok record) :
      Becomes read (parts name) (get blank) (get record) :=
    read_place before after fields nodup optional (Field.sets_of own) spares has h
  constructor
  · rintro ⟨record, h, rfl⟩
    obtain ⟨parts, has, takes⟩ := accepts.mp ⟨record, h⟩
    refine ⟨parts, has, fun other ho => takes other ?_, place has h⟩
    rw [fields]
    simp only [List.mem_append, List.mem_cons] at ho ⊢
    tauto
  · rintro ⟨parts, has, takes, becomes⟩
    have all : ∀ field ∈ shape.fields, field.Takes (parts field.name) := by
      intro field hm
      rw [fields] at hm
      rcases List.mem_append.mp hm with hm | hm
      · exact takes field (List.mem_append_left _ hm)
      · rcases List.mem_cons.mp hm with rfl | hm
        · refine Field.takes_of_iff.mpr fun u hu => ?_
          rw [show parts name = some u from hu] at becomes
          exact ⟨a, becomes⟩
        · exact takes field (List.mem_append_right _ hm)
    obtain ⟨record, h⟩ := accepts.mpr ⟨parts, has, all⟩
    exact ⟨record, h, (place has h).unique becomes⟩

end Shape

end RealmKeeper.Json
