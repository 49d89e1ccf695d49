import RealmKeeper.Proofs.WrittenValues
import Mathlib.Data.List.Nodup
import Mathlib.Data.List.Pairwise
import Mathlib.Tactic.MkIffOfInductiveProp

/-!
# Open records

Records that are read from an object and keep the members that they do not declare.

* `Slot`: a declared member and its place in the record;
* `Layout`: the slots of a record, which are independent of each other, and the rest of it;
* `Layout.Reads`: what reading members makes of a record, slot by slot;
* `Layout.echoed_of_ofMembers`: what was read is written again as the forms of the slots say;
* `Layout.ofMembers_of_written`: members with the values of a record are read as the record.
-/

namespace RealmKeeper.Json

/-- **A declared member** and its place in a record. -/
structure Slot (σ : Type) where
  name : String
  Value : Type
  wire : Wire Value
  get : σ → Value
  put : Value → σ → σ

namespace Slot

variable {σ : Type} (s : Slot σ)

/-- The member as a field of a record. -/
def field (φ : Type) [Medium φ] : Field φ σ :=
  .of s.name (s.wire.form = .required) s.wire.read s.put

/-- The value that is written of a record for the member; `none` where it is left out. -/
def written (r : σ) : Option Json :=
  s.wire.write (s.get r)

/-- The record has a legal value in the place of the member. -/
def IsLegal (r : σ) : Prop :=
  s.wire.Legal (s.get r)

/-- Writing to one of the members is not seen in the place of the other. -/
@[mk_iff]
structure Independent (s u : Slot σ) : Prop where
  left : ∀ v r, s.get (u.put v r) = s.get r
  right : ∀ v r, u.get (s.put v r) = u.get r

instance : Std.Symm (Independent (σ := σ)) := ⟨fun _ _ h => ⟨h.right, h.left⟩⟩

theorem canonical_written {r : σ} {v : Json} (h : s.written r = some v) : canonical v = v :=
  s.wire.canonical_write h

end Slot

/-- **The layout of an open record**: its slots, and the rest, which gathers all other members. -/
structure Layout (σ ρ : Type) where
  title : String
  slots : List (Slot σ)
  /-- The record before anything is read. -/
  blank : σ
  /-- Keeps a member that is not declared. -/
  keep : String → Json → σ → σ
  rest : σ → ρ
  gather : ρ → String × Json → ρ
  names_nodup : (slots.map Slot.name).Nodup
  get_put : ∀ s ∈ slots, ∀ v r, s.get (s.put v r) = v
  independent : slots.Pairwise Slot.Independent
  get_blank : ∀ s ∈ slots, s.get blank = s.wire.absent
  get_keep : ∀ s ∈ slots, ∀ name v r, s.get (keep name v r) = s.get r
  rest_put : ∀ s ∈ slots, ∀ v r, rest (s.put v r) = rest r
  rest_keep : ∀ name v r, rest (keep name v r) = gather (rest r) (name, v)
  ext : ∀ r r', (∀ s ∈ slots, s.get r = s.get r') → rest r = rest r' → r = r'

namespace Layout

variable {σ ρ : Type} (L : Layout σ ρ)

/-- The names of the declared members. -/
def names : List String :=
  L.slots.map Slot.name

/-- How the declared members are written. -/
def forms : List (String × Form) :=
  L.slots.map fun s => (s.name, s.wire.form)

/-- The declared members as the shape of a record. -/
def shape (φ : Type) [Medium φ] : Shape φ σ where
  name := L.title
  fields := L.slots.map fun s => s.field φ

/-- What is done with a member that is not declared. -/
def keepOther {φ : Type} (name : String) (t : ValueTree φ) (r : σ) : Decoded σ :=
  (readWritten t).map fun v => L.keep name v r

/-- The members that are not declared. -/
def others (members : List (String × Json)) : List (String × Json) :=
  members.filter fun m => m.1 ∉ L.names

/-- Reads a record from an object. -/
def read {φ : Type} [Medium φ] : ValueTree φ → Decoded σ :=
  (L.shape φ).readOpen L.keepOther L.blank

/-- The declared members of a record that are written, in order. -/
def written (r : σ) : List (String × Json) :=
  L.slots.flatMap fun s => member? s.name (s.written r)

/-- **What reading members makes of a record**: a slot whose member is given once has its value, one
whose member is not given stays, and the rest gathers all others. -/
structure Reads (φ : Type) [Medium φ] (members : List (String × Json)) (before after : σ) :
    Prop where
  slot : ∀ s ∈ L.slots,
    (valuesOf s.name members = [] ∧ s.get after = s.get before) ∨
      ∃ (t : ValueTree φ) (v : Json), valuesOf s.name members = [v] ∧ t.Denotes v ∧
        s.wire.read t = .ok (s.get after)
  rest : L.rest after = (L.others members).foldl L.gather (L.rest before)

/-- **A record says again what members say**: its slots hold legal values, each written as its form
has it, and the rest gathers all other members. -/
structure Echoed (members : List (String × Json)) (r : σ) : Prop where
  legal : ∀ s ∈ L.slots, s.IsLegal r
  written : ∀ s ∈ L.slots,
    s.written r = ((Dict.ofMembers members).get? s.name).bind s.wire.form.echo
  rest : L.rest r = (L.others members).foldl L.gather (L.rest L.blank)

/-! ### Names -/

variable {L} {φ : Type} {s u : Slot σ} {r : σ} {name : String} {members : List (String × Json)}

theorem name_mem (hs : s ∈ L.slots) : s.name ∈ L.names :=
  List.mem_map_of_mem hs

theorem ne_name (h : name ∉ L.names) (hs : s ∈ L.slots) : name ≠ s.name := by
  rintro rfl
  exact h (name_mem hs)

theorem eq_of_name_eq (hs : s ∈ L.slots) (hu : u ∈ L.slots) (h : s.name = u.name) : s = u :=
  List.inj_on_of_nodup_map L.names_nodup hs hu h

theorem get_put_of_ne (hs : s ∈ L.slots) (hu : u ∈ L.slots) (h : s.name ≠ u.name) (v : u.Value)
    (r : σ) : s.get (u.put v r) = s.get r := by
  have ne : s ≠ u := fun he => h (congrArg Slot.name he)
  exact (L.independent.forall hs hu ne).left v r

theorem lookup_forms (hs : s ∈ L.slots) : lookup s.name L.forms = some s.wire.form := by
  have first : ∀ slots : List (Slot σ), (∀ u ∈ slots, u ∈ L.slots) → s ∈ slots →
      lookup s.name (slots.map fun u => (u.name, u.wire.form)) = some s.wire.form := by
    intro slots
    induction slots with
    | nil => exact fun _ hm => nomatch hm
    | cons u slots ih =>
      intro known hm
      obtain ⟨hu, known⟩ := List.forall_mem_cons.mp known
      rw [List.map_cons, lookup]
      by_cases he : s.name = u.name
      · obtain rfl := eq_of_name_eq hs hu he
        exact if_pos rfl
      · rw [if_neg he]
        refine ih known ((List.mem_cons.mp hm).resolve_left fun h => he (congrArg Slot.name h))
  exact first L.slots (fun _ hu => hu) hs

theorem lookup_forms_of_not_mem (h : name ∉ L.names) : lookup name L.forms = none := by
  rw [lookup_eq_head?, valuesOf_eq_nil_iff.mpr, List.head?_nil]
  rw [forms, List.map_map]
  exact h

theorem find?_eq_some [Medium φ] (hs : s ∈ L.slots) :
    (L.shape φ).fields.find? (fun f => f.name = s.name) = some (s.field φ) := by
  cases hf : (L.shape φ).fields.find? fun f => f.name = s.name with
  | none =>
    have absent := List.find?_eq_none.mp hf (s.field φ) (List.mem_map_of_mem hs)
    exact absurd (decide_eq_true rfl) absent
  | some field =>
    obtain ⟨u, hu, rfl⟩ := List.mem_map.mp (List.mem_of_find?_eq_some hf)
    have named := List.find?_some hf
    rw [eq_of_name_eq hu hs (of_decide_eq_true named)]

theorem find?_eq_none [Medium φ] (h : name ∉ L.names) :
    (L.shape φ).fields.find? (fun f => f.name = name) = none := by
  refine List.find?_eq_none.mpr fun field hf => ?_
  obtain ⟨u, hu, rfl⟩ := List.mem_map.mp hf
  intro hn
  obtain rfl : u.name = name := of_decide_eq_true hn
  exact h (name_mem hu)

theorem valuesOf_others :
    valuesOf name (L.others members) = if name ∈ L.names then [] else valuesOf name members := by
  have kept : valuesOf name (L.others members) =
      if decide (name ∉ L.names) then valuesOf name members else [] :=
    valuesOf_filter fun n => decide (n ∉ L.names)
  rw [kept]
  by_cases h : name ∈ L.names <;> simp [h]

theorem others_cons_of_mem {v : Json} (h : name ∈ L.names) :
    L.others ((name, v) :: members) = L.others members :=
  List.filter_cons_of_neg (by simpa using h)

theorem others_cons_of_not_mem {v : Json} (h : name ∉ L.names) :
    L.others ((name, v) :: members) = (name, v) :: L.others members :=
  List.filter_cons_of_pos (by simpa using h)

/-! ### What is written -/

theorem valuesOf_member? (value : Option Json) :
    valuesOf name (member? name value) = value.toList := by
  cases value <;> simp [member?]

theorem valuesOf_member?_of_ne {other : String} (h : other ≠ name) (value : Option Json) :
    valuesOf name (member? other value) = [] := by
  cases value with
  | none => rfl
  | some v => rw [member?, valuesOf_cons_of_ne h, valuesOf_nil]

/-- **A declared member is written once**, or left out. -/
theorem valuesOf_written (hs : s ∈ L.slots) :
    valuesOf s.name (L.written r) = (s.written r).toList := by
  have apart : ∀ slots : List (Slot σ), (slots.map Slot.name).Nodup → s ∈ slots →
      valuesOf s.name (slots.flatMap fun s => member? s.name (s.written r)) =
        (s.written r).toList := by
    intro slots
    induction slots with
    | nil => simp
    | cons u slots ih =>
      intro hn hm
      obtain ⟨fresh, hn⟩ := List.nodup_cons.mp hn
      rw [List.flatMap_cons, valuesOf_append]
      rcases List.mem_cons.mp hm with rfl | hm
      · have absent :
            valuesOf s.name (slots.flatMap fun u => member? u.name (u.written r)) = [] := by
          rw [valuesOf, List.filterMap_flatMap, List.flatMap_eq_nil_iff]
          intro u hu
          have ne : u.name ≠ s.name := fun he => fresh (List.mem_map.mpr ⟨u, hu, he⟩)
          exact valuesOf_member?_of_ne ne _
        rw [valuesOf_member?, absent, List.append_nil]
      · have ne : u.name ≠ s.name := fun he => fresh (List.mem_map.mpr ⟨s, hm, he.symm⟩)
        rw [valuesOf_member?_of_ne ne, ih hn hm, List.nil_append]
  exact apart L.slots L.names_nodup hs

theorem valuesOf_written_of_not_mem (h : name ∉ L.names) : valuesOf name (L.written r) = [] := by
  rw [written, valuesOf, List.filterMap_flatMap, List.flatMap_eq_nil_iff]
  intro s hs
  exact valuesOf_member?_of_ne (ne_name h hs).symm _

theorem names_written_sublist : ((L.written r).map Prod.fst).Sublist L.names := by
  have slots : ∀ slots : List (Slot σ),
      ((slots.flatMap fun s => member? s.name (s.written r)).map Prod.fst).Sublist
        (slots.map Slot.name) := by
    intro slots
    induction slots with
    | nil => exact .slnil
    | cons s slots ih =>
      rw [List.flatMap_cons, List.map_append, List.map_cons]
      cases s.written r with
      | none => exact ih.cons s.name
      | some v => exact ih.cons_cons s.name
  exact slots L.slots

/-! ### Reading -/

theorem readWritten_eq_ok_iff {t : ValueTree φ} {v : Json} :
    readWritten t = .ok v ↔ t.Denotes v := by
  unfold readWritten ValueTree.Denotes
  cases t.value? <;> simp [refuse]

theorem keepOther_eq_ok_iff {t : ValueTree φ} {r r' : σ} :
    L.keepOther name t r = .ok r' ↔ ∃ v, t.Denotes v ∧ L.keep name v r = r' := by
  unfold keepOther
  cases hr : readWritten t with
  | error e =>
    refine ⟨(nomatch ·), ?_⟩
    rintro ⟨v, hv, -⟩
    cases hr.symm.trans (readWritten_eq_ok_iff.mpr hv)
  | ok v =>
    have hv := readWritten_eq_ok_iff.mp hr
    constructor
    · intro h
      exact ⟨v, hv, Except.ok.inj h⟩
    · rintro ⟨v', hv', rfl⟩
      obtain rfl : v = v' := Option.some.inj (hv.symm.trans hv')
      rfl

theorem readMembers_cons_slot [Medium φ] (hs : s ∈ L.slots) {t : ValueTree φ}
    {trees : List (String × ValueTree φ)} {seen : List String} {result : List String × σ} :
    (L.shape φ).readMembers L.keepOther ((s.name, t) :: trees) seen r = .ok result ↔
      s.name ∉ seen ∧ ∃ a, s.wire.read t = .ok a ∧
        (L.shape φ).readMembers L.keepOther trees (s.name :: seen) (s.put a r) = .ok result := by
  rw [Shape.readMembers, find?_eq_some hs]
  by_cases hm : s.name ∈ seen
  · simp [hm, refuse]
  · cases hr : s.wire.read t with
    | error e => simp [hm, Slot.field, Field.of, hr, within, Except.map]
    | ok a => simp [hm, Slot.field, Field.of, hr, within, Except.map]

theorem readMembers_cons_other [Medium φ] (h : name ∉ L.names) {t : ValueTree φ}
    {trees : List (String × ValueTree φ)} {seen : List String} {result : List String × σ} :
    (L.shape φ).readMembers L.keepOther ((name, t) :: trees) seen r = .ok result ↔
      ∃ v, t.Denotes v ∧
        (L.shape φ).readMembers L.keepOther trees seen (L.keep name v r) = .ok result := by
  rw [Shape.readMembers, find?_eq_none h]
  cases hr : L.keepOther name t r with
  | error e =>
    refine ⟨by simp [within], ?_⟩
    rintro ⟨v, hv, -⟩
    cases hr.symm.trans (keepOther_eq_ok_iff.mpr ⟨v, hv, rfl⟩)
  | ok r' =>
    obtain ⟨v, hv, rfl⟩ := keepOther_eq_ok_iff.mp hr
    simp only [within]
    constructor
    · exact fun h => ⟨v, hv, h⟩
    · rintro ⟨v', hv', h⟩
      obtain rfl : v = v' := Option.some.inj (hv.symm.trans hv')
      exact h

theorem Reads.cons_slot [Medium φ] (hu : u ∈ L.slots) {t : ValueTree φ} {v : Json} {a : u.Value}
    {r' : σ} (denotes : t.Denotes v) (hr : u.wire.read t = .ok a)
    (no_more : valuesOf u.name members = []) (reads : L.Reads φ members (u.put a r) r') :
    L.Reads φ ((u.name, v) :: members) r r' := by
  refine ⟨fun s hs => ?_, ?_⟩
  · by_cases he : s.name = u.name
    · obtain rfl := eq_of_name_eq hs hu he
      refine .inr ⟨t, v, by rw [valuesOf_cons_self, no_more], denotes, ?_⟩
      rcases reads.slot s hs with ⟨-, same⟩ | ⟨_, _, given, -⟩
      · rw [hr, same, L.get_put s hs]
      · cases no_more.symm.trans given
    · rw [valuesOf_cons_of_ne (Ne.symm he), ← get_put_of_ne hs hu he a r]
      exact reads.slot s hs
  · rw [others_cons_of_mem (name_mem hu), ← L.rest_put u hu a r]
    exact reads.rest

theorem Reads.cons_other [Medium φ] (h : name ∉ L.names) {v : Json} {r' : σ}
    (reads : L.Reads φ members (L.keep name v r) r') : L.Reads φ ((name, v) :: members) r r' := by
  refine ⟨fun s hs => ?_, ?_⟩
  · rw [valuesOf_cons_of_ne (ne_name h hs), ← L.get_keep s hs name v r]
    exact reads.slot s hs
  · rw [others_cons_of_not_mem h, List.foldl_cons, ← L.rest_keep name v r]
    exact reads.rest

/-- **What reading makes of a record, member by member**: what was seen before is not seen again. -/
theorem reads_of_readMembers [Medium φ] {trees : List (String × ValueTree φ)}
    {seen seen' : List String} {r' : σ}
    (h : (L.shape φ).readMembers L.keepOther trees seen r = .ok (seen', r')) :
    ∃ members, DenoteMembers trees members ∧ L.Reads φ members r r' ∧
      (∀ s ∈ L.slots, s.name ∈ seen → valuesOf s.name members = []) ∧
        ∀ s ∈ L.slots, s.name ∈ seen' → s.name ∈ seen ∨ valuesOf s.name members ≠ [] := by
  -- carried along: a name that was seen is not among the members still to come
  induction trees generalizing seen r with
  | nil =>
    cases h
    exact ⟨[], .nil, ⟨fun s _ => .inl ⟨rfl, rfl⟩, rfl⟩, fun _ _ _ => rfl, fun _ _ h => .inl h⟩
  | cons head trees ih =>
    obtain ⟨name, t⟩ := head
    by_cases hname : name ∈ L.names
    · obtain ⟨u, hu, rfl⟩ := List.mem_map.mp hname
      obtain ⟨fresh, a, hr, h⟩ := (readMembers_cons_slot hu).mp h
      obtain ⟨members, denote, reads, once, seen_iff⟩ := ih h
      obtain ⟨-, v, denotes, -⟩ := u.wire.sound hr
      have no_more : valuesOf u.name members = [] := once u hu List.mem_cons_self
      refine ⟨(u.name, v) :: members, .cons ⟨rfl, denotes⟩ denote,
        reads.cons_slot hu denotes hr no_more, fun s hs seen => ?_, fun s hs seen => ?_⟩
      · have ne : u.name ≠ s.name := fun he => fresh (he ▸ seen)
        rw [valuesOf_cons_of_ne ne]
        exact once s hs (List.mem_cons_of_mem _ seen)
      · by_cases he : u.name = s.name
        · rw [he, valuesOf_cons_self]
          exact .inr (List.cons_ne_nil _ _)
        · rw [valuesOf_cons_of_ne he]
          refine (seen_iff s hs seen).imp_left fun hm => ?_
          exact (List.mem_cons.mp hm).resolve_left (Ne.symm he)
    · obtain ⟨v, denotes, h⟩ := (readMembers_cons_other hname).mp h
      obtain ⟨members, denote, reads, once, seen_iff⟩ := ih h
      refine ⟨(name, v) :: members, .cons ⟨rfl, denotes⟩ denote, reads.cons_other hname,
        fun s hs seen => ?_, fun s hs seen => ?_⟩
      · rw [valuesOf_cons_of_ne (ne_name hname hs)]
        exact once s hs seen
      · rw [valuesOf_cons_of_ne (ne_name hname hs)]
        exact seen_iff s hs seen

/-- **Members that can be read are read**: no declared member is given twice, or was seen before,
and the values of each can be read. -/
theorem exists_readMembers [Medium φ] {trees : List (String × ValueTree φ)} {seen : List String}
    (denote : DenoteMembers trees members)
    (readable : ∀ s ∈ L.slots, valuesOf s.name members = [] ∨
      s.name ∉ seen ∧ ∃ v, valuesOf s.name members = [v] ∧
        ∀ t : ValueTree φ, t.Denotes v → ∃ a, s.wire.read t = .ok a) :
    ∃ seen' r', (L.shape φ).readMembers L.keepOther trees seen r = .ok (seen', r') ∧
      (∀ n ∈ seen, n ∈ seen') ∧ ∀ s ∈ L.slots, valuesOf s.name members ≠ [] → s.name ∈ seen' := by
  induction denote generalizing seen r with
  | nil => exact ⟨seen, r, rfl, fun _ h => h, fun _ _ h => absurd rfl h⟩
  | @cons head m trees members denotes _ ih =>
    obtain ⟨name, t⟩ := head
    obtain ⟨name', v⟩ := m
    obtain ⟨rfl, denotes⟩ : name = name' ∧ t.Denotes v := denotes
    by_cases hname : name ∈ L.names
    · obtain ⟨u, hu, rfl⟩ := List.mem_map.mp hname
      obtain ⟨fresh, w, given, can⟩ := (readable u hu).resolve_left (by simp)
      rw [valuesOf_cons_self, List.cons.injEq] at given
      obtain ⟨rfl, no_more⟩ := given
      obtain ⟨a, hr⟩ := can t denotes
      obtain ⟨seen', r', h, kept, found⟩ := @ih (u.put a r) (u.name :: seen) fun s hs => by
        -- the slot has its one value now, and the rest has none for it
        by_cases he : u.name = s.name
        · exact .inl (he ▸ no_more)
        · rw [← valuesOf_cons_of_ne he v]
          refine (readable s hs).imp_right (And.imp_left fun hm => ?_)
          exact fun hm' => (List.mem_cons.mp hm').elim (Ne.symm he) hm
      refine ⟨seen', r', (readMembers_cons_slot hu).mpr ⟨fresh, a, hr, h⟩,
        fun n hn => kept n (List.mem_cons_of_mem _ hn), fun s hs given => ?_⟩
      by_cases he : u.name = s.name
      · exact he ▸ kept _ List.mem_cons_self
      · rw [valuesOf_cons_of_ne he] at given
        exact found s hs given
    · obtain ⟨seen', r', h, kept, found⟩ := @ih (L.keep name v r) seen fun s hs => by
        rw [← valuesOf_cons_of_ne (ne_name hname hs) v]
        exact readable s hs
      refine ⟨seen', r', (readMembers_cons_other hname).mpr ⟨v, denotes, h⟩, kept,
        fun s hs given => ?_⟩
      rw [valuesOf_cons_of_ne (ne_name hname hs)] at given
      exact found s hs given

/-! ### Records -/

theorem missing?_eq_none_iff [Medium φ] {seen : List String} :
    (L.shape φ).missing? seen = none ↔
      ∀ s ∈ L.slots, s.wire.form = .required → s.name ∈ seen := by
  unfold Shape.missing?
  rw [Option.map_eq_none_iff, List.find?_eq_none]
  constructor
  · intro h s hs hr
    by_contra hm
    exact h (s.field φ) (List.mem_map_of_mem hs) (by simp [Slot.field, Field.of, hr, hm])
  · intro h field hf
    obtain ⟨s, hs, rfl⟩ := List.mem_map.mp hf
    by_cases hr : s.wire.form = .required
    · simp [Slot.field, Field.of, h s hs hr]
    · simp [Slot.field, Field.of, hr]

theorem ofMembers_eq_ok_iff [Medium φ] {trees : List (String × ValueTree φ)} :
    (L.shape φ).ofMembers L.keepOther L.blank trees = .ok r ↔
      ∃ seen, (L.shape φ).readMembers L.keepOther trees [] L.blank = .ok (seen, r) ∧
        (L.shape φ).missing? seen = none := by
  unfold Shape.ofMembers
  cases (L.shape φ).readMembers L.keepOther trees [] L.blank with
  | error e => simp
  | ok result =>
    obtain ⟨seen, r'⟩ := result
    cases missing : (L.shape φ).missing? seen with
    | none => simp [missing]
    | some name => simp [missing, refuse]

/-- **What was read is written again** as the forms of the slots say. -/
theorem echoed_of_ofMembers [Medium φ] {trees : List (String × ValueTree φ)} {r : σ}
    (h : (L.shape φ).ofMembers L.keepOther L.blank trees = .ok r) :
    ∃ members, DenoteMembers trees members ∧ L.Echoed members r := by
  obtain ⟨seen, hr, hm⟩ := ofMembers_eq_ok_iff.mp h
  obtain ⟨members, denote, reads, -, seen_iff⟩ := reads_of_readMembers hr
  have slot : ∀ s ∈ L.slots, s.IsLegal r ∧
      s.written r = ((Dict.ofMembers members).get? s.name).bind s.wire.form.echo := by
    intro s hs
    rw [Dict.get?_ofMembers]
    rcases reads.slot s hs with ⟨missing, same⟩ | ⟨t, v, given, denotes, read⟩
    · have absent : s.get r = s.wire.absent := same.trans (L.get_blank s hs)
      have legal : s.IsLegal r := by
        rw [Slot.IsLegal, absent]
        exact s.wire.legal_absent
      have free : s.wire.form ≠ .required := fun required => by
        have found := seen_iff s hs (missing?_eq_none_iff.mp hm s hs required)
        exact found.elim (nomatch ·) (absurd missing)
      rw [missing]
      exact ⟨legal, (s.wire.write_eq_none_iff legal).mpr ⟨free, absent⟩⟩
    · obtain ⟨legal, v', denotes', canonical, echo⟩ := s.wire.sound read
      obtain rfl : v = v' := Option.some.inj (denotes.symm.trans denotes')
      rw [given, List.getLast?_singleton, Option.map_some, canonical]
      exact ⟨legal, echo.symm⟩
  exact ⟨members, denote, fun s hs => (slot s hs).1, fun s hs => (slot s hs).2, reads.rest⟩

theorem read_eq_ok_iff [Medium φ] {t : ValueTree φ} :
    L.read t = .ok r ↔
      ∃ trees, t = .object trees ∧ (L.shape φ).ofMembers L.keepOther L.blank trees = .ok r := by
  cases t with
  | object trees => simp [read, Shape.readOpen]
  | _ => simp [read, Shape.readOpen, mismatch, refuse]

/-- **Members with the values of a record are read as the record**, in whatever order they stand. -/
theorem ofMembers_of_written [Medium φ] {trees : List (String × ValueTree φ)} {r : σ}
    (denote : DenoteMembers trees members)
    (slots : ∀ s ∈ L.slots, s.IsLegal r ∧ valuesOf s.name members = (s.written r).toList)
    (rest : L.rest r = (L.others members).foldl L.gather (L.rest L.blank)) :
    (L.shape φ).ofMembers L.keepOther L.blank trees = .ok r := by
  have complete {s : Slot σ} (hs : s ∈ L.slots) {v : Json} (hv : s.written r = some v)
      {t : ValueTree φ} (ht : t.Denotes v) : s.wire.read t = .ok (s.get r) :=
    s.wire.complete (slots s hs).1 hv ht
  have readable : ∀ s ∈ L.slots, valuesOf s.name members = [] ∨
      s.name ∉ ([] : List String) ∧ ∃ v, valuesOf s.name members = [v] ∧
        ∀ t : ValueTree φ, t.Denotes v → ∃ a, s.wire.read t = .ok a := by
    intro s hs
    rw [(slots s hs).2]
    cases hv : s.written r with
    | none => exact .inl rfl
    | some v => exact .inr ⟨nofun, v, rfl, fun t ht => ⟨_, complete hs hv ht⟩⟩
  obtain ⟨seen, r', hr, -, found⟩ := exists_readMembers (r := L.blank) denote readable
  have all_there : (L.shape φ).missing? seen = none := by
    refine missing?_eq_none_iff.mpr fun s hs required => ?_
    refine found s hs fun missing => ?_
    rw [(slots s hs).2, Option.toList_eq_nil_iff] at missing
    exact ((s.wire.write_eq_none_iff (slots s hs).1).mp missing).1 required
  obtain ⟨members', denote', reads, -⟩ := reads_of_readMembers hr
  obtain rfl : members = members' := denoteMembers_unique denote denote'
  have same : r' = r := by
    refine L.ext r' r (fun s hs => ?_) (reads.rest.trans rest.symm)
    rcases reads.slot s hs with ⟨missing, blank⟩ | ⟨t, v, given, denotes, read⟩
    · rw [(slots s hs).2, Option.toList_eq_nil_iff] at missing
      have absent := ((s.wire.write_eq_none_iff (slots s hs).1).mp missing).2
      rw [blank, L.get_blank s hs, absent]
    · rw [(slots s hs).2, Option.toList_eq_singleton_iff] at given
      exact Except.ok.inj (read.symm.trans (complete hs given denotes))
  exact ofMembers_eq_ok_iff.mpr ⟨seen, same ▸ hr, all_there⟩

end Layout

end RealmKeeper.Json
