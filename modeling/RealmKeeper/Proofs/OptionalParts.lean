import RealmKeeper.Json.Decode
import RealmKeeper.Proofs.Results
import Mathlib.Tactic.Common

/-!
# Optional parts of records

When a record that was read lacks a part, and what the document said there.

* `ValueTree.Lacks`: a document says nothing, or `null`, where a part would stand;
* `Field.Fills` and `Field.Spares`: what a field does to the part;
* `Shape.read_part_eq_none_iff`: the part is absent exactly when the document lacks it.
-/

namespace RealmKeeper.Json

variable {φ σ α : Type}

/-- **The document lacks a part.** An object has no member of its name, or `null` there; an array
has no item at its place, or `null` there. -/
def ValueTree.Lacks (name : String) (index : Nat) : ValueTree φ → Prop
  | .object members => ∀ t, (name, t) ∈ members → t = .null
  | .array items => ∀ t, items[index]? = some t → t = .null
  | _ => True

/-- The field gives the part, or takes it away when it reads `null`. -/
def Field.Fills (field : Field φ σ) (part : σ → Option α) : Prop :=
  ∀ t put, field.read t = .ok put → ∀ record, part (put record) = none ↔ t = .null

/-- The field leaves the part as it is. -/
def Field.Spares (field : Field φ σ) (part : σ → Option α) : Prop :=
  ∀ t put, field.read t = .ok put → ∀ record, part (put record) = part record

/-! ### Fields -/

section Fields

variable {β : Type} {read : ValueTree φ → Decoded β} {put : β → σ → σ} {part : σ → Option α}

theorem readOption_eq_none_iff {t : ValueTree φ} {v : Option β}
    (h : readOption read t = .ok v) : v = none ↔ t = .null := by
  constructor
  · rintro rfl
    by_contra written
    have hr : (read t).map some = .ok none := by
      cases t <;> first | exact absurd rfl written | exact h
    obtain ⟨b, -, hb⟩ := exists_of_map_eq_ok hr
    cases hb
  · rintro rfl
    injection h with h
    exact h.symm

theorem Field.fills_of {read : ValueTree φ → Decoded α} {put : Option α → σ → σ} {name : String}
    {required : Bool} (own : ∀ v record, part (put v record) = v) :
    (Field.of name required (readOption read) put).Fills part := by
  intro t f h record
  obtain ⟨v, hv, rfl⟩ := exists_of_map_eq_ok h
  rw [own]
  exact readOption_eq_none_iff hv

theorem Field.spares_of {name own : String} {required : Bool} (unnamed : name ≠ own)
    (other : ∀ v record, part (put v record) = part record) :
    (Field.of name required read put).Spares part ∧
      (Field.of name required read put).name ≠ own := by
  refine ⟨?_, unnamed⟩
  intro t f h record
  obtain ⟨v, -, rfl⟩ := exists_of_map_eq_ok h
  exact other v record

end Fields

theorem within_eq_ok {place : PathStep} {x : Decoded α} {a : α} (h : within place x = .ok a) :
    x = .ok a := by
  cases x with
  | error r => cases h
  | ok b => exact h

/-! ### Records -/

namespace Shape

variable {shape : Shape φ σ} {part : σ → Option α} {name : String}
  {before after : List (Field φ σ)} {field : Field φ σ}

theorem readItems_spares {fields : List (Field φ σ)} (spared : ∀ f ∈ fields, f.Spares part)
    {index : Nat} {items rest : List (ValueTree φ)} {start finish : σ}
    (h : shape.readItems index fields items start = .ok (rest, finish)) :
    part finish = part start := by
  induction fields generalizing index items start with
  | nil =>
    rw [readItems] at h
    injection h with h
    injection h with _ h
    rw [h]
  | cons f fields ih =>
    have later := fun g hg => spared g (List.mem_cons_of_mem f hg)
    cases items with
    | nil =>
      rw [readItems] at h
      split at h
      · cases h
      · exact ih later h
    | cons t items =>
      rw [readItems] at h
      split at h
      · next put hput =>
        rw [ih later h]
        exact spared f List.mem_cons_self t put (within_eq_ok hput) start
      · cases h

theorem readItems_fills (earlier : ∀ f ∈ before, f.Spares part) (fills : field.Fills part)
    (later : ∀ f ∈ after, f.Spares part) {index : Nat} {items rest : List (ValueTree φ)}
    {start finish : σ} (blank : part start = none)
    (h : shape.readItems index (before ++ field :: after) items start = .ok (rest, finish)) :
    part finish = none ↔ ∀ t, items[before.length]? = some t → t = .null := by
  induction before generalizing index items start with
  | nil =>
    cases items with
    | nil =>
      have hf : part finish = part start := by
        rw [List.nil_append, readItems] at h
        split at h
        · cases h
        · exact readItems_spares later h
      simp [hf, blank]
    | cons t items =>
      rw [List.nil_append, readItems] at h
      split at h
      · next put hput =>
        rw [readItems_spares later h, fills t put (within_eq_ok hput) start]
        simp
      · cases h
  | cons f before ih =>
    have earlier' := fun g hg => earlier g (List.mem_cons_of_mem f hg)
    cases items with
    | nil =>
      rw [List.cons_append, readItems] at h
      split at h
      · cases h
      · simpa using ih earlier' blank h
    | cons t items =>
      rw [List.cons_append, readItems] at h
      split at h
      · next put hput =>
        have spared := earlier f List.mem_cons_self t put (within_eq_ok hput) start
        simpa using ih earlier' (spared.trans blank) h
      · cases h

variable [Medium φ]

/-- The member with the name of a field decides on its part. Until it comes the part is absent, and
it comes only once. -/
theorem readMembers_fills
    (mine : ∀ f ∈ shape.fields, f.name = name → f.Fills part)
    (others : ∀ f ∈ shape.fields, f.name ≠ name → f.Spares part)
    (known : ∃ f ∈ shape.fields, f.name = name)
    {members : List (String × ValueTree φ)} {seen last : List String} {start finish : σ}
    (blank : name ∉ seen → part start = none)
    (h : shape.readMembers ignore members seen start = .ok (last, finish)) :
    part finish = none ↔ part start = none ∧ ∀ t, (name, t) ∈ members → t = .null := by
  induction members generalizing seen start with
  | nil =>
    rw [readMembers] at h
    injection h with h
    injection h with _ h
    simp [h]
  | cons member members ih =>
    obtain ⟨key, t⟩ := member
    rw [readMembers] at h
    split at h
    · next f hf =>
      have hmem : f ∈ shape.fields := List.mem_of_find?_eq_some hf
      have hname : f.name = key := by simpa using List.find?_some hf
      split at h
      · cases h
      · next fresh =>
        split at h
        · next put hput =>
          have hread := within_eq_ok hput
          -- a name that is read has been seen from here on, and no later member may have it
          by_cases own : key = name
          · have filled := mine f hmem (hname.trans own) t put hread start
            subst own
            rw [ih (fun unseen => absurd List.mem_cons_self unseen) h, filled]
            simp [blank fresh]
          · have spared := others f hmem (hname.trans_ne own) t put hread start
            have unnamed : name ≠ key := fun e => own e.symm
            rw [ih (fun unseen => spared.trans (blank fun old => unseen (.tail _ old))) h, spared]
            simp [unnamed]
        · cases h
    · next hf =>
      have unnamed : name ≠ key := by
        rintro rfl
        obtain ⟨f, hmem, hname⟩ := known
        simpa [hname] using List.find?_eq_none.mp hf f hmem
      split at h
      · next record hskip =>
        obtain ⟨-, -, rfl⟩ := exists_of_map_eq_ok (within_eq_ok hskip)
        rw [ih blank h]
        simp [unnamed]
      · cases h

/-- **A part is absent from a record exactly when its document lacks it.** -/
theorem read_part_eq_none_iff (part : σ → Option α) (name : String)
    (before after : List (Field φ σ)) (fields : shape.fields = before ++ field :: after)
    (named : field.name = name) (fills : field.Fills part)
    (spares : ∀ f ∈ before ++ after, f.Spares part ∧ f.name ≠ name) {blank record : σ}
    (absent : part blank = none) {t : ValueTree φ} (h : shape.read blank t = .ok record) :
    part record = none ↔ t.Lacks name before.length := by
  have earlier : ∀ f ∈ before, f.Spares part := fun f hf =>
    (spares f (List.mem_append_left _ hf)).1
  have later : ∀ f ∈ after, f.Spares part := fun f hf =>
    (spares f (List.mem_append_right _ hf)).1
  have other : ∀ f ∈ shape.fields, f = field ∨ f ∈ before ++ after := by
    intro f hf
    rw [fields] at hf
    simp only [List.mem_append, List.mem_cons] at hf ⊢
    tauto
  have mine : ∀ f ∈ shape.fields, f.name = name → f.Fills part := by
    intro f hf hname
    rcases other f hf with rfl | hf
    · exact fills
    · exact absurd hname (spares f hf).2
  have others : ∀ f ∈ shape.fields, f.name ≠ name → f.Spares part := by
    intro f hf hname
    rcases other f hf with rfl | hf
    · exact absurd named hname
    · exact (spares f hf).1
  have known : ∃ f ∈ shape.fields, f.name = name :=
    ⟨field, by simp [fields], named⟩
  -- an object knows the field by its name, an array by its place
  cases t with
  | object members =>
    rw [read, ofMembers] at h
    split at h
    · cases h
    · next last finish hr =>
      split at h
      · cases h
      · injection h with h
        subst h
        rw [readMembers_fills mine others known (fun _ => absent) hr]
        simp [absent, ValueTree.Lacks]
  | array items =>
    rw [read, ofItems] at h
    split at h
    · cases h
    · next hr =>
      injection h with h
      subst h
      rw [fields] at hr
      exact readItems_fills earlier fills later absent hr
    · split_ifs at h
      all_goals cases h
  | _ => cases h

end Shape

end RealmKeeper.Json
