import RealmKeeper.Json.Basic
import Mathlib.Data.List.Forall2
import Mathlib.Data.List.Induction
import Mathlib.Tactic.Common

/-!
# The members of objects

What the members of an object say about a name, and the values that trees denote.

* `valuesOf`: all values that members give to a name, in order;
* `Dict.get?_ofMembers`: a dictionary keeps the last of them, `Dict.ext_get?`: a dictionary is what
  it says about every name;
* `canonical_object`: the canonical form of an object is the dictionary of its members, and
  `canonical_of_isCanonical`: a canonical value is its own canonical form;
* `ValueTree.Denotes`: a tree without marks denotes its value.
-/

namespace RealmKeeper.Json

/-! ### Values of a name -/

section valuesOf

variable {α β : Type} {name : String} {members : List (String × α)}

/-- **The values that members give to a name**, in order. -/
def valuesOf (name : String) (members : List (String × α)) : List α :=
  members.filterMap fun m => if m.1 = name then some m.2 else none

@[simp] theorem valuesOf_nil : valuesOf name ([] : List (String × α)) = [] := rfl

@[simp] theorem valuesOf_cons_self (value : α) :
    valuesOf name ((name, value) :: members) = value :: valuesOf name members := by
  simp [valuesOf]

theorem valuesOf_cons_of_ne {other : String} (h : other ≠ name) (value : α) :
    valuesOf name ((other, value) :: members) = valuesOf name members := by
  simp [valuesOf, h]

@[simp] theorem valuesOf_append (more : List (String × α)) :
    valuesOf name (members ++ more) = valuesOf name members ++ valuesOf name more :=
  List.filterMap_append

theorem mem_valuesOf {value : α} : value ∈ valuesOf name members ↔ (name, value) ∈ members := by
  unfold valuesOf
  rw [List.mem_filterMap]
  constructor
  · rintro ⟨⟨other, v⟩, hm, hv⟩
    obtain ⟨hn, hv⟩ := Option.ite_none_right_eq_some.mp hv
    obtain rfl : v = value := Option.some.inj hv
    exact hn ▸ hm
  · exact fun hm => ⟨_, hm, if_pos rfl⟩

theorem valuesOf_eq_nil_iff : valuesOf name members = [] ↔ name ∉ members.map Prod.fst := by
  induction members with
  | nil => simp
  | cons head rest ih =>
    obtain ⟨other, value⟩ := head
    by_cases h : other = name
    · subst h
      simp
    · rw [valuesOf_cons_of_ne h, ih]
      simp [Ne.symm h]

theorem valuesOf_filter (keeps : String → Bool) :
    valuesOf name (members.filter fun m => keeps m.1) =
      if keeps name then valuesOf name members else [] := by
  induction members with
  | nil => simp
  | cons head rest ih =>
    obtain ⟨other, value⟩ := head
    by_cases hk : keeps other = true
    · rw [List.filter_cons_of_pos (by simpa using hk)]
      by_cases h : other = name
      · subst h
        rw [valuesOf_cons_self, valuesOf_cons_self, ih, if_pos hk, if_pos hk]
      · rw [valuesOf_cons_of_ne h, valuesOf_cons_of_ne h, ih]
    · rw [List.filter_cons_of_neg (by simpa using hk), ih]
      by_cases h : other = name
      · subst h
        rw [if_neg hk, if_neg hk]
      · rw [valuesOf_cons_of_ne h]

theorem lookup_eq_head? : lookup name members = (valuesOf name members).head? := by
  induction members with
  | nil => rfl
  | cons head rest ih =>
    obtain ⟨other, value⟩ := head
    by_cases h : other = name
    · subst h
      simp [lookup]
    · rw [valuesOf_cons_of_ne h, ← ih]
      simp [lookup, Ne.symm h]

theorem lookup_append (more : List (String × α)) :
    lookup name (members ++ more) = (lookup name members).or (lookup name more) := by
  rw [lookup_eq_head?, lookup_eq_head?, lookup_eq_head?, valuesOf_append, List.head?_append]

theorem SortedNames.valuesOf_eq (h : SortedNames members) :
    valuesOf name members = (lookup name members).toList := by
  induction members with
  | nil => rfl
  | cons head rest ih =>
    obtain ⟨other, value⟩ := head
    obtain ⟨hhead, hrest⟩ := List.pairwise_cons.mp h
    by_cases hn : other = name
    · subst hn
      have none_left : valuesOf other rest = [] := by
        rw [valuesOf_eq_nil_iff, List.mem_map]
        rintro ⟨m, hm, he⟩
        exact String.lt_irrefl _ (he ▸ hhead m hm)
      simp [lookup, none_left]
    · rw [valuesOf_cons_of_ne hn, ih hrest]
      simp [lookup, Ne.symm hn]

theorem lookup_insertMember (name other : String) (value : α) (members : List (String × α)) :
    lookup other (insertMember name value members) =
      if other = name then some value else lookup other members := by
  induction members with
  | nil => simp [insertMember, lookup]
  | cons head rest ih =>
    obtain ⟨n, v⟩ := head
    unfold insertMember
    by_cases hn : name = n
    · subst hn
      rw [if_pos rfl]
      by_cases ho : other = name <;> simp [lookup, ho]
    · rw [if_neg hn]
      by_cases hlt : name < n
      · rw [if_pos hlt]
        simp [lookup]
      · rw [if_neg hlt, lookup, lookup, ih]
        by_cases ho : other = n
        · subst ho
          rw [if_pos rfl, if_pos rfl, if_neg (Ne.symm hn)]
        · rw [if_neg ho, if_neg ho]

theorem lookup_eq_none_of_lt {name : String} {members : List (String × α)}
    (h : ∀ m ∈ members, name < m.1) : lookup name members = none := by
  rw [lookup_eq_head?, valuesOf_eq_nil_iff.mpr, List.head?_nil]
  rw [List.mem_map]
  rintro ⟨m, hm, he⟩
  exact String.lt_irrefl _ (he ▸ h m hm)

theorem SortedNames.not_lt_of_lookup {n n' : String} {v v' : α} {rest rest' : List (String × α)}
    (hr : SortedNames ((n', v') :: rest'))
    (h : lookup n ((n, v) :: rest) = lookup n ((n', v') :: rest')) : ¬ n < n' := by
  intro hlt
  have absent : lookup n ((n', v') :: rest') = none := by
    refine lookup_eq_none_of_lt fun m hm => ?_
    rcases List.mem_cons.mp hm with rfl | hm
    · exact hlt
    · exact String.lt_trans hlt ((List.pairwise_cons.mp hr).1 m hm)
  rw [absent] at h
  simp [lookup] at h

/-- **Sorted members are what they say about every name.** -/
theorem SortedNames.eq_of_lookup {left right : List (String × α)} (hl : SortedNames left)
    (hr : SortedNames right) (h : ∀ name, lookup name left = lookup name right) : left = right := by
  induction left generalizing right with
  | nil =>
    cases right with
    | nil => rfl
    | cons head rest => simpa [lookup] using h head.1
  | cons head rest ih =>
    obtain ⟨n, v⟩ := head
    cases right with
    | nil => simpa [lookup] using h n
    | cons head' rest' =>
      obtain ⟨n', v'⟩ := head'
      -- the least name on each side has a value on the other side only if the names are the same
      have hle : ¬ n < n' := hr.not_lt_of_lookup (h n)
      have hge : ¬ n' < n := hl.not_lt_of_lookup (h n').symm
      obtain rfl : n = n' := String.le_antisymm (String.not_lt.mp hge) (String.not_lt.mp hle)
      have hv := h n
      simp only [lookup, if_true, Option.some.injEq] at hv
      subst hv
      obtain ⟨hn, hrest⟩ := List.pairwise_cons.mp hl
      obtain ⟨hn', hrest'⟩ := List.pairwise_cons.mp hr
      rw [ih hrest hrest' fun name => ?_]
      by_cases he : name = n
      · subst he
        rw [lookup_eq_none_of_lt hn, lookup_eq_none_of_lt hn']
      · simpa [lookup, he] using h name

end valuesOf

/-! ### Dictionaries -/

namespace Dict

theorem get?_insert (d : Dict) (name other : String) (value : Json) :
    (d.insert name value).get? other =
      if other = name then some (Json.canonical value) else d.get? other :=
  lookup_insertMember name other (Json.canonical value) d.members

theorem ofMembers_concat (members : List (String × Json)) (m : String × Json) :
    ofMembers (members ++ [m]) = (ofMembers members).insert m.1 m.2 := by
  simp [ofMembers]

/-- **A dictionary keeps the last value** of every name, in its canonical form. -/
theorem get?_ofMembers (name : String) (members : List (String × Json)) :
    (ofMembers members).get? name = (valuesOf name members).getLast?.map Json.canonical := by
  induction members using List.reverseRecOn with
  | nil => rfl
  | append_singleton rest m ih =>
    obtain ⟨other, value⟩ := m
    rw [ofMembers_concat, get?_insert, valuesOf_append]
    by_cases h : other = name
    · subst h
      simp
    · rw [if_neg (Ne.symm h), ih, valuesOf_cons_of_ne h, valuesOf_nil, List.append_nil]

/-- **A dictionary is what it says about every name.** -/
theorem ext_get? {d e : Dict} (h : ∀ name, d.get? name = e.get? name) : d = e := by
  obtain ⟨members, sorted, canonical⟩ := d
  obtain ⟨members', sorted', canonical'⟩ := e
  obtain rfl : members = members' := sorted.eq_of_lookup sorted' h
  rfl

theorem valuesOf_members (d : Dict) (name : String) :
    valuesOf name d.members = (d.get? name).toList :=
  d.sorted.valuesOf_eq

theorem get?_eq_none_iff {d : Dict} {name : String} : d.get? name = none ↔ name ∉ d.names := by
  rw [names, ← valuesOf_eq_nil_iff, valuesOf_members]
  cases d.get? name <;> simp

theorem nodup_names (d : Dict) : d.names.Nodup := by
  rw [names, List.Nodup, List.pairwise_map]
  refine d.sorted.imp fun {m m'} hlt => ?_
  rintro (he : m.1 = m'.1)
  exact String.lt_irrefl _ (he ▸ hlt)

/-- None of these names has a value. -/
def Avoids (d : Dict) (names : List String) : Prop :=
  ∀ name ∈ names, name ∉ d.names

instance (d : Dict) (names : List String) : Decidable (d.Avoids names) :=
  inferInstanceAs (Decidable (∀ name ∈ names, name ∉ d.names))

theorem Avoids.mono {d : Dict} {names more : List String} (h : d.Avoids more)
    (sub : names ⊆ more) : d.Avoids names :=
  fun name hn => h name (sub hn)

theorem Avoids.get?_eq_none {d : Dict} {names : List String} (h : d.Avoids names) {name : String}
    (hn : name ∈ names) : d.get? name = none :=
  Dict.get?_eq_none_iff.mpr (h name hn)

end Dict

/-! ### Canonical forms -/

theorem canonicalMembers_eq (members : List (String × Json)) (d : Dict) :
    canonicalMembers members d.members =
      (members.foldl (fun d m => d.insert m.1 m.2) d).members := by
  induction members generalizing d with
  | nil => rfl
  | cons head rest ih =>
    obtain ⟨name, value⟩ := head
    exact ih (d.insert name value)

/-- **The canonical form of an object** is the dictionary of its members. -/
theorem canonical_object (members : List (String × Json)) :
    canonical (.object members) = (Dict.ofMembers members).toJson := by
  rw [canonical]
  exact congrArg ValueTree.object (canonicalMembers_eq members Dict.empty)

theorem members_ofMembers {members : List (String × Json)} (sorted : SortedNames members)
    (values : ∀ m ∈ members, canonical m.2 = m.2) : (Dict.ofMembers members).members = members := by
  refine (Dict.ofMembers members).sorted.eq_of_lookup sorted fun name => ?_
  have hg := Dict.get?_ofMembers name members
  rw [sorted.valuesOf_eq] at hg
  rw [show lookup name (Dict.ofMembers members).members = _ from hg]
  cases hl : lookup name members with
  | none => rfl
  | some value =>
    have hm : value ∈ valuesOf name members := by
      rw [sorted.valuesOf_eq, hl]
      exact List.mem_singleton_self value
    exact congrArg some (values _ (mem_valuesOf.mp hm))

mutual

/-- **A canonical value is its own canonical form.** -/
theorem canonical_of_isCanonical : (v : Json) → isCanonical v = true → canonical v = v
  | .null, _ | .bool _, _ | .number _, _ | .string _, _ => rfl
  | .array items, h => by
    simp only [isCanonical] at h
    rw [canonical, canonicalItems_of_areCanonical items h]
    rfl
  | .object members, h => by
    simp only [isCanonical, Bool.and_eq_true, decide_eq_true_eq] at h
    rw [canonical_object]
    exact congrArg ValueTree.object
      (members_ofMembers h.1 (canonicalMembers_of_areCanonical members h.2))

theorem canonicalItems_of_areCanonical : (items : List Json) → areCanonicalItems items = true →
    ∀ {done : List Json}, canonicalItems items done = done.reverse ++ items
  | [], _, done => by simp [canonicalItems]
  | v :: rest, h, done => by
    simp only [areCanonicalItems, Bool.and_eq_true] at h
    rw [canonicalItems, canonical_of_isCanonical v h.1, canonicalItems_of_areCanonical rest h.2]
    simp

theorem canonicalMembers_of_areCanonical : (members : List (String × Json)) →
    areCanonicalMembers members = true → ∀ m ∈ members, canonical m.2 = m.2
  | [], _ => by simp
  | (_, v) :: rest, h => by
    simp only [areCanonicalMembers, Bool.and_eq_true] at h
    rintro m hm
    rcases List.mem_cons.mp hm with rfl | hm
    · exact canonical_of_isCanonical v h.1
    · exact canonicalMembers_of_areCanonical rest h.2 m hm

end

theorem Dict.canonical_get? {d : Dict} {name : String} {value : Json}
    (h : d.get? name = some value) : Json.canonical value = value := by
  have hm : value ∈ valuesOf name d.members := by
    rw [d.valuesOf_members, h]
    exact List.mem_singleton_self value
  exact canonical_of_isCanonical value (d.canonical _ (mem_valuesOf.mp hm))

theorem last_toList {value : Option Json} (h : ∀ v ∈ value, canonical v = v) :
    value.toList.getLast?.map canonical = value := by
  cases value with
  | none => rfl
  | some v => exact congrArg some (h v rfl)

theorem canonical_array {items : List Json} (h : ∀ v ∈ items, canonical v = v) :
    canonical (.array items) = .array items := by
  have gathered : ∀ done, canonicalItems items done = done.reverse ++ items := by
    induction items with
    | nil => simp [canonicalItems]
    | cons v rest ih =>
      intro done
      rw [canonicalItems, h v List.mem_cons_self,
        ih (fun w hw => h w (List.mem_cons_of_mem _ hw))]
      simp
  rw [canonical, gathered []]
  rfl

/-! ### What trees denote -/

section Denotes

variable {φ : Type}

/-- **A tree denotes a value**: it has no mark, and this is its value, members as they are
written. -/
def ValueTree.Denotes (t : ValueTree φ) (v : Json) : Prop :=
  t.value? = some v

/-- Members denote members: the same names, and the trees denote the values. -/
def DenoteMembers (trees : List (String × ValueTree φ)) (members : List (String × Json)) : Prop :=
  List.Forall₂ (fun t m => t.1 = m.1 ∧ t.2.Denotes m.2) trees members

theorem denotes_iff {t : ValueTree φ} {v : Json} :
    t.Denotes v ↔ t.isClean = true ∧ t.unmarked = v := by
  unfold ValueTree.Denotes ValueTree.value?
  cases t.isClean <;> simp

theorem unmarkedItems_eq (items : List (ValueTree φ)) (done : List Json) :
    ValueTree.unmarkedItems items done = done.reverse ++ items.map ValueTree.unmarked := by
  induction items generalizing done with
  | nil => simp [ValueTree.unmarkedItems]
  | cons t rest ih =>
    rw [ValueTree.unmarkedItems, ih]
    simp

theorem unmarkedMembers_eq (members : List (String × ValueTree φ)) (done : List (String × Json)) :
    ValueTree.unmarkedMembers members done =
      done.reverse ++ members.map fun m => (m.1, m.2.unmarked) := by
  induction members generalizing done with
  | nil => simp [ValueTree.unmarkedMembers]
  | cons head rest ih =>
    obtain ⟨name, t⟩ := head
    rw [ValueTree.unmarkedMembers, ih]
    simp

theorem denotes_string {t : ValueTree φ} {s : String} : t.Denotes (.string s) ↔ t = .string s := by
  rw [denotes_iff]
  cases t <;> simp [ValueTree.isClean, ValueTree.unmarked]

theorem denotes_number {t : ValueTree φ} {n : Numeral} : t.Denotes (.number n) ↔ t = .number n := by
  rw [denotes_iff]
  cases t <;> simp [ValueTree.isClean, ValueTree.unmarked]

theorem denotes_null {t : ValueTree φ} : t.Denotes .null ↔ t = .null := by
  rw [denotes_iff]
  cases t <;> simp [ValueTree.isClean, ValueTree.unmarked]

theorem denotes_array {t : ValueTree φ} {values : List Json} :
    t.Denotes (.array values) ↔
      ∃ items, t = .array items ∧ List.Forall₂ ValueTree.Denotes items values := by
  have items_iff : ∀ (items : List (ValueTree φ)) (values : List Json),
      (ValueTree.areCleanItems items = true ∧ items.map ValueTree.unmarked = values) ↔
        List.Forall₂ ValueTree.Denotes items values := by
    intro items
    induction items with
    | nil => intro values; cases values <;> simp [ValueTree.areCleanItems]
    | cons t rest ih =>
      intro values
      cases values with
      | nil => simp
      | cons v values =>
        rw [List.forall₂_cons, ← ih values, denotes_iff]
        simp only [ValueTree.areCleanItems, Bool.and_eq_true, List.map_cons, List.cons.injEq]
        tauto
  rw [denotes_iff]
  cases t with
  | array items =>
    simp only [ValueTree.isClean, ValueTree.unmarked, unmarkedItems_eq, List.reverse_nil,
      List.nil_append, ValueTree.array.injEq, items_iff]
    constructor
    · exact fun h => ⟨items, rfl, h⟩
    · rintro ⟨items', rfl, h⟩
      exact h
  | _ => simp [ValueTree.isClean, ValueTree.unmarked]

theorem denotes_object {t : ValueTree φ} {members : List (String × Json)} :
    t.Denotes (.object members) ↔ ∃ trees, t = .object trees ∧ DenoteMembers trees members := by
  have members_iff : ∀ (trees : List (String × ValueTree φ)) (members : List (String × Json)),
      (ValueTree.areCleanMembers trees = true ∧
        (trees.map fun m => (m.1, m.2.unmarked)) = members) ↔ DenoteMembers trees members := by
    intro trees
    induction trees with
    | nil => intro members; cases members <;> simp [ValueTree.areCleanMembers, DenoteMembers]
    | cons head rest ih =>
      intro members
      cases members with
      | nil => simp [DenoteMembers]
      | cons m members =>
        obtain ⟨name, t⟩ := head
        obtain ⟨name', v⟩ := m
        rw [DenoteMembers, List.forall₂_cons, ← DenoteMembers, ← ih members, denotes_iff]
        simp only [ValueTree.areCleanMembers, Bool.and_eq_true, List.map_cons, List.cons.injEq,
          Prod.mk.injEq]
        tauto
  rw [denotes_iff]
  cases t with
  | object trees =>
    simp only [ValueTree.isClean, ValueTree.unmarked, unmarkedMembers_eq, List.reverse_nil,
      List.nil_append, ValueTree.object.injEq, members_iff]
    constructor
    · exact fun h => ⟨trees, rfl, h⟩
    · rintro ⟨trees', rfl, h⟩
      exact h
  | _ => simp [ValueTree.isClean, ValueTree.unmarked]

theorem denoteMembers_unique {trees : List (String × ValueTree φ)}
    {left right : List (String × Json)}
    (hl : DenoteMembers trees left) (hr : DenoteMembers trees right) : left = right := by
  have same := (denotes_object.mpr ⟨trees, rfl, hl⟩).symm.trans
    (denotes_object.mpr ⟨trees, rfl, hr⟩)
  exact ValueTree.object.inj (Option.some.inj same)

end Denotes

mutual

theorem denotes_self : (v : Json) → v.Denotes v
  | .null | .bool _ | .number _ | .string _ => rfl
  | .array items => denotes_array.mpr ⟨items, rfl, denotes_self_items items⟩
  | .object members => denotes_object.mpr ⟨members, rfl, denotes_self_members members⟩

theorem denotes_self_items : (items : List Json) → List.Forall₂ ValueTree.Denotes items items
  | [] => .nil
  | v :: rest => .cons (denotes_self v) (denotes_self_items rest)

theorem denotes_self_members : (members : List (String × Json)) → DenoteMembers members members
  | [] => .nil
  | (_, v) :: rest => .cons ⟨rfl, denotes_self v⟩ (denotes_self_members rest)

end

end RealmKeeper.Json
