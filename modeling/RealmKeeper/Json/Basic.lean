import RealmKeeper.Json.Numeral

/-!
# JSON trees

* `ValueTree φ`: JSON values, with marks of type `φ` where a text could not be read;
* `Json`: the trees without marks;
* `Json.canonical`: the same value with the members of every object sorted by name, the last of
  several with one name kept;
* `Dict`: the members of a canonical object.
-/

namespace RealmKeeper

namespace Json

/-- A JSON value in which a part may be `unreadable`. An object is the list of its members as they
were written, repetitions included. -/
inductive ValueTree (φ : Type) where
  | null
  | bool (value : Bool)
  | number (value : Numeral)
  | string (value : String)
  | array (items : List (ValueTree φ))
  | object (members : List (String × ValueTree φ))
  | unreadable (fault : φ)
deriving Inhabited

end Json

/-- **A JSON value.** -/
abbrev Json : Type := Json.ValueTree Empty

namespace Json

/-- A value as far as an error names it. -/
inductive Found where
  | null
  | boolean (value : Bool)
  | integer (value : Int)
  | float (value : Number.Binary64)
  | string (value : String)
  | sequence
  | map
deriving DecidableEq

/-- What an error names a number. -/
def Numeral.found : Numeral → Found
  | .integer n _ => .integer n
  | .float x => .float x

/-- An integer as a JSON value. -/
def ofInt (n : Int) (h : Exact n := by decide) : Json :=
  .number (.integer n h)

/-! ### Members in order -/

/-- The names of the members increase strictly. -/
def SortedNames {α : Type} (members : List (String × α)) : Prop :=
  members.Pairwise fun a b => a.1 < b.1

instance {α : Type} (members : List (String × α)) : Decidable (SortedNames members) := by
  unfold SortedNames; infer_instance

/-- Puts a member in its place; a member of the same name is replaced. -/
def insertMember {α : Type} (name : String) (value : α) : List (String × α) → List (String × α)
  | [] => [(name, value)]
  | (n, v) :: rest =>
    if name = n then (name, value) :: rest
    else if name < n then (name, value) :: (n, v) :: rest
    else (n, v) :: insertMember name value rest

/-- The value of the member with the given name. -/
def lookup {α : Type} (name : String) : List (String × α) → Option α
  | [] => none
  | (n, v) :: rest => if name = n then some v else lookup name rest

/-! ### Canonical values -/

mutual

/-- The tree has no mark. -/
def ValueTree.isClean {φ : Type} : ValueTree φ → Bool
  | .array items => ValueTree.areCleanItems items
  | .object members => ValueTree.areCleanMembers members
  | .unreadable _ => false
  | _ => true

def ValueTree.areCleanItems {φ : Type} : List (ValueTree φ) → Bool
  | [] => true
  | t :: rest => t.isClean && ValueTree.areCleanItems rest

def ValueTree.areCleanMembers {φ : Type} : List (String × ValueTree φ) → Bool
  | [] => true
  | (_, t) :: rest => t.isClean && ValueTree.areCleanMembers rest

end

mutual

/-- The tree with its members as they are; a mark becomes `null`. -/
def ValueTree.unmarked {φ : Type} : ValueTree φ → Json
  | .null => .null
  | .bool b => .bool b
  | .number n => .number n
  | .string s => .string s
  | .array items => .array (ValueTree.unmarkedItems items [])
  | .object members => .object (ValueTree.unmarkedMembers members [])
  | .unreadable _ => .null

def ValueTree.unmarkedItems {φ : Type} : List (ValueTree φ) → List Json → List Json
  | [], done => done.reverse
  | t :: rest, done => ValueTree.unmarkedItems rest (t.unmarked :: done)

def ValueTree.unmarkedMembers {φ : Type} :
    List (String × ValueTree φ) → List (String × Json) → List (String × Json)
  | [], done => done.reverse
  | (name, t) :: rest, done => ValueTree.unmarkedMembers rest ((name, t.unmarked) :: done)

end

mutual

/-- **The canonical form of a value**: the members of every object are sorted by name, and of
several with one name the last is kept. -/
def canonical : Json → Json
  | .null => .null
  | .bool b => .bool b
  | .number n => .number n
  | .string s => .string s
  | .array items => .array (canonicalItems items [])
  | .object members => .object (canonicalMembers members [])

def canonicalItems : List Json → List Json → List Json
  | [], done => done.reverse
  | v :: rest, done => canonicalItems rest (canonical v :: done)

def canonicalMembers : List (String × Json) → List (String × Json) → List (String × Json)
  | [], done => done
  | (name, v) :: rest, done => canonicalMembers rest (insertMember name (canonical v) done)

end

mutual

/-- The members of every object in the value are sorted by name, without repetition. -/
def isCanonical : Json → Bool
  | .array items => areCanonicalItems items
  | .object members => decide (SortedNames members) && areCanonicalMembers members
  | _ => true

def areCanonicalItems : List Json → Bool
  | [] => true
  | v :: rest => isCanonical v && areCanonicalItems rest

def areCanonicalMembers : List (String × Json) → Bool
  | [] => true
  | (_, v) :: rest => isCanonical v && areCanonicalMembers rest

end

/-- The tree as a value, members as they are written; `none` if it has a mark. -/
def ValueTree.value? {φ : Type} (t : ValueTree φ) : Option Json :=
  if t.isClean then some t.unmarked else none

/-! ### What putting a member in its place does -/

section insertMember

variable {α : Type}

theorem mem_insertMember {name : String} {value : α} {members : List (String × α)}
    {m : String × α} (h : m ∈ insertMember name value members) :
    m = (name, value) ∨ m ∈ members := by
  induction members with
  | nil => simpa [insertMember] using h
  | cons head rest ih =>
    obtain ⟨n, v⟩ := head
    simp only [insertMember] at h
    split at h
    · rcases List.mem_cons.mp h with h | h
      · exact .inl h
      · exact .inr (List.mem_cons_of_mem _ h)
    · split at h
      · rcases List.mem_cons.mp h with h | h
        · exact .inl h
        · exact .inr h
      · rcases List.mem_cons.mp h with h | h
        · exact .inr (h ▸ List.mem_cons_self)
        · rcases ih h with h | h
          · exact .inl h
          · exact .inr (List.mem_cons_of_mem _ h)

/-- **Order is kept.** -/
theorem SortedNames.insertMember {name : String} {value : α} {members : List (String × α)}
    (h : SortedNames members) : SortedNames (Json.insertMember name value members) := by
  induction members with
  | nil => simp [Json.insertMember, SortedNames]
  | cons head rest ih =>
    obtain ⟨n, v⟩ := head
    obtain ⟨hhead, hrest⟩ := List.pairwise_cons.mp h
    simp only [Json.insertMember]
    split
    · rename_i hn
      subst hn
      exact List.pairwise_cons.mpr ⟨hhead, hrest⟩
    · split
      · rename_i hlt
        refine List.pairwise_cons.mpr ⟨fun m hm => ?_, h⟩
        rcases List.mem_cons.mp hm with rfl | hm
        · exact hlt
        · exact String.lt_trans hlt (hhead m hm)
      · rename_i hne hlt
        refine List.pairwise_cons.mpr ⟨fun m hm => ?_, ih hrest⟩
        rcases mem_insertMember hm with rfl | hm
        · exact Std.lt_of_le_of_ne (String.not_lt.mp hlt) (Ne.symm hne)
        · exact hhead m hm

end insertMember

theorem areCanonicalMembers_iff {members : List (String × Json)} :
    areCanonicalMembers members = true ↔ ∀ m ∈ members, isCanonical m.2 = true := by
  induction members with
  | nil => simp [areCanonicalMembers]
  | cons head rest ih => simp [areCanonicalMembers, ih]

theorem areCanonicalItems_iff {items : List Json} :
    areCanonicalItems items = true ↔ ∀ v ∈ items, isCanonical v = true := by
  induction items with
  | nil => simp [areCanonicalItems]
  | cons head rest ih => simp [areCanonicalItems, ih]

mutual

/-- **The canonical form is canonical.** -/
theorem isCanonical_canonical : (v : Json) → isCanonical (canonical v) = true
  | .null | .bool _ | .number _ | .string _ => rfl
  | .array items => by
    simp only [canonical, isCanonical]
    exact areCanonicalItems_canonicalItems items [] rfl
  | .object members => by
    simp only [canonical, isCanonical, Bool.and_eq_true, decide_eq_true_eq]
    exact canonicalMembers_canonical members [] List.Pairwise.nil rfl

theorem areCanonicalItems_canonicalItems : (items done : List Json) →
    areCanonicalItems done = true → areCanonicalItems (canonicalItems items done) = true
  | [], done, h => by
    simp only [canonicalItems]
    rw [areCanonicalItems_iff] at h ⊢
    exact fun v hv => h v (List.mem_reverse.mp hv)
  | v :: rest, done, h => by
    simp only [canonicalItems]
    refine areCanonicalItems_canonicalItems rest _ ?_
    simp only [areCanonicalItems, Bool.and_eq_true]
    exact ⟨isCanonical_canonical v, h⟩

theorem canonicalMembers_canonical : (members done : List (String × Json)) →
    SortedNames done → areCanonicalMembers done = true →
    SortedNames (canonicalMembers members done) ∧
      areCanonicalMembers (canonicalMembers members done) = true
  | [], done, hs, hc => by
    simp only [canonicalMembers]
    exact ⟨hs, hc⟩
  | (name, v) :: rest, done, hs, hc => by
    simp only [canonicalMembers]
    refine canonicalMembers_canonical rest _ hs.insertMember ?_
    rw [areCanonicalMembers_iff] at hc ⊢
    intro m hm
    rcases mem_insertMember hm with rfl | hm
    · exact isCanonical_canonical v
    · exact hc m hm

end

/-! ### Dictionaries -/

/-- **The members of a canonical object.** -/
structure Dict where
  members : List (String × Json)
  sorted : SortedNames members
  canonical : ∀ m ∈ members, isCanonical m.2 = true

namespace Dict

/-- No member. -/
def empty : Dict := ⟨[], List.Pairwise.nil, by simp⟩

instance : Inhabited Dict := ⟨empty⟩

/-- Puts a value, in its canonical form, under a name; what was there is replaced. -/
def insert (d : Dict) (name : String) (value : Json) : Dict where
  members := insertMember name (Json.canonical value) d.members
  sorted := d.sorted.insertMember
  canonical := fun m hm => by
    rcases mem_insertMember hm with rfl | hm
    · exact isCanonical_canonical value
    · exact d.canonical m hm

/-- The dictionary of a list of members, of which later ones replace earlier ones. -/
def ofMembers (members : List (String × Json)) : Dict :=
  members.foldl (fun d m => d.insert m.1 m.2) empty

/-- The value under a name. -/
def get? (d : Dict) (name : String) : Option Json :=
  lookup name d.members

/-- The names, in order. -/
def names (d : Dict) : List String :=
  d.members.map Prod.fst

/-- The dictionary as a value. -/
def toJson (d : Dict) : Json :=
  .object d.members

end Dict

end Json

end RealmKeeper
