import RealmKeeper.Client.WireName
import RealmKeeper.Json.Encode
import Mathlib.Data.Nat.Init
import RealmKeeper.Proofs.Members

/-!
# Values as they are written

The values of declared members, each with its reader and its written form.

* `Form`: how a declared member is written, and `Form.echo`: what becomes of its value when it is
  read and written again;
* `Item`: values that are always written, texts and open names;
* `Wire`: values of members, which may be left out: reading and writing are inverse to each other,
  up to what the form says.
-/

namespace RealmKeeper.Json

/-! ### Forms -/

/-- What a value holds. -/
inductive Content where
  | text
  /-- A name of an enumeration, which may also be given as an object with one member. -/
  | name
deriving DecidableEq

/-- The value as it is written again: a name that is given as an object is written as a text. -/
def Content.normal : Content → Json → Json
  | .text, v => v
  | .name, .object [(named, .null)] => .string named
  | .name, v => v

/-- **How a declared member is written.** -/
inductive Form where
  /-- It is always written. -/
  | required
  /-- It is left out where nothing is given. -/
  | nullable (content : Content)
  /-- It is left out where the list is empty. -/
  | list (content : Content)
  /-- It is left out where the text is empty. -/
  | filled
  /-- It is left out where the number is zero. -/
  | counted
deriving DecidableEq

/-- **What becomes of a value** that is read and written again; `none` where it is left out. -/
def Form.echo : Form → Json → Option Json
  | .nullable _, .null => none
  | .nullable content, v => some (content.normal v)
  | .list _, .array [] => none
  | .list content, .array items => some (.array (items.map content.normal))
  | .filled, .string "" => none
  | .counted, .number (.integer 0 _) => none
  | _, v => some v

theorem Form.echo_nullable {content : Content} {v : Json} (h : v ≠ .null) :
    (Form.nullable content).echo v = some (content.normal v) := by
  cases v with
  | null => exact absurd rfl h
  | _ => rfl

theorem Form.echo_list (content : Content) (items : List Json) :
    (Form.list content).echo (.array items) =
      if items.isEmpty then none else some (.array (items.map content.normal)) := by
  cases items <;> rfl

theorem Form.echo_filled (s : String) :
    Form.filled.echo (.string s) = if s.isEmpty then none else some (.string s) := by
  by_cases h : s = ""
  · subst h
    rfl
  · rw [if_neg (by simpa using h)]
    unfold Form.echo
    split <;> simp_all

theorem Form.echo_counted {n : Int} (h : Exact n) :
    Form.counted.echo (.number (.integer n h)) =
      if n = 0 then none else some (.number (.integer n h)) := by
  by_cases hn : n = 0
  · subst hn
    rfl
  · rw [if_neg hn]
    unfold Form.echo
    split <;> simp_all

/-! ### Values that are always written -/

/-- **A reader and a writer** of values that are always written. Reading what denotes a written
value gives the value back, and what was read is written as it was, up to the form of names. -/
structure Item (α : Type) where
  content : Content
  read : {φ : Type} → [Medium φ] → ValueTree φ → Decoded α
  write : α → Json
  Legal : α → Prop
  canonical_write : ∀ a, canonical (write a) = write a
  write_ne_null : ∀ a, write a ≠ .null
  sound : ∀ {φ : Type} [Medium φ] {t : ValueTree φ} {a : α}, read t = .ok a →
    Legal a ∧ ∃ v, t.Denotes v ∧ canonical v = v ∧ v ≠ .null ∧ content.normal v = write a
  complete : ∀ {φ : Type} [Medium φ] {t : ValueTree φ} {a : α}, Legal a → t.Denotes (write a) →
    read t = .ok a

theorem readString_eq_ok_iff {φ : Type} [Medium φ] {t : ValueTree φ} {s : String} :
    readString t = .ok s ↔ t = .string s := by
  cases t <;> simp [readString, mismatch, refuse]

/-- Texts. -/
def Item.text : Item String where
  content := .text
  read := readString
  write := .string
  Legal _ := True
  canonical_write _ := rfl
  write_ne_null _ := nofun
  sound {_ _ t a} h := by
    rw [readString_eq_ok_iff.mp h]
    exact ⟨trivial, .string a, denotes_string.mpr rfl, rfl, nofun, rfl⟩
  complete _ h := readString_eq_ok_iff.mpr (denotes_string.mp h)

/-! ### Values of members -/

/-- **A reader and a writer of the values of a member.** Reading what denotes a written value gives
the value back, what was read is written as its form says, and only a value that need not be written
is the one of a member that is not there. -/
structure Wire (α : Type) where
  form : Form
  absent : α
  read : {φ : Type} → [Medium φ] → ValueTree φ → Decoded α
  write : α → Option Json
  Legal : α → Prop
  legal_absent : Legal absent
  canonical_write : ∀ {a v}, write a = some v → canonical v = v
  write_eq_none_iff : ∀ {a}, Legal a → (write a = none ↔ form ≠ .required ∧ a = absent)
  sound : ∀ {φ : Type} [Medium φ] {t : ValueTree φ} {a : α}, read t = .ok a →
    Legal a ∧ ∃ v, t.Denotes v ∧ canonical v = v ∧ form.echo v = write a
  complete : ∀ {φ : Type} [Medium φ] {t : ValueTree φ} {a : α} {v : Json}, Legal a →
    write a = some v → t.Denotes v → read t = .ok a

namespace Wire

/-- A text that is always given. -/
def required : Wire String where
  form := .required
  absent := ""
  read := readString
  write s := some (.string s)
  Legal _ := True
  legal_absent := trivial
  canonical_write h := by
    cases h
    rfl
  write_eq_none_iff _ := by simp
  sound {_ _ t a} h := by
    rw [readString_eq_ok_iff.mp h]
    exact ⟨trivial, .string a, denotes_string.mpr rfl, rfl, rfl⟩
  complete _ h ht := by
    cases h
    exact readString_eq_ok_iff.mpr (denotes_string.mp ht)

/-- A text that may be empty. -/
def filled : Wire String where
  form := .filled
  absent := ""
  read := readString
  write s := if s.isEmpty then none else some (.string s)
  Legal _ := True
  legal_absent := trivial
  canonical_write h := by
    obtain ⟨-, h⟩ := Option.ite_none_left_eq_some.mp h
    cases h
    rfl
  write_eq_none_iff _ := by simp
  sound {_ _ t a} h := by
    rw [readString_eq_ok_iff.mp h]
    exact ⟨trivial, .string a, denotes_string.mpr rfl, rfl, Form.echo_filled a⟩
  complete _ h ht := by
    obtain ⟨-, h⟩ := Option.ite_none_left_eq_some.mp h
    cases h
    exact readString_eq_ok_iff.mpr (denotes_string.mp ht)

end Wire

/-! ### Numbers -/

theorem readInt64_eq_ok_iff {φ : Type} [Medium φ] {t : ValueTree φ} {n : Int64} :
    readInt64 t = .ok n ↔ t.Denotes (ofInt64 n) := by
  rw [ofInt64, denotes_number]
  constructor
  · intro h
    unfold readInt64 at h
    cases t with
    | number numeral =>
      cases numeral with
      | integer k hk =>
        by_cases bounds : -9223372036854775808 ≤ k ∧ k < 9223372036854775808
        · rw [readInt, if_pos bounds] at h
          obtain rfl : Int64.ofInt k = n := Except.ok.inj h
          have value := Int64.toInt_ofInt_of_le bounds.1 bounds.2
          simp only [value]
        · rw [readInt, if_neg bounds] at h
          cases h
      | float x => cases h
    | _ => cases h
  · rintro rfl
    have low := n.le_toInt
    have high := n.toInt_lt
    have bounds : -9223372036854775808 ≤ n.toInt ∧ n.toInt < 9223372036854775808 := by omega
    rw [readInt64, readInt, if_pos bounds]
    exact congrArg Except.ok n.ofInt_toInt

/-- Numbers of which zero need not be given. -/
def Wire.counted : Wire Int64 where
  form := .counted
  absent := 0
  read := readInt64
  write n := if n = 0 then none else some (ofInt64 n)
  Legal _ := True
  legal_absent := trivial
  canonical_write h := by
    obtain ⟨-, h⟩ := Option.ite_none_left_eq_some.mp h
    cases h
    rfl
  write_eq_none_iff _ := by simp
  sound {_ _ t n} h := by
    refine ⟨trivial, ofInt64 n, readInt64_eq_ok_iff.mp h, rfl, ?_⟩
    have zero : n.toInt = 0 ↔ n = 0 := Int64.toInt_inj (y := 0)
    rw [ofInt64, Form.echo_counted]
    simp only [zero]
  complete _ h ht := by
    obtain ⟨-, h⟩ := Option.ite_none_left_eq_some.mp h
    cases h
    exact readInt64_eq_ok_iff.mpr ht

/-! ### Values that may be missing -/

section optional

variable {φ α : Type}

theorem readOption_of_ne_null {read : ValueTree φ → Decoded α} {t : ValueTree φ} (h : t ≠ .null) :
    readOption read t = (read t).map some := by
  cases t with
  | null => exact absurd rfl h
  | _ => rfl

/-- A value or nothing. -/
def Wire.optional (item : Item α) : Wire (Option α) where
  form := .nullable item.content
  absent := none
  read := readOption item.read
  write a := a.map item.write
  Legal a := ∀ x ∈ a, item.Legal x
  legal_absent := nofun
  canonical_write h := by
    obtain ⟨a, -, rfl⟩ := Option.map_eq_some_iff.mp h
    exact item.canonical_write a
  write_eq_none_iff _ := by simp
  sound {_ _ t a} h := by
    by_cases hn : t = .null
    · subst hn
      cases h
      exact ⟨nofun, .null, denotes_null.mpr rfl, rfl, rfl⟩
    · rw [readOption_of_ne_null hn] at h
      cases hr : item.read t with
      | error e =>
        rw [hr] at h
        cases h
      | ok x =>
        rw [hr] at h
        cases h
        obtain ⟨legal, v, denotes, canonical, filled, normal⟩ := item.sound hr
        refine ⟨fun y hy => ?_, v, denotes, canonical, ?_⟩
        · cases hy
          exact legal
        · rw [Form.echo_nullable filled, normal]
          rfl
  complete {_ _ t a v} legal h ht := by
    obtain ⟨x, rfl, rfl⟩ := Option.map_eq_some_iff.mp h
    have filled : t ≠ .null := by
      rintro rfl
      exact item.write_ne_null x (Option.some.inj ht).symm
    rw [readOption_of_ne_null filled, item.complete (legal x rfl) ht]
    rfl

end optional

/-! ### Lists -/

section list

variable {φ α : Type}

theorem readItemsFrom_eq_ok_iff {read : ValueTree φ → Decoded α} {items : List (ValueTree φ)}
    {index : Nat} {done values : List α} :
    readItemsFrom read index done items = .ok values ↔
      ∃ more, values = done.reverse ++ more ∧
        List.Forall₂ (fun t a => read t = .ok a) items more := by
  induction items generalizing index done with
  | nil => simp [readItemsFrom, eq_comm]
  | cons t rest ih =>
    unfold readItemsFrom
    cases hr : read t with
    | error e =>
      refine ⟨(nomatch ·), ?_⟩
      rintro ⟨more, -, h⟩
      cases h with
      | cons ha _ => cases hr.symm.trans ha
    | ok a =>
      rw [within, ih]
      constructor
      · rintro ⟨more, rfl, h⟩
        exact ⟨a :: more, by simp, .cons hr h⟩
      · rintro ⟨more, rfl, h⟩
        cases h with
        | cons ha h =>
          obtain rfl := Except.ok.inj (hr.symm.trans ha)
          exact ⟨_, by simp, h⟩

theorem readList_eq_ok_iff {read : ValueTree φ → Decoded α} {t : ValueTree φ} {values : List α} :
    readList read t = .ok values ↔
      ∃ items, t = .array items ∧ List.Forall₂ (fun t a => read t = .ok a) items values := by
  cases t with
  | array items =>
    rw [readList, readItemsFrom_eq_ok_iff]
    simp
  | _ => simp [readList, mismatch, refuse]

namespace Item

variable (item : Item α)

theorem sound_items [Medium φ] {items : List (ValueTree φ)} {values : List α}
    (h : List.Forall₂ (fun t a => item.read t = .ok a) items values) :
    (∀ a ∈ values, item.Legal a) ∧ ∃ written, List.Forall₂ ValueTree.Denotes items written ∧
      (∀ v ∈ written, canonical v = v) ∧
        written.map item.content.normal = values.map item.write := by
  induction h with
  | nil => exact ⟨nofun, [], .nil, nofun, rfl⟩
  | cons hr _ ih =>
    obtain ⟨legal, v, denotes, canonical, -, normal⟩ := item.sound hr
    obtain ⟨legals, written, denote, canonicals, normals⟩ := ih
    refine ⟨List.forall_mem_cons.mpr ⟨legal, legals⟩, v :: written, .cons denotes denote,
      List.forall_mem_cons.mpr ⟨canonical, canonicals⟩, ?_⟩
    rw [List.map_cons, List.map_cons, normal, normals]

theorem complete_items [Medium φ] {items : List (ValueTree φ)} {values : List α}
    (legal : ∀ a ∈ values, item.Legal a)
    (h : List.Forall₂ ValueTree.Denotes items (values.map item.write)) :
    List.Forall₂ (fun t a => item.read t = .ok a) items values := by
  rw [List.forall₂_map_right_iff] at h
  induction h with
  | nil => exact .nil
  | cons denotes _ ih =>
    obtain ⟨first, others⟩ := List.forall_mem_cons.mp legal
    exact .cons (item.complete first denotes) (ih others)

end Item

/-- A list. -/
def Wire.list (item : Item α) : Wire (List α) where
  form := .list item.content
  absent := []
  read := readList item.read
  write values := if values.isEmpty then none else some (.array (values.map item.write))
  Legal values := ∀ a ∈ values, item.Legal a
  legal_absent := nofun
  canonical_write {values v} h := by
    obtain ⟨-, h⟩ := Option.ite_none_left_eq_some.mp h
    cases h
    refine canonical_array fun v hv => ?_
    obtain ⟨a, -, rfl⟩ := List.mem_map.mp hv
    exact item.canonical_write a
  write_eq_none_iff _ := by simp
  sound {_ _ t values} h := by
    obtain ⟨items, rfl, reads⟩ := readList_eq_ok_iff.mp h
    obtain ⟨legal, written, denote, canonical, normal⟩ := item.sound_items reads
    refine ⟨legal, .array written, denotes_array.mpr ⟨items, rfl, denote⟩,
      canonical_array canonical, ?_⟩
    have lengths := congrArg List.length normal
    rw [List.length_map, List.length_map] at lengths
    rw [Form.echo_list, normal]
    simp only [List.isEmpty_iff, ← List.length_eq_zero_iff, lengths]
  complete legal h ht := by
    obtain ⟨-, h⟩ := Option.ite_none_left_eq_some.mp h
    cases h
    obtain ⟨items, rfl, h⟩ := denotes_array.mp ht
    exact readList_eq_ok_iff.mpr ⟨items, rfl, item.complete_items legal h⟩

end list

end RealmKeeper.Json

/-! ### Open names -/

namespace RealmKeeper.Client

open RealmKeeper.Json

variable {κ : Type} [Named κ]

theorem Named.find?_name (k : κ) : Named.find? κ (Named.name k) = some k := by
  unfold Named.find?
  cases hf : (Named.all (κ := κ)).find? fun k' => Named.name k' = Named.name k with
  | none =>
    have absent := List.find?_eq_none.mp hf k (Named.mem_all k)
    simp at absent
  | some k' =>
    have named := List.find?_some hf
    exact congrArg some (Named.name_injective k' k (of_decide_eq_true named))

theorem Named.name_of_find? {name : String} {k : κ} (h : Named.find? κ name = some k) :
    Named.name k = name := by
  unfold Named.find? at h
  have named := List.find?_some h
  exact of_decide_eq_true named

namespace OpenName

/-- **A proper name**: what the enumeration names is not given as any other name. -/
def IsProper (n : OpenName κ) : Prop :=
  ∀ k : κ, n ≠ .other (Named.name k)

theorem name_ofName (name : String) : (ofName name : OpenName κ).name = name := by
  unfold ofName
  cases h : Named.find? κ name with
  | none => rfl
  | some k => exact Named.name_of_find? h

theorem isProper_ofName (name : String) : (ofName name : OpenName κ).IsProper := by
  intro k hk
  unfold ofName at hk
  cases h : Named.find? κ name with
  | none =>
    rw [h] at hk
    cases hk
    rw [Named.find?_name] at h
    cases h
  | some k' =>
    rw [h] at hk
    cases hk

theorem IsProper.ofName_name {n : OpenName κ} (h : n.IsProper) : ofName n.name = n := by
  cases n with
  | known k =>
    rw [ofName, name, Named.find?_name]
  | other name =>
    rw [ofName, OpenName.name]
    cases hf : Named.find? κ name with
    | none => rfl
    | some k => exact absurd (congrArg OpenName.other (Named.name_of_find? hf).symm) (h k)

theorem read_eq_ok {φ : Type} [Medium φ] {t : ValueTree φ} {n : OpenName κ}
    (h : read t = .ok n) :
    ∃ name, n = ofName name ∧ (t = .string name ∨ t = .object [(name, .null)]) := by
  unfold read readOpenName at h
  split at h
  swap
  · cases h
  split at h
  · exact ⟨_, (Except.ok.inj h).symm, .inl rfl⟩
  · split at h
    · exact ⟨_, (Except.ok.inj h).symm, .inr rfl⟩
    · cases h
  · cases h

/-- Open names. -/
def item (κ : Type) [Named κ] : Item (OpenName κ) where
  content := .name
  read := read
  write := toJson
  Legal := IsProper
  canonical_write _ := rfl
  write_ne_null _ := nofun
  sound {_ _ t n} h := by
    obtain ⟨name, rfl, rfl | rfl⟩ := read_eq_ok h
    · refine ⟨isProper_ofName name, .string name, denotes_string.mpr rfl, rfl, nofun, ?_⟩
      rw [toJson, name_ofName]
      rfl
    · refine ⟨isProper_ofName name, .object [(name, .null)], rfl, rfl, nofun, ?_⟩
      rw [toJson, name_ofName]
      rfl
  complete {_ _ t n} proper ht := by
    rw [denotes_string.mp ht]
    exact congrArg Except.ok proper.ofName_name

end OpenName

end RealmKeeper.Client
