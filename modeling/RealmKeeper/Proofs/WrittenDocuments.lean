import RealmKeeper.Json.Document
import RealmKeeper.Proofs.WrittenRecords
import RealmKeeper.Proofs.WrittenWords

/-!
# The documents of written values

The compact text of a value is read as a tree that denotes the value, if it is nested no deeper than
the reader goes and its numbers are read from their spelling.

* `IsTextual.delivers`: reading the words of a value delivers such a tree, whatever stands around
  it;
* `ofBytes_bytes`: the document of the text is such a tree, and nothing follows it;
* `IsReadBack`: a value is read back from every tree that writes it, and from its text.
-/

namespace RealmKeeper.Json

variable {depth room : Nat} {stack : List Frame} {v : Json}

theorem foldl_firstItem (v : Json) (rest : List Json) :
    (itemWords (v :: rest)).foldl State.step (.reading depth stack .firstItem) =
      (itemWords (v :: rest)).foldl State.step (.reading depth stack .value) := by
  have first : ∀ more, (words v ++ more).foldl State.step (.reading depth stack .firstItem) =
      (words v ++ more).foldl State.step (.reading depth stack .value) := by
    intro more
    cases v with
    | unreadable f => exact nomatch f
    | _ => rfl
  cases rest with
  | nil => simpa only [itemWords, List.append_nil] using first []
  | cons w rest => exact first _

/-- **Words are read as a value**: as a tree that denotes it, whatever stands around it. -/
def Delivers (ws : List Token) (depth : Nat) (v : Json) : Prop :=
  ∀ stack, ∃ t : ValueTree Fault, t.Denotes v ∧
    ws.foldl State.step (.reading depth stack .value) = .deliver t depth stack

theorem closeInner_of_le (h : depth + 1 ≤ greatestDepth) (frame : Frame) :
    State.closeInner (depth + 1) (frame :: stack) = .deliver frame.tree depth stack := by
  rw [State.closeInner, if_neg (by omega), Nat.add_sub_cancel]

theorem exists_items (stack : List Frame) {items : List Json}
    (each : ∀ v ∈ items, Delivers (words v) depth v) (given : items ≠ [])
    (done : List (ValueTree Fault)) :
    ∃ trees : List (ValueTree Fault), List.Forall₂ ValueTree.Denotes trees items ∧
      (itemWords items).foldl State.step (.reading depth (.array done :: stack) .value) =
        .reading depth (.array (trees.reverse ++ done) :: stack) .next := by
  induction items generalizing done with
  | nil => exact absurd rfl given
  | cons v rest ih =>
    obtain ⟨first, others⟩ := List.forall_mem_cons.mp each
    obtain ⟨t, denotes, reads⟩ := first (.array done :: stack)
    cases rest with
    | nil => exact ⟨[t], .cons denotes .nil, reads⟩
    | cons w rest =>
      obtain ⟨trees, denote, later⟩ := ih others nofun (t :: done)
      have parted : itemWords (v :: w :: rest) = words v ++ .comma :: itemWords (w :: rest) := rfl
      refine ⟨t :: trees, .cons denotes denote, ?_⟩
      rw [parted, List.foldl_append, reads, List.foldl_cons, List.reverse_cons, List.append_assoc]
      exact later

theorem exists_members (stack : List Frame) {members : List (String × Json)}
    (each : ∀ m ∈ members, Delivers (words m.2) depth m.2) (given : members ≠ [])
    (done : List (String × ValueTree Fault)) (old : Option String) {awaited : Awaited}
    (named : awaited = .firstName ∨ awaited = .name) :
    ∃ trees : List (String × ValueTree Fault), DenoteMembers trees members ∧
      (memberWords members).foldl State.step (.reading depth (.object done old :: stack) awaited) =
        .reading depth (.object (trees.reverse ++ done) (some "") :: stack) .next := by
  induction members generalizing done old awaited with
  | nil => exact absurd rfl given
  | cons m rest ih =>
    obtain ⟨name, v⟩ := m
    obtain ⟨first, others⟩ := List.forall_mem_cons.mp each
    obtain ⟨t, denotes, reads⟩ := first (.object done (some name) :: stack)
    have begun : [.string (some name), .colon].foldl State.step
        (.reading depth (.object done old :: stack) awaited) =
          .reading depth (.object done (some name) :: stack) .value := by
      rcases named with rfl | rfl <;> rfl
    have one : (.string (some name) :: .colon :: words v).foldl State.step
        (.reading depth (.object done old :: stack) awaited) =
          .reading depth (.object ((name, t) :: done) (some "") :: stack) .next := by
      rw [show (Token.string (some name) :: .colon :: words v) =
        [.string (some name), .colon] ++ words v from rfl, List.foldl_append, begun, reads]
      rfl
    cases rest with
    | nil => exact ⟨[(name, t)], .cons ⟨rfl, denotes⟩ .nil, one⟩
    | cons m' rest =>
      obtain ⟨trees, denote, later⟩ := ih others nofun ((name, t) :: done) (some "") (.inr rfl)
      have parted : memberWords ((name, v) :: m' :: rest) =
          (.string (some name) :: .colon :: words v) ++ .comma :: memberWords (m' :: rest) := rfl
      refine ⟨(name, t) :: trees, .cons ⟨rfl, denotes⟩ denote, ?_⟩
      rw [parted, List.foldl_append, one, List.foldl_cons, List.reverse_cons, List.append_assoc]
      exact later

/-- **The words of a value are read as the value**, as deep as the reader goes. -/
theorem IsTextual.delivers (h : IsTextual room v) :
    ∀ {depth}, depth + room ≤ greatestDepth → Delivers (words v) depth v := by
  -- each bracket takes one of the depth that is left to the reader
  induction h with
  | null => exact fun _ _ => ⟨.null, rfl, rfl⟩
  | @bool _ b => exact fun _ _ => ⟨.bool b, rfl, rfl⟩
  | @number _ n _ => exact fun _ _ => ⟨.number n, rfl, rfl⟩
  | @string _ s => exact fun _ _ => ⟨.string s, rfl, rfl⟩
  | @array room items _ ih =>
    intro depth deep stack
    have close := fun done => @closeInner_of_le depth stack (by omega) (.array done)
    have each : ∀ v ∈ items, Delivers (words v) (depth + 1) v := fun v hv => ih v hv (by omega)
    cases items with
    | nil => exact ⟨.array [], rfl, close []⟩
    | cons v rest =>
      obtain ⟨trees, denote, reads⟩ := exists_items stack each nofun []
      refine ⟨.array trees, denotes_array.mpr ⟨trees, rfl, denote⟩, ?_⟩
      have opened : (itemWords (v :: rest)).foldl State.step
          (.reading (depth + 1) (.array [] :: stack) .firstItem) =
            .reading (depth + 1) (.array (trees.reverse ++ []) :: stack) .next :=
        (foldl_firstItem v rest).trans reads
      rw [words, List.cons_append, List.foldl_cons, List.foldl_append]
      refine (congrArg (fun s => [Token.closeArray].foldl State.step s) opened).trans ?_
      refine (close _).trans ?_
      rw [Frame.tree, List.append_nil, List.reverse_reverse]
  | @object room members _ ih =>
    intro depth deep stack
    have close := fun done name => @closeInner_of_le depth stack (by omega) (.object done name)
    have each : ∀ m ∈ members, Delivers (words m.2) (depth + 1) m.2 :=
      fun m hm => ih m hm (by omega)
    cases members with
    | nil => exact ⟨.object [], rfl, close [] _⟩
    | cons m rest =>
      obtain ⟨trees, denote, reads⟩ := exists_members stack each nofun [] (some "") (.inl rfl)
      refine ⟨.object trees, denotes_object.mpr ⟨trees, rfl, denote⟩, ?_⟩
      rw [words, List.cons_append, List.foldl_cons, List.foldl_append]
      refine (congrArg (fun s => [Token.closeObject].foldl State.step s) reads).trans ?_
      refine (close _ _).trans ?_
      rw [Frame.tree, List.append_nil, List.reverse_reverse]

/-- **The text of a value is read as the value**: as a tree that denotes it, and nothing follows. -/
theorem ofBytes_bytes (h : IsTextual greatestDepth v) :
    ∃ t : ValueTree Fault, t.Denotes v ∧ Document.ofBytes (bytes v) = ⟨t, false⟩ := by
  obtain ⟨t, denotes, reads⟩ := h.delivers (Nat.le_of_eq (Nat.zero_add _)) []
  refine ⟨t, denotes, ?_⟩
  rw [Document.ofBytes, tokens_bytes h, Document.ofTokens, reads]
  rfl

/-! ### Values that are read back -/

section back

variable {α : Type} {read : {φ : Type} → [Medium φ] → ValueTree φ → Decoded α} {a held : α}

/-- **A value is read back** from what it is written as: from every tree, whatever the medium, and
from its text, if the text holds it. -/
structure IsReadBack (read : {φ : Type} → [Medium φ] → ValueTree φ → Decoded α) (v : Json)
    (a : α) : Prop where
  tree : ∀ (φ : Type) [Medium φ], ReadsAs (φ := φ) read v a
  text : IsTextual greatestDepth v → readBytes read (bytes v) = .ok a

theorem isReadBack_of_readsAs (reads : ∀ (φ : Type) [Medium φ], ReadsAs (φ := φ) read v a) :
    IsReadBack read v a := by
  refine ⟨reads, fun textual => ?_⟩
  obtain ⟨t, denotes, document⟩ := ofBytes_bytes textual
  have tree := reads Fault t (.inl denotes)
  rw [readBytes, document]
  simp only [tree, Bool.false_eq_true, if_false]

theorem isReadBack_iff (reads : ∀ (φ : Type) [Medium φ], ReadsAs (φ := φ) read v held) :
    IsReadBack read v a ↔ held = a := by
  constructor
  · intro back
    have now := back.tree Empty v (writes_self v)
    exact Except.ok.inj ((reads Empty v (writes_self v)).symm.trans now)
  · rintro rfl
    exact isReadBack_of_readsAs reads

end back

/-! ### Records in texts -/

theorem isTextual_object_iff {members : List (String × Json)} :
    IsTextual (room + 1) (.object members) ↔ ∀ m ∈ members, IsTextual room m.2 := by
  constructor
  · rintro ⟨⟩
    assumption
  · exact .object

theorem Record.isTextual_iff {σ : Type} {R : Record σ} {r : σ} :
    IsTextual (room + 1) (.object (R.written r)) ↔
      ∀ p ∈ R.declared, ∀ v ∈ p.written r, IsTextual room v := by
  rw [isTextual_object_iff]
  constructor
  · intro each p hp v hv
    exact each (p.name, v) (mem_written.mpr ⟨p, hp, rfl, hv⟩)
  · rintro each ⟨name, v⟩ hm
    obtain ⟨p, hp, -, hv⟩ := mem_written.mp hm
    exact each p hp v hv

end RealmKeeper.Json
