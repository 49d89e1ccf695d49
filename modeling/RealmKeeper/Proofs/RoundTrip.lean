import RealmKeeper.Proofs.ProviderEcho
import Mathlib.Tactic.FinCases

/-!
# Reading undoes writing

Records of client registration are read again from what they are written as.

* `SayOnce`: members that say at most one thing about a name, so that the order does not matter;
* `ClientMetadata.read_of_valuesOf`, `ClientInformation.read_of_valuesOf`: whatever says of every
  name what the written members say is read as the record;
* `ClientInformation.read_written`: records of which no undeclared member has a declared name are
  read from what they are written as, in order or in canonical form.
-/

namespace RealmKeeper.Json

/-- **Members that say at most one thing about a name**, in its canonical form. -/
def SayOnce (members : List (String × Json)) : Prop :=
  ∀ name, ∃ value : Option Json,
    valuesOf name members = value.toList ∧ ∀ v ∈ value, canonical v = v

theorem SayOnce.valuesOf_ofMembers {members : List (String × Json)} (h : SayOnce members)
    (name : String) :
    valuesOf name (Dict.ofMembers members).members = valuesOf name members := by
  obtain ⟨value, once, canonical⟩ := h name
  rw [Dict.valuesOf_members, Dict.get?_ofMembers, once, last_toList canonical]

/-- What denotes such members, in order or in canonical form, says what they say. -/
theorem SayOnce.exists_trees {φ : Type} {members : List (String × Json)} (h : SayOnce members)
    {t : ValueTree φ}
    (ht : t.Denotes (.object members) ∨ t.Denotes (canonical (.object members))) :
    ∃ trees members', t = .object trees ∧ DenoteMembers trees members' ∧
      ∀ name, valuesOf name members' = valuesOf name members := by
  rcases ht with ht | ht
  · obtain ⟨trees, rfl, denote⟩ := denotes_object.mp ht
    exact ⟨trees, members, rfl, denote, fun _ => rfl⟩
  · rw [canonical_object] at ht
    obtain ⟨trees, rfl, denote⟩ := denotes_object.mp ht
    exact ⟨trees, _, rfl, denote, h.valuesOf_ofMembers⟩

end RealmKeeper.Json

namespace RealmKeeper.Client

open RealmKeeper.Json

variable {φ : Type} [Medium φ] {trees : List (String × ValueTree φ)}
  {members : List (String × Json)}

/-! ### Metadata -/

namespace ClientMetadata

variable {m : ClientMetadata}

/-- Metadata says one thing about a name where no undeclared member has the name of a declared one
that is written. -/
theorem sayOnce_members (avoids : m.extra.Avoids (m.declaredMembers.map Prod.fst)) :
    SayOnce m.members := by
  intro name
  rw [members, valuesOf_append, Dict.valuesOf_members]
  by_cases hm : name ∈ m.declaredMembers.map Prod.fst
  · have declared : name ∈ layout.names := by
      rw [declaredMembers_eq] at hm
      exact Layout.names_written_sublist.subset hm
    obtain ⟨s, hs, rfl⟩ := List.mem_map.mp declared
    rw [avoids.get?_eq_none hm, declaredMembers_eq, Layout.valuesOf_written hs, Option.toList_none,
      List.append_nil]
    exact ⟨_, rfl, fun _ => s.canonical_written⟩
  · rw [valuesOf_eq_nil_iff.mpr hm, List.nil_append]
    exact ⟨_, rfl, fun _ => Dict.canonical_get?⟩

theorem avoids_declaredMembers (avoids : m.extra.Avoids layout.names) :
    m.extra.Avoids (m.declaredMembers.map Prod.fst) := by
  rw [declaredMembers_eq]
  exact avoids.mono Layout.names_written_sublist.subset

/-- **Whatever says what metadata is written as is read as the metadata.** -/
theorem read_of_valuesOf (avoids : m.extra.Avoids layout.names) (proper : m.HasProperNames)
    (denote : DenoteMembers trees members)
    (same : ∀ name, valuesOf name members = valuesOf name m.members) :
    read (.object trees) = .ok m := by
  rw [read_eq]
  refine Layout.read_eq_ok_iff.mpr
    ⟨trees, rfl, Layout.ofMembers_of_written denote (fun s hs => ?_) ?_⟩
  · rw [same, valuesOf_members avoids hs]
    exact ⟨isLegal_iff.mpr proper s hs, rfl⟩
  · have extra : m.extra = Dict.ofMembers (layout.others members) := by
      refine Dict.ext_get? fun name => ?_
      rw [Dict.get?_ofMembers, Layout.valuesOf_others]
      by_cases hn : name ∈ layout.names
      · rw [avoids.get?_eq_none hn, if_pos hn]
        rfl
      · rw [if_neg hn, same, valuesOf_members_of_not_mem hn,
          last_toList fun _ => Dict.canonical_get?]
    exact extra

end ClientMetadata

/-! ### Information -/

namespace ClientInformation

variable {i : ClientInformation}

theorem sayOnce_members (own : i.metadata.extra.Avoids layout.names)
    (avoids : i.metadata.extra.Avoids ClientMetadata.layout.names) : SayOnce i.members := by
  intro name
  by_cases hn : name ∈ layout.names
  · obtain ⟨s, hs, rfl⟩ := List.mem_map.mp hn
    exact ⟨_, valuesOf_members_own own hs [], fun _ => s.canonical_written⟩
  · rw [valuesOf_members_of_not_mem hn]
    exact ClientMetadata.sayOnce_members (ClientMetadata.avoids_declaredMembers avoids) name

/-- **Whatever says what information is written as is read as the information.** -/
theorem read_of_valuesOf (own : i.metadata.extra.Avoids layout.names)
    (avoids : i.metadata.extra.Avoids ClientMetadata.layout.names)
    (proper : i.metadata.HasProperNames) (denote : DenoteMembers trees members)
    (same : ∀ name, valuesOf name members = valuesOf name i.members) :
    read (.object trees) = .ok i := by
  refine read_eq_ok_iff.mpr ⟨⟨{ i with metadata := .blank }, (layout.others members).reverse⟩,
    i.metadata, ?_, ?_, rfl⟩
  · refine Layout.read_eq_ok_iff.mpr
      ⟨trees, rfl, Layout.ofMembers_of_written denote (fun s hs => ⟨isLegal_draft _ s hs, ?_⟩) ?_⟩
    · rw [same, valuesOf_members_own own hs [], written_withMetadata i .blank _ [] s hs]
    · rw [show layout.rest layout.blank = ([], .blank) from rfl, foldl_gather, List.append_nil]
      rfl
  · rw [List.reverse_reverse]
    refine ClientMetadata.read_of_valuesOf avoids proper (denotes_self_members _) fun name => ?_
    rw [Layout.valuesOf_others]
    by_cases hn : name ∈ layout.names
    · rw [if_pos hn, ClientMetadata.valuesOf_members_of_not_mem (layout_apart name hn),
        own.get?_eq_none hn]
      rfl
    · rw [if_neg hn, same, valuesOf_members_of_not_mem hn]

/-- **Reading undoes writing.** A record of which no undeclared member has a declared name and no
name of an enumeration is given as any other name is read, from whatever medium, from its members
as they are written and from their canonical form. -/
theorem read_written :
    (∀ i : ClientInformation, i.metadata.extra.Avoids (declared.map Prod.fst) →
      i.metadata.HasProperNames → ∀ (φ : Type) [Medium φ] (t : ValueTree φ),
        t.Denotes i.toJson ∨ t.Denotes (canonical i.toJson) → read t = .ok i) ∧
    ∀ m : ClientMetadata, m.extra.Avoids (ClientMetadata.declared.map Prod.fst) →
      m.HasProperNames → ∀ (φ : Type) [Medium φ] (t : ValueTree φ),
        t.Denotes m.toJson ∨ t.Denotes (canonical m.toJson) → ClientMetadata.read t = .ok m := by
  constructor
  · intro i avoids proper φ _ t ht
    rw [declaredNames_eq] at avoids
    have own : i.metadata.extra.Avoids layout.names :=
      fun name hn => avoids name (List.mem_append_left _ hn)
    have others : i.metadata.extra.Avoids ClientMetadata.layout.names :=
      fun name hn => avoids name (List.mem_append_right _ hn)
    obtain ⟨trees, members, rfl, denote, same⟩ := (sayOnce_members own others).exists_trees ht
    exact read_of_valuesOf own others proper denote same
  · intro m avoids proper φ _ t ht
    obtain ⟨trees, members, rfl, denote, same⟩ :=
      (ClientMetadata.sayOnce_members
        (ClientMetadata.avoids_declaredMembers avoids)).exists_trees ht
    exact ClientMetadata.read_of_valuesOf avoids proper denote same

/-- Information with values that are nearly nothing. -/
def sparse : ClientInformation where
  clientId := ""
  clientSecret := some ""
  issuedAt := -1
  secretExpiresAt := 0
  registrationToken := ""
  registrationUri := " "
  metadata := { ClientMetadata.blank with
    redirectUris := ["", ""]
    grantTypes := [.known .implicit, .other "", .known .implicit]
    authMethod := some (.known .none)
    scope := some ""
    extra := Dict.ofMembers [("consent", .null), ("", .object [("client_id", .array [])])] }

/-- Metadata with an undeclared member that only information declares. -/
def sparseMetadata : ClientMetadata :=
  { sparse.metadata with extra := Dict.ofMembers [("client_id", .null)] }

/-- Values that are nearly nothing are told from nothing. -/
theorem read_written_sparse :
    (sparse.metadata.extra.Avoids (declared.map Prod.fst) ∧ sparse.metadata.HasProperNames ∧
      read sparse.toJson = .ok sparse ∧ read (canonical sparse.toJson) = .ok sparse) ∧
    sparseMetadata.extra.Avoids (ClientMetadata.declared.map Prod.fst) ∧
      sparseMetadata.HasProperNames ∧
      ClientMetadata.read sparseMetadata.toJson = .ok sparseMetadata ∧
      ClientMetadata.read (canonical sparseMetadata.toJson) = .ok sparseMetadata := by
  have grants : ∀ g ∈ sparse.metadata.grantTypes, g.IsProper := by
    intro g hg k
    fin_cases hg <;> cases k <;> decide
  have method : ∀ a ∈ sparse.metadata.authMethod, a.IsProper := by
    rintro a ⟨⟩ k
    exact nofun
  have avoids : sparse.metadata.extra.Avoids (declared.map Prod.fst) := by decide
  have avoids' : sparseMetadata.extra.Avoids (ClientMetadata.declared.map Prod.fst) := by decide
  have proper : sparse.metadata.HasProperNames := ⟨grants, nofun, method⟩
  have proper' : sparseMetadata.HasProperNames := ⟨grants, nofun, method⟩
  have information := read_written.1 sparse avoids proper Empty
  have metadata := read_written.2 sparseMetadata avoids' proper' Empty
  exact ⟨⟨avoids, proper, information _ (.inl (denotes_self _)),
      information _ (.inr (denotes_self _))⟩,
    avoids', proper', metadata _ (.inl (denotes_self _)), metadata _ (.inr (denotes_self _))⟩

end ClientInformation

end RealmKeeper.Client
