import RealmKeeper.Client.Information
import RealmKeeper.Proofs.OpenRecords

/-!
# The records of client registration

Metadata and information as open records.

* `ClientMetadata.layout`, `ClientInformation.layout`: the declared members and their places;
* `ClientMetadata.HasProperNames`: no name of an enumeration is given as any other name;
* `ClientMetadata.declaredMembers_eq`, `ClientInformation.ownMembers_eq`: what is written, slot by
  slot;
* `ClientInformation.read_eq_ok_iff`: information is read in two steps, its own members first.
-/

namespace RealmKeeper.Client

open RealmKeeper.Json

/-! ### Metadata -/

namespace ClientMetadata

/-- The declared members of metadata. -/
def slots : List (Slot ClientMetadata) := [
  ⟨"client_name", _, .optional .text, clientName, fun v m => { m with clientName := v }⟩,
  ⟨"redirect_uris", _, .list .text, redirectUris, fun v m => { m with redirectUris := v }⟩,
  ⟨"grant_types", _, .list (OpenName.item _), grantTypes, fun v m => { m with grantTypes := v }⟩,
  ⟨"response_types", _, .list (OpenName.item _), responseTypes,
    fun v m => { m with responseTypes := v }⟩,
  ⟨"token_endpoint_auth_method", _, .optional (OpenName.item _), authMethod,
    fun v m => { m with authMethod := v }⟩,
  ⟨"scope", _, .optional .text, scope, fun v m => { m with scope := v }⟩,
  ⟨"contacts", _, .list .text, contacts, fun v m => { m with contacts := v }⟩,
  ⟨"client_uri", _, .optional .text, clientUri, fun v m => { m with clientUri := v }⟩,
  ⟨"logo_uri", _, .optional .text, logoUri, fun v m => { m with logoUri := v }⟩,
  ⟨"policy_uri", _, .optional .text, policyUri, fun v m => { m with policyUri := v }⟩,
  ⟨"tos_uri", _, .optional .text, tosUri, fun v m => { m with tosUri := v }⟩,
  ⟨"jwks_uri", _, .optional .text, jwksUri, fun v m => { m with jwksUri := v }⟩,
  ⟨"software_id", _, .optional .text, softwareId, fun v m => { m with softwareId := v }⟩,
  ⟨"software_version", _, .optional .text, softwareVersion,
    fun v m => { m with softwareVersion := v }⟩]

/-- **The layout of metadata**; the rest is the dictionary of all other members. -/
def layout : Layout ClientMetadata Dict where
  title := "ClientMetadata"
  slots := slots
  blank := blank
  keep name v m := { m with extra := m.extra.insert name v }
  rest := extra
  gather d m := d.insert m.1 m.2
  names_nodup := by decide
  get_put := by simp [slots]
  independent := by simp [slots, Slot.independent_iff]
  get_blank := by
    simp only [slots, List.forall_mem_cons]
    exact ⟨rfl, rfl, rfl, rfl, rfl, rfl, rfl, rfl, rfl, rfl, rfl, rfl, rfl, rfl, nofun⟩
  get_keep := by simp [slots]
  rest_put := by simp [slots]
  rest_keep _ _ _ := rfl
  ext r r' same rest := by
    simp only [slots, List.forall_mem_cons] at same
    obtain ⟨h1, h2, h3, h4, h5, h6, h7, h8, h9, h10, h11, h12, h13, h14, -⟩ := same
    cases r
    cases r'
    simp_all

theorem read_eq (φ : Type) [Medium φ] : read = layout.read (φ := φ) := rfl

/-- **No name of an enumeration is given as any other name.** -/
structure HasProperNames (m : ClientMetadata) : Prop where
  grants : ∀ g ∈ m.grantTypes, g.IsProper
  responses : ∀ r ∈ m.responseTypes, r.IsProper
  method : ∀ a ∈ m.authMethod, a.IsProper

theorem isLegal_iff {m : ClientMetadata} :
    (∀ s ∈ layout.slots, s.IsLegal m) ↔ m.HasProperNames := by
  have texts : ∀ {l : List String}, (Wire.list .text).Legal l := fun _ _ => trivial
  have text : ∀ {o : Option String}, (Wire.optional .text).Legal o := fun _ _ => trivial
  simp only [layout, slots, List.forall_mem_cons, Slot.IsLegal]
  constructor
  · rintro ⟨-, -, grants, responses, method, -⟩
    exact ⟨grants, responses, method⟩
  · rintro ⟨grants, responses, method⟩
    exact ⟨text, texts, grants, responses, method, text, texts, text, text, text, text, text, text,
      text, nofun⟩

end ClientMetadata

/-! ### What is written -/

theorem member?_ite (name : String) (c : Prop) [Decidable c] (v : Json) :
    member? name (if c then none else some v) = if c then [] else [(name, v)] := by
  by_cases h : c
  · rw [if_pos h, if_pos h]
    rfl
  · rw [if_neg h, if_neg h]
    rfl

namespace ClientMetadata

theorem declaredMembers_eq (m : ClientMetadata) : m.declaredMembers = layout.written m := by
  rw [declaredMembers]
  simp only [Layout.written, layout, slots, List.flatMap_cons, List.flatMap_nil, Slot.written,
    Wire.optional, Wire.list, member?_ite, textMember?, listMember, List.append_assoc,
    List.append_nil, List.isEmpty_map]
  rfl

section

variable {m : ClientMetadata}

/-- **What is written says of a declared member** what its slot says. -/
theorem valuesOf_members (avoids : m.extra.Avoids layout.names) {s : Slot ClientMetadata}
    (hs : s ∈ layout.slots) : valuesOf s.name m.members = (s.written m).toList := by
  rw [members, declaredMembers_eq, valuesOf_append, Layout.valuesOf_written hs,
    Dict.valuesOf_members, avoids.get?_eq_none (Layout.name_mem hs), Option.toList_none,
    List.append_nil]

theorem valuesOf_members_of_not_mem {name : String} (h : name ∉ layout.names) :
    valuesOf name m.members = (m.extra.get? name).toList := by
  rw [members, declaredMembers_eq, valuesOf_append, Layout.valuesOf_written_of_not_mem h,
    Dict.valuesOf_members, List.nil_append]

end

end ClientMetadata

/-! ### Information -/

namespace ClientInformation

/-- The declared members of the registration itself. -/
def slots : List (Slot Draft) := [
  ⟨"client_id", _, .required, fun d => d.information.clientId,
    fun v d => { d with information := { d.information with clientId := v } }⟩,
  ⟨"client_secret", _, .optional .text, fun d => d.information.clientSecret,
    fun v d => { d with information := { d.information with clientSecret := v } }⟩,
  ⟨"client_id_issued_at", _, .counted, fun d => d.information.issuedAt,
    fun v d => { d with information := { d.information with issuedAt := v } }⟩,
  ⟨"client_secret_expires_at", _, .counted, fun d => d.information.secretExpiresAt,
    fun v d => { d with information := { d.information with secretExpiresAt := v } }⟩,
  ⟨"registration_access_token", _, .filled, fun d => d.information.registrationToken,
    fun v d => { d with information := { d.information with registrationToken := v } }⟩,
  ⟨"registration_client_uri", _, .filled, fun d => d.information.registrationUri,
    fun v d => { d with information := { d.information with registrationUri := v } }⟩]

/-- **The layout of information** while it is read; the rest is what is left for the metadata. -/
def layout : Layout Draft (List (String × Json) × ClientMetadata) where
  title := "ClientInformation"
  slots := slots
  blank := ⟨blank, []⟩
  keep name v d := { d with others := (name, v) :: d.others }
  rest d := (d.others, d.information.metadata)
  gather rest m := (m :: rest.1, rest.2)
  names_nodup := by decide
  get_put := by simp [slots]
  independent := by simp [slots, Slot.independent_iff]
  get_blank := by
    simp only [slots, List.forall_mem_cons]
    exact ⟨rfl, rfl, rfl, rfl, rfl, rfl, nofun⟩
  get_keep := by simp [slots]
  rest_put := by simp [slots]
  rest_keep _ _ _ := rfl
  ext r r' same rest := by
    simp only [slots, List.forall_mem_cons] at same
    obtain ⟨h1, h2, h3, h4, h5, h6, -⟩ := same
    obtain ⟨⟨_, _, _, _, _, _, _⟩, _⟩ := r
    obtain ⟨⟨_, _, _, _, _, _, _⟩, _⟩ := r'
    simp_all

theorem layout_apart : ∀ name ∈ layout.names, name ∉ ClientMetadata.layout.names := by
  decide

theorem isLegal_draft (d : Draft) : ∀ s ∈ layout.slots, s.IsLegal d := by
  simp only [layout, slots, List.forall_mem_cons, Slot.IsLegal]
  exact ⟨trivial, fun _ _ => trivial, trivial, trivial, trivial, trivial, nofun⟩

theorem foldl_gather (members done : List (String × Json)) (metadata : ClientMetadata) :
    members.foldl layout.gather (done, metadata) = (members.reverse ++ done, metadata) := by
  induction members generalizing done with
  | nil => rfl
  | cons m rest ih =>
    rw [List.foldl_cons, List.reverse_cons, List.append_assoc]
    exact ih (m :: done)

theorem ownMembers_eq (i : ClientInformation) (others : List (String × Json)) :
    i.ownMembers = layout.written ⟨i, others⟩ := by
  rw [ownMembers]
  simp only [Layout.written, layout, slots, List.flatMap_cons, List.flatMap_nil, Slot.written,
    Wire.optional, Wire.required, Wire.counted, Wire.filled, member?_ite, textMember?,
    nonZeroMember, nonEmptyMember, List.append_assoc, List.append_nil]
  rfl

theorem written_withMetadata (i : ClientInformation) (metadata : ClientMetadata)
    (others others' : List (String × Json)) :
    ∀ s ∈ layout.slots, s.written ⟨{ i with metadata }, others⟩ = s.written ⟨i, others'⟩ := by
  simp [layout, slots, Slot.written]

section

variable {i : ClientInformation}

theorem valuesOf_members_own (avoids : i.metadata.extra.Avoids layout.names) {s : Slot Draft}
    (hs : s ∈ layout.slots) (others : List (String × Json)) :
    valuesOf s.name i.members = (s.written ⟨i, others⟩).toList := by
  have apart := layout_apart s.name (Layout.name_mem hs)
  rw [members, ownMembers_eq i others, valuesOf_append, Layout.valuesOf_written hs,
    ClientMetadata.valuesOf_members_of_not_mem apart, avoids.get?_eq_none (Layout.name_mem hs),
    Option.toList_none, List.append_nil]

theorem valuesOf_members_of_not_mem {name : String} (h : name ∉ layout.names) :
    valuesOf name i.members = valuesOf name i.metadata.members := by
  rw [members, ownMembers_eq i [], valuesOf_append, Layout.valuesOf_written_of_not_mem h,
    List.nil_append]

end

/-- **Information is read in two steps**: its own members, and the metadata from the others. -/
theorem read_eq_ok_iff {φ : Type} [Medium φ] {t : ValueTree φ} {i : ClientInformation} :
    read t = .ok i ↔ ∃ d metadata, layout.read t = .ok d ∧
      ClientMetadata.read (.object d.others.reverse : Json) = .ok metadata ∧
        i = { d.information with metadata } := by
  have first : shape.readOpen keepOther ⟨blank, []⟩ t = layout.read t := rfl
  rw [read, first]
  cases layout.read t with
  | error e => simp
  | ok d =>
    cases hm : ClientMetadata.read (.object d.others.reverse : Json) with
    | error e => simp [hm, Except.map]
    | ok metadata => simp [hm, Except.map, eq_comm]

end ClientInformation

end RealmKeeper.Client
