import RealmKeeper.Proofs.RegistrationRecords

/-!
# What the provider says is kept

The documents of client registration are read and written again.

* `echoMembers`: the members of a document that is read and written again;
* `ClientInformation.declared`: how the declared members are written, by name;
* `ClientInformation.members_echo`: information that was read from a document, of whatever medium,
  is written as the members of the document echo;
* `ClientInformation.echo_preserved`: the same for values that are their own canonical form.
-/

namespace RealmKeeper.Json

/-! ### Echoed members -/

section echoMembers

variable {forms : List (String × Form)} {name : String} {members : List (String × Json)}

/-- What becomes of the value of a name: a declared one has its form, any other one stays. -/
def echoValue (forms : List (String × Form)) (name : String) (v : Json) : Option Json :=
  match lookup name forms with
  | some form => form.echo v
  | none => some v

/-- **What becomes of the members of an object** that is read and written again. -/
def echoMembers (forms : List (String × Form)) (members : List (String × Json)) :
    List (String × Json) :=
  members.filterMap fun m => (echoValue forms m.1 m.2).map fun v => (m.1, v)

theorem valuesOf_echoMembers :
    valuesOf name (echoMembers forms members) =
      (valuesOf name members).filterMap (echoValue forms name) := by
  rw [echoMembers, valuesOf, valuesOf, List.filterMap_filterMap, List.filterMap_filterMap]
  refine List.filterMap_congr fun m _ => ?_
  by_cases h : m.1 = name
  · subst h
    cases hv : echoValue forms m.1 m.2 <;> simp [hv]
  · simp [h]

theorem SortedNames.echoMembers (h : SortedNames members) :
    SortedNames (Json.echoMembers forms members) := by
  refine List.Pairwise.filterMap _ ?_ h
  rintro m m' hlt n hn n' hn'
  obtain ⟨v, -, rfl⟩ := Option.map_eq_some_iff.mp hn
  obtain ⟨v', -, rfl⟩ := Option.map_eq_some_iff.mp hn'
  exact hlt

theorem Dict.members_eq_echoMembers {d e : Dict}
    (h : ∀ name, e.get? name = (d.get? name).bind (echoValue forms name)) :
    e.members = Json.echoMembers forms d.members := by
  refine e.sorted.eq_of_lookup d.sorted.echoMembers fun name => ?_
  rw [lookup_eq_head?, lookup_eq_head?, valuesOf_echoMembers, d.valuesOf_members,
    e.valuesOf_members, h name]
  cases d.get? name with
  | none => rfl
  | some v => cases hv : echoValue forms name v <;> simp [hv]

end echoMembers

end RealmKeeper.Json

namespace RealmKeeper.Client

open RealmKeeper.Json

/-! ### Declared members -/

/-- How the declared members of metadata are written. -/
def ClientMetadata.declared : List (String × Form) := [
  ("client_name", .nullable .text),
  ("redirect_uris", .list .text),
  ("grant_types", .list .name),
  ("response_types", .list .name),
  ("token_endpoint_auth_method", .nullable .name),
  ("scope", .nullable .text),
  ("contacts", .list .text),
  ("client_uri", .nullable .text),
  ("logo_uri", .nullable .text),
  ("policy_uri", .nullable .text),
  ("tos_uri", .nullable .text),
  ("jwks_uri", .nullable .text),
  ("software_id", .nullable .text),
  ("software_version", .nullable .text)]

/-- **How the declared members of information are written**, those of the metadata included. -/
def ClientInformation.declared : List (String × Form) := [
  ("client_id", .required),
  ("client_secret", .nullable .text),
  ("client_id_issued_at", .counted),
  ("client_secret_expires_at", .counted),
  ("registration_access_token", .filled),
  ("registration_client_uri", .filled)] ++ ClientMetadata.declared

namespace ClientInformation

theorem declared_eq : declared = layout.forms ++ ClientMetadata.layout.forms := rfl

theorem declaredNames_eq :
    declared.map Prod.fst = layout.names ++ ClientMetadata.layout.names := rfl

variable {name : String}

theorem echoValue_own {s : Slot Draft} (hs : s ∈ layout.slots) :
    echoValue declared s.name = s.wire.form.echo := by
  funext v
  rw [echoValue, declared_eq, lookup_append, Layout.lookup_forms hs]
  rfl

theorem echoValue_metadata {s : Slot ClientMetadata} (hs : s ∈ ClientMetadata.layout.slots) :
    echoValue declared s.name = s.wire.form.echo := by
  have apart : s.name ∉ layout.names := fun h => layout_apart s.name h (Layout.name_mem hs)
  funext v
  rw [echoValue, declared_eq, lookup_append, Layout.lookup_forms_of_not_mem apart,
    Layout.lookup_forms hs]
  rfl

theorem echoValue_other (own : name ∉ layout.names) (h : name ∉ ClientMetadata.layout.names) :
    echoValue declared name = some := by
  funext v
  rw [echoValue, declared_eq, lookup_append, Layout.lookup_forms_of_not_mem own,
    Layout.lookup_forms_of_not_mem h]
  rfl

/-! ### Reading and writing again -/

theorem echoed_metadata {members : List (String × Json)} {metadata : ClientMetadata}
    (h : ClientMetadata.read (.object members : Json) = .ok metadata) :
    ClientMetadata.layout.Echoed members metadata := by
  rw [ClientMetadata.read_eq] at h
  obtain ⟨trees, same, h⟩ := Layout.read_eq_ok_iff.mp h
  obtain rfl := ValueTree.object.inj same
  obtain ⟨members', denote, echoed⟩ := Layout.echoed_of_ofMembers h
  obtain rfl := denoteMembers_unique (denotes_self_members members) denote
  exact echoed

variable {φ : Type} [Medium φ]

/-- **What was read is kept, level by level**: the members of the registration itself, and the
metadata made of the others. -/
theorem echoed_of_read {t : ValueTree φ} {i : ClientInformation} (h : read t = .ok i) :
    ∃ members others, t.Denotes (.object members) ∧
      (∀ s ∈ layout.slots, s.written ⟨i, others⟩ =
        ((Dict.ofMembers members).get? s.name).bind s.wire.form.echo) ∧
      ClientMetadata.layout.Echoed (layout.others members) i.metadata := by
  obtain ⟨d, metadata, hd, hm, rfl⟩ := read_eq_ok_iff.mp h
  obtain ⟨trees, rfl, hd⟩ := Layout.read_eq_ok_iff.mp hd
  obtain ⟨members, denote, echoed⟩ := Layout.echoed_of_ofMembers hd
  have others : d.others.reverse = layout.others members := by
    have rest := congrArg Prod.fst echoed.rest
    rw [show layout.rest layout.blank = ([], ClientMetadata.blank) from rfl, foldl_gather,
      List.append_nil] at rest
    rw [show d.others = (layout.others members).reverse from rest, List.reverse_reverse]
  rw [others] at hm
  refine ⟨members, d.others, denotes_object.mpr ⟨trees, rfl, denote⟩, fun s hs => ?_,
    echoed_metadata hm⟩
  rw [written_withMetadata d.information metadata d.others d.others s hs]
  exact echoed.written s hs

section kept

variable {i : ClientInformation} {members others : List (String × Json)}

theorem get?_ofMembers_others (h : name ∉ layout.names) :
    (Dict.ofMembers (layout.others members)).get? name = (Dict.ofMembers members).get? name := by
  rw [Dict.get?_ofMembers, Dict.get?_ofMembers, Layout.valuesOf_others, if_neg h]

theorem get?_extra (echoed : ClientMetadata.layout.Echoed (layout.others members) i.metadata) :
    i.metadata.extra.get? name =
      if name ∈ layout.names ∨ name ∈ ClientMetadata.layout.names then none
      else (Dict.ofMembers members).get? name := by
  have rest : i.metadata.extra =
      Dict.ofMembers (ClientMetadata.layout.others (layout.others members)) := echoed.rest
  rw [rest, Dict.get?_ofMembers, Dict.get?_ofMembers, Layout.valuesOf_others,
    Layout.valuesOf_others]
  by_cases own : name ∈ layout.names <;> by_cases h : name ∈ ClientMetadata.layout.names <;>
    simp [own, h]

theorem extra_avoids (echoed : ClientMetadata.layout.Echoed (layout.others members) i.metadata) :
    i.metadata.extra.Avoids (declared.map Prod.fst) := by
  intro name hn
  rw [declaredNames_eq, List.mem_append] at hn
  rw [← Dict.get?_eq_none_iff, get?_extra echoed, if_pos hn]

/-- **What is written says of every name** what becomes of the value that was read. -/
theorem get?_members
    (own : ∀ s ∈ layout.slots, s.written ⟨i, others⟩ =
      ((Dict.ofMembers members).get? s.name).bind s.wire.form.echo)
    (echoed : ClientMetadata.layout.Echoed (layout.others members) i.metadata) (name : String) :
    (Dict.ofMembers i.members).get? name =
      ((Dict.ofMembers members).get? name).bind (echoValue declared name) := by
  have avoids := extra_avoids echoed
  rw [declaredNames_eq] at avoids
  rw [Dict.get?_ofMembers]
  by_cases ho : name ∈ layout.names
  · obtain ⟨s, hs, rfl⟩ := List.mem_map.mp ho
    rw [valuesOf_members_own (fun n hn => avoids n (List.mem_append_left _ hn)) hs others,
      last_toList fun _ => s.canonical_written, own s hs, echoValue_own hs]
  · rw [valuesOf_members_of_not_mem ho]
    by_cases hm : name ∈ ClientMetadata.layout.names
    · obtain ⟨s, hs, rfl⟩ := List.mem_map.mp hm
      rw [ClientMetadata.valuesOf_members (fun n hn => avoids n (List.mem_append_right _ hn)) hs,
        last_toList fun _ => s.canonical_written, echoed.written s hs, get?_ofMembers_others ho,
        echoValue_metadata hs]
    · rw [ClientMetadata.valuesOf_members_of_not_mem hm, last_toList fun _ => Dict.canonical_get?,
        get?_extra echoed, if_neg (not_or.mpr ⟨ho, hm⟩), echoValue_other ho hm,
        Option.bind_fun_some]

end kept

/-- **What the provider says is kept.** Information that was read, from whatever medium, is written
as the members of the document echo; of several members with one undeclared name the last counts. -/
theorem members_echo {t : ValueTree φ} {i : ClientInformation} (h : read t = .ok i) :
    ∃ members, t.Denotes (.object members) ∧
      canonical i.toJson = .object (echoMembers declared (Dict.ofMembers members).members) ∧
        i.metadata.extra.Avoids (declared.map Prod.fst) ∧ i.metadata.HasProperNames := by
  obtain ⟨members, others, denotes, own, echoed⟩ := echoed_of_read h
  refine ⟨members, denotes, ?_, extra_avoids echoed, ClientMetadata.isLegal_iff.mp echoed.legal⟩
  rw [toJson, canonical_object]
  exact congrArg ValueTree.object (Dict.members_eq_echoMembers (get?_members own echoed))

/-- **What the provider says is kept**: a value that was read as information is written again with
the same members, up to the forms of the declared ones. -/
theorem echo_preserved {v : Json} {i : ClientInformation} (unique : isCanonical v = true)
    (h : read v = .ok i) :
    ∃ members, v = .object members ∧
      canonical i.toJson = .object (echoMembers declared members) ∧
        i.metadata.extra.Avoids (declared.map Prod.fst) ∧ i.metadata.HasProperNames := by
  obtain ⟨members, denotes, echo, kept⟩ := members_echo h
  obtain rfl : v = .object members := Option.some.inj ((denotes_self v).symm.trans denotes)
  simp only [isCanonical, Bool.and_eq_true, decide_eq_true_eq] at unique
  have same := members_ofMembers unique.1 (canonicalMembers_of_areCanonical members unique.2)
  rw [same] at echo
  exact ⟨members, rfl, echo, kept⟩

/-- A document with members of every form. -/
def everyForm : Json := .object [
  ("client_id", .string ""),
  ("client_id_issued_at", .number (.integer 0 (by decide))),
  ("client_secret", .string ""),
  ("client_secret_expires_at", .number (.integer (-1) (by decide))),
  ("contacts", .array []),
  ("grant_types", .array [.object [("implicit", .null)], .string "ciba", .string "password"]),
  ("policy_uri", .null),
  ("registration_access_token", .string ""),
  ("require_consent", .null),
  ("token_endpoint_auth_method", .object [("none", .null)]),
  ("uses", .object [("", .number (.integer 0 (by decide))), ("client_name", .array [])])]

/-- The declared nulls and what is declared and says nothing are left out, names given as objects
are written as texts, and the rest stays. -/
theorem echo_preserved_everyForm :
    isCanonical everyForm = true ∧ ∃ i, read everyForm = .ok i ∧
      canonical i.toJson = .object [
        ("client_id", .string ""),
        ("client_secret", .string ""),
        ("client_secret_expires_at", .number (.integer (-1) (by decide))),
        ("grant_types", .array [.string "implicit", .string "ciba", .string "password"]),
        ("require_consent", .null),
        ("token_endpoint_auth_method", .string "none"),
        ("uses", .object [("", .number (.integer 0 (by decide))), ("client_name", .array [])])] ∧
      i.metadata.extra.Avoids (declared.map Prod.fst) ∧ i.metadata.HasProperNames := by
  have unique : isCanonical everyForm = true := by decide
  refine ⟨unique, _, rfl, ?_⟩
  obtain ⟨members, same, echo, kept⟩ := echo_preserved (v := everyForm) unique rfl
  obtain rfl := ValueTree.object.inj same
  exact ⟨echo, kept⟩

end ClientInformation

end RealmKeeper.Client
