import RealmKeeper.Proofs.ClosedRecords
import RealmKeeper.Proofs.ReviewAnswers
import RealmKeeper.Proofs.WrittenValues

/-!
# What counts as a realm configuration

Which documents are read as the resource that asks for a realm, and which realm they name.

* `IsObjectMeta`, `Specifies`, `Configures`: the grammar of the metadata, of the specification and
  of the whole resource, the last two with the name of the realm;
* `configures_iff`: the resources that are read are those of the grammar;
* `created_objects_read`: a creation is validated for the realm that its object names, and denied
  where the object names none.
-/

namespace RealmKeeper.Admission

open RealmKeeper.Json

/-! ### The grammar -/

/-- A text, or `null`. -/
def IsTextOrNull (v : Json) : Prop :=
  v = .null ∨ ∃ s, v = .string s

/-- **The metadata of a resource**: the names in it may lack, and are texts or `null`. -/
def IsObjectMeta (v : Json) : Prop :=
  ∃ parts, HasParts ["name", "namespace"] v parts ∧
    (∀ u ∈ parts "name", IsTextOrNull u) ∧ ∀ u ∈ parts "namespace", IsTextOrNull u

/-- A part that may lack names a realm; without it the name is empty. -/
def NamesRealm (names : Json → String → Prop) : Option Json → String → Prop
  | none, realm => realm = ""
  | some v, realm => names v realm

/-- **The specification of a resource**, with the realm that it names by a text. -/
def Specifies (v : Json) (realm : String) : Prop :=
  ∃ parts, HasParts ["realmName"] v parts ∧
    NamesRealm (fun u s => u = .string s) (parts "realmName") realm

/-- **A resource that asks for a realm**, with the realm that its specification names. -/
def Configures (v : Json) (realm : String) : Prop :=
  ∃ parts, HasParts ["metadata", "spec"] v parts ∧ (∀ u ∈ parts "metadata", IsObjectMeta u) ∧
    NamesRealm Specifies (parts "spec") realm

/-! ### Reading by the grammar -/

section reading

variable {v : Json} {realm : String}

theorem exists_readOption_iff :
    (∃ s, readOption readString v = .ok s) ↔ IsTextOrNull v := by
  unfold IsTextOrNull
  cases v <;> simp [readOption, readString, mismatch, refuse, Except.map]

theorem isObjectMeta_iff : IsObjectMeta v ↔ ∃ m, ObjectMeta.read v = .ok m := by
  refine Iff.trans ?_ (ObjectMeta.shape.exists_read_iff (by decide) (by decide) _ v).symm
  refine exists_congr fun parts => and_congr_right fun _ => ?_
  simp only [ObjectMeta.shape, List.forall_mem_cons, List.not_mem_nil, false_implies, implies_true,
    and_true, Field.takes_of_iff, exists_readOption_iff]
  rfl

theorem becomes_iff_namesRealm {α : Type} {read : Json → Decoded α} (place : String → α)
    (apart : ∀ s s', place s = place s' ↔ s = s') {names : Json → String → Prop}
    (reads : ∀ u s, read u = .ok (place s) ↔ names u s) (part : Option Json) :
    Becomes read part (place "") (place realm) ↔ NamesRealm names part realm := by
  cases part with
  | none => exact apart realm ""
  | some u => exact reads u realm

theorem specifies_iff : Specifies v realm ↔ RealmSpec.read v = .ok ⟨realm⟩ := by
  have one : RealmSpec.read v = .ok ⟨realm⟩ ↔
      ∃ spec, RealmSpec.shape.read ⟨""⟩ v = .ok spec ∧ spec.realmName = realm := by
    constructor
    · exact fun h => ⟨_, h, rfl⟩
    · rintro ⟨spec, h, rfl⟩
      exact h
  rw [one, RealmSpec.shape.exists_read_place_iff RealmSpec.realmName (fun _ _ => rfl) [] [] rfl
    (by decide) (by decide) nofun]
  refine exists_congr fun parts => and_congr_right fun _ => ?_
  refine Iff.trans ?_ (and_iff_right nofun).symm
  exact (becomes_iff_namesRealm id (fun _ _ => Iff.rfl) (fun _ _ => readString_eq_ok_iff)
    (parts "realmName")).symm

/-- **The resources that are read** are those of the grammar. -/
theorem configures_iff :
    Configures v realm ↔ ∃ config, RealmConfig.read v = .ok config ∧ config.spec = ⟨realm⟩ := by
  have spared : (Field.of "metadata" false ObjectMeta.read fun m (c : RealmConfig) =>
      { c with objectMeta := m } : Field Empty RealmConfig).Spares (some ∘ RealmConfig.spec) := by
    intro u f h c
    obtain ⟨m, -, rfl⟩ := exists_of_map_eq_ok h
    rfl
  refine Iff.trans ?_ (RealmConfig.shape.exists_read_place_iff RealmConfig.spec (fun _ _ => rfl) [_]
    [] rfl (by decide) (by decide) (List.forall_mem_singleton.mpr spared) .blank v ⟨realm⟩).symm
  refine exists_congr fun parts => and_congr_right fun _ => and_congr ?_ ?_
  · refine Iff.trans ?_ List.forall_mem_singleton.symm
    rw [Field.takes_of_iff]
    exact forall₂_congr fun u _ => isObjectMeta_iff
  · exact (becomes_iff_namesRealm RealmSpec.mk (fun _ _ => RealmSpec.mk.injEq _ _ ▸ Iff.rfl)
      (fun _ _ => specifies_iff.symm) (parts "spec")).symm

end reading

end RealmKeeper.Admission

namespace RealmKeeper.Webhook

open RealmKeeper.Admission RealmKeeper.Json

variable {denied : List String} {request : ReviewRequest} {v : Json} {realm : String}

/-- The question whether an object may be created. -/
def creation (request : ReviewRequest) (object : Option Json) : ReviewRequest :=
  { request with operation := .create, object := object }

theorem exists_configOf_of_configures (h : Configures v realm) :
    ∃ config, configOf (some v) = .ok config ∧ config.spec = ⟨realm⟩ := by
  obtain ⟨config, read, named⟩ := configures_iff.mp h
  exact ⟨config, configOf_eq_ok_iff.mpr ⟨v, rfl, read⟩, named⟩

theorem configures_of_configOf {config : RealmConfig} (h : configOf (some v) = .ok config) :
    Configures v config.spec.realmName := by
  obtain ⟨_, ⟨⟩, read⟩ := configOf_eq_ok_iff.mp h
  exact configures_iff.mpr ⟨config, read, rfl⟩

theorem respond_of_configures (h : Configures v realm) :
    respond denied (creation request (some v)) =
      validateCreate denied (.ofName realm) >>= fun outcome =>
        .done (verdict request.uid outcome) := by
  obtain ⟨config, read, named⟩ := exists_configOf_of_configures h
  rw [respond_of_described rfl read]
  unfold validateCreate
  rw [named]
  rfl

theorem respond_of_not_configures (h : ∀ realm, ¬ Configures v realm) :
    ∃ message, respond denied (creation request (some v)) =
      .done ⟨request.uid, false, some ⟨400, message⟩, []⟩ := by
  cases read : configOf (some v) with
  | ok config => exact absurd (configures_of_configOf read) (h _)
  | error e => exact ⟨e.message, respond_of_unread rfl read⟩

/-- **Objects that are to be created are read by the grammar.** An object is a realm configuration
exactly when the grammar has it, and the realm that it names there is the one that the validator is
asked about. Every other object, and one that is missing, is denied with code 400, and nothing is
asked. An object of the grammar may be any dictionary with the parts that it wants. -/
theorem created_objects_read (denied : List String) (review : Review) (request : ReviewRequest)
    (v : Json) :
    let created (object : Option Json) : Review :=
      { review with request := some (creation request object) }
    let answered (response : ReviewResponse) : Except WebhookError Review :=
      .ok ⟨"admission.k8s.io/v1", "AdmissionReview", none, some response⟩
    (∀ config, configOf (some v) = .ok config → Configures v config.spec.realmName) ∧
    (∀ realm, Configures v realm →
      (∃ config, configOf (some v) = .ok config ∧ config.spec = ⟨realm⟩) ∧
      answerReview denied (created (some v)) =
        validateCreate denied (.ofName realm) >>= fun outcome =>
          .done (answered (verdict request.uid outcome))) ∧
    ((∀ realm, ¬ Configures v realm) → ∃ message,
      answerReview denied (created (some v)) =
        .done (answered ⟨request.uid, false, some ⟨400, message⟩, []⟩)) ∧
    (∃ message, answerReview denied (created none) =
        .done (answered ⟨request.uid, false, some ⟨400, message⟩, []⟩)) ∧
    ∀ d : Dict, v = d.toJson → HasParts ["metadata", "spec"] v d.get? := by
  intro created answered
  have review_eq (object : Option Json) : answerReview denied (created object) =
      respond denied (creation request object) >>= fun response => .done (answered response) :=
    answerReview_of_request rfl
  refine ⟨fun config => configures_of_configOf, fun realm h => ⟨?_, ?_⟩, fun h => ?_, ?_, ?_⟩
  · exact exists_configOf_of_configures h
  · rw [review_eq, respond_of_configures h, bind_assoc]
    rfl
  · obtain ⟨message, denies⟩ := @respond_of_not_configures denied request v h
    exact ⟨message, by rw [review_eq, denies]; rfl⟩
  · exact ⟨_, by rw [review_eq, respond_of_unread rfl rfl]; rfl⟩
  · rintro d rfl
    exact hasParts_dict d _

end RealmKeeper.Webhook
