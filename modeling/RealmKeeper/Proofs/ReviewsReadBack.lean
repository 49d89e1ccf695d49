import RealmKeeper.Admission.Resource
import RealmKeeper.Admission.Review
import RealmKeeper.Proofs.RegistrationRecords
import RealmKeeper.Proofs.WrittenDocuments

/-!
# Reviews are read back

What is exchanged about an admission, from what it is written as.

* `RealmConfig.record`, `ReviewResponse.record`, `ReviewRequest.record`, `Review.record`: the types
  of the exchange, member by member;
* `Review.held`, `ReviewRequest.HasProperObjects`: what a review holds of its objects once it was
  read, and the objects that are held as they are;
* `ReviewRequest.FitsText`: objects that the text of a question holds;
* `written_reviews_read_back`: everything else is read back as it was;
* `texts_lose_numbers_and_depth`: two questions that their texts do not hold.
-/

namespace RealmKeeper.Admission

open RealmKeeper.Json RealmKeeper.Client

/-! ### Realm configurations -/

/-- The metadata of a resource, member by member. -/
def ObjectMeta.record : Record ObjectMeta where
  title := "ObjectMeta"
  declared := [
    .text? "name" name fun v m => { m with name := v },
    .text? "namespace" «namespace» fun v m => { m with «namespace» := v }]
  blank := ⟨none, none⟩
  names_nodup := by decide
  get_put := by simp [Member.text?, Member.optional]
  independent := by simp [Member.text?, Member.optional, Member.independent_iff]
  ext r r' same := by
    simp only [List.forall_mem_cons] at same
    obtain ⟨name, «namespace», -⟩ := same
    exact congr (congrArg ObjectMeta.mk name) «namespace»

/-- The specification of a resource, member by member. -/
def RealmSpec.record : Record RealmSpec where
  title := "RealmConfigSpec"
  declared := [
    .always "realmName" false readString .string realmName fun v s => { s with realmName := v }]
  blank := ⟨""⟩
  names_nodup := by decide
  get_put := by simp [Member.always]
  independent := by simp
  ext r r' same := by
    have realmName := same _ List.mem_cons_self
    exact congrArg RealmSpec.mk realmName

/-- A configuration, member by member. -/
def RealmConfig.record : Record RealmConfig where
  title := "RealmConfig"
  declared := [
    .always "metadata" false ObjectMeta.read ObjectMeta.toJson objectMeta
      fun v c => { c with objectMeta := v },
    .always "spec" false RealmSpec.read RealmSpec.toJson spec fun v c => { c with spec := v }]
  blank := .blank
  names_nodup := by decide
  get_put := by simp [Member.always]
  independent := by simp [Member.always, Member.independent_iff]
  ext r r' same := by
    simp only [List.forall_mem_cons] at same
    obtain ⟨objectMeta, spec, -⟩ := same
    exact congr (congrArg RealmConfig.mk objectMeta) spec

section configs

variable {φ : Type} [Medium φ]

theorem ObjectMeta.toJson_eq (m : ObjectMeta) : m.toJson = .object (record.written m) := by
  simp only [toJson, textMember?, Record.written, record, List.flatMap_cons, List.flatMap_nil,
    List.append_nil]
  rfl

theorem ObjectMeta.readsAs (m : ObjectMeta) : ReadsAs (φ := φ) read m.toJson m := by
  rw [toJson_eq]
  refine record.readsAs ?_
  exact List.forall_mem_cons.mpr ⟨Member.readsAs_text? rfl rfl,
    List.forall_mem_singleton.mpr (Member.readsAs_text? rfl rfl)⟩

theorem RealmSpec.readsAs (s : RealmSpec) : ReadsAs (φ := φ) read s.toJson s := by
  refine record.readsAs (r := s) ?_
  exact List.forall_mem_singleton.mpr (Member.readsAs_always (readsAs_string _))

theorem RealmConfig.readsAs (c : RealmConfig) : ReadsAs (φ := φ) read c.toJson c := by
  refine record.readsAs (r := c) ?_
  exact List.forall_mem_cons.mpr ⟨Member.readsAs_always c.objectMeta.readsAs,
    List.forall_mem_singleton.mpr (Member.readsAs_always c.spec.readsAs)⟩

end configs

/-! ### Answers -/

/-- A status, member by member. -/
def ReviewStatus.record : Record ReviewStatus where
  title := "AdmissionStatus"
  declared := [
    .always "code" true readUInt16 ofUInt16 code fun v s => { s with code := v },
    .always "message" true readString .string message fun v s => { s with message := v }]
  blank := ⟨0, ""⟩
  names_nodup := by decide
  get_put := by simp [Member.always]
  independent := by simp [Member.always, Member.independent_iff]
  ext r r' same := by
    simp only [List.forall_mem_cons] at same
    obtain ⟨code, message, -⟩ := same
    exact congr (congrArg ReviewStatus.mk code) message

/-- An answer, member by member. -/
def ReviewResponse.record : Record ReviewResponse where
  title := "AdmissionResponse"
  declared := [
    .always "uid" true readString .string uid fun v r => { r with uid := v },
    .always "allowed" true readBool .bool allowed fun v r => { r with allowed := v },
    .optional "status" ReviewStatus.read ReviewStatus.toJson status
      fun v r => { r with status := v },
    .texts "warnings" warnings fun v r => { r with warnings := v }]
  blank := ⟨"", false, none, []⟩
  names_nodup := by decide
  get_put := by simp [Member.always, Member.optional, Member.texts]
  independent := by simp [Member.always, Member.optional, Member.texts, Member.independent_iff]
  ext r r' same := by
    simp only [List.forall_mem_cons] at same
    obtain ⟨uid, allowed, status, warnings, -⟩ := same
    exact congr (congr (congr (congrArg ReviewResponse.mk uid) allowed) status) warnings

section answers

variable {φ : Type} [Medium φ]

theorem ReviewStatus.readsAs (s : ReviewStatus) : ReadsAs (φ := φ) read s.toJson s := by
  refine record.readsAs (r := s) ?_
  exact List.forall_mem_cons.mpr ⟨Member.readsAs_always (readsAs_uint16 _),
    List.forall_mem_singleton.mpr (Member.readsAs_always (readsAs_string _))⟩

theorem ReviewResponse.toJson_eq (r : ReviewResponse) : r.toJson = .object (record.written r) := by
  simp only [toJson, listMember, List.isEmpty_map, ← member?_ite, Record.written, record,
    List.flatMap_cons, List.flatMap_nil, List.append_nil]
  rfl

theorem ReviewResponse.readsAs (r : ReviewResponse) : ReadsAs (φ := φ) read r.toJson r := by
  rw [toJson_eq]
  refine record.readsAs ?_
  have status : ∀ s ∈ r.status, s.toJson ≠ .null ∧ ReadsAs (φ := φ) ReviewStatus.read s.toJson s :=
    fun s _ => ⟨nofun, s.readsAs⟩
  refine List.forall_mem_cons.mpr ⟨Member.readsAs_always (readsAs_string _), ?_⟩
  refine List.forall_mem_cons.mpr ⟨Member.readsAs_always (readsAs_bool _), ?_⟩
  exact List.forall_mem_cons.mpr ⟨Member.readsAs_optional_same status rfl rfl,
    List.forall_mem_singleton.mpr (Member.readsAs_texts rfl rfl)⟩

end answers

/-! ### Questions -/

/-- What is held of an object that is given: `null` is nothing, and any other value is held in
canonical form. -/
def heldObject : Option Json → Option Json
  | none | some .null => none
  | some v => some (canonical v)

theorem heldObject_of_ne_null {v : Json} (given : v ≠ .null) :
    heldObject (some v) = some (canonical v) := by
  cases v <;> first | exact absurd rfl given | rfl

/-- A question as it is held once it was read. -/
def ReviewRequest.held (r : ReviewRequest) : ReviewRequest :=
  { r with object := heldObject r.object, oldObject := heldObject r.oldObject }

/-- A review as it is held once it was read. -/
def Review.held (r : Review) : Review :=
  { r with request := r.request.map ReviewRequest.held }

/-- **The objects of a question are proper**: each is in canonical form, as values are held, and
none is `null`, which cannot be told from nothing. -/
@[mk_iff]
structure ReviewRequest.HasProperObjects (r : ReviewRequest) : Prop where
  object : ∀ v ∈ r.object, isCanonical v = true ∧ v ≠ .null
  oldObject : ∀ v ∈ r.oldObject, isCanonical v = true ∧ v ≠ .null

/-- A question, member by member. -/
def ReviewRequest.record : Record ReviewRequest where
  title := "AdmissionRequest"
  declared := [
    .always "uid" true readString .string uid fun v r => { r with uid := v },
    .always "operation" true Named.read (fun o => .string o.name) operation
      fun v r => { r with operation := v },
    .text? "name" name fun v r => { r with name := v },
    .text? "namespace" «namespace» fun v r => { r with «namespace» := v },
    .optional "object" readJson id object fun v r => { r with object := v },
    .optional "oldObject" readJson id oldObject fun v r => { r with oldObject := v }]
  blank := ⟨"", .create, none, none, none, none⟩
  names_nodup := by decide
  get_put := by simp [Member.always, Member.optional, Member.text?]
  independent := by simp [Member.always, Member.optional, Member.text?, Member.independent_iff]
  ext r r' same := by
    simp only [List.forall_mem_cons] at same
    obtain ⟨uid, operation, name, «namespace», object, oldObject, -⟩ := same
    have texts := congr (congr (congr (congrArg ReviewRequest.mk uid) operation) name) «namespace»
    exact congr (congr texts object) oldObject

/-- A review, member by member. -/
def Review.record : Record Review where
  title := "AdmissionReview"
  declared := [
    .always "apiVersion" true readString .string apiVersion fun v r => { r with apiVersion := v },
    .always "kind" true readString .string kind fun v r => { r with kind := v },
    .optional "request" ReviewRequest.read ReviewRequest.toJson request
      fun v r => { r with request := v },
    .optional "response" ReviewResponse.read ReviewResponse.toJson response
      fun v r => { r with response := v }]
  blank := ⟨"", "", none, none⟩
  names_nodup := by decide
  get_put := by simp [Member.always, Member.optional]
  independent := by simp [Member.always, Member.optional, Member.independent_iff]
  ext r r' same := by
    simp only [List.forall_mem_cons] at same
    obtain ⟨apiVersion, kind, request, response, -⟩ := same
    exact congr (congr (congr (congrArg Review.mk apiVersion) kind) request) response

section questions

variable {φ : Type} [Medium φ]

theorem readsAs_object {σ : Type} {name : String} {get : σ → Option Json}
    {put : Option Json → σ → σ} {blank r r' : σ} (same : get r' = heldObject (get r))
    (nothing : get blank = none) :
    (Member.optional name readJson id get put).ReadsAs φ blank r r' := by
  refine Member.readsAs_optional (fun v hv => ?_) fun none => ?_
  · rw [same, hv]
    by_cases null : v = .null
    · subst null
      exact readsAs_option_null _
    · rw [heldObject_of_ne_null null]
      exact (readsAs_json v).option null
  · rw [same, none, nothing]
    rfl

theorem ReviewRequest.toJson_eq (r : ReviewRequest) : r.toJson = .object (record.written r) := by
  simp only [toJson, textMember?, List.append_assoc, Record.written, record, List.flatMap_cons,
    List.flatMap_nil, List.append_nil, Member.written, Member.optional, Option.map_id_fun, id]
  rfl

theorem ReviewRequest.readsAs (r : ReviewRequest) : ReadsAs (φ := φ) read r.toJson r.held := by
  rw [toJson_eq]
  refine record.readsAs ?_
  refine List.forall_mem_cons.mpr ⟨Member.readsAs_always (readsAs_string _), ?_⟩
  refine List.forall_mem_cons.mpr ⟨Member.readsAs_always (Named.readsAs _), ?_⟩
  refine List.forall_mem_cons.mpr ⟨Member.readsAs_text? rfl rfl, ?_⟩
  refine List.forall_mem_cons.mpr ⟨Member.readsAs_text? rfl rfl, ?_⟩
  exact List.forall_mem_cons.mpr ⟨readsAs_object rfl rfl,
    List.forall_mem_singleton.mpr (readsAs_object rfl rfl)⟩

theorem Review.toJson_eq (r : Review) : r.toJson = .object (record.written r) := by
  simp only [toJson, List.append_assoc, Record.written, record, List.flatMap_cons,
    List.flatMap_nil, List.append_nil]
  rfl

theorem Review.readsAs (r : Review) : ReadsAs (φ := φ) read r.toJson r.held := by
  rw [toJson_eq]
  refine record.readsAs ?_
  have response : ∀ a ∈ r.response, a.toJson ≠ .null ∧
      ReadsAs (φ := φ) ReviewResponse.read a.toJson a := fun a _ => ⟨nofun, a.readsAs⟩
  refine List.forall_mem_cons.mpr ⟨Member.readsAs_always (readsAs_string _), ?_⟩
  refine List.forall_mem_cons.mpr ⟨Member.readsAs_always (readsAs_string _), ?_⟩
  refine List.forall_mem_cons.mpr ⟨Member.readsAs_optional (fun q hq => ?_) fun none => ?_,
    List.forall_mem_singleton.mpr (Member.readsAs_optional_same response rfl rfl)⟩
  · have held : r.held.request = some q.held := by rw [held, hq, Option.map_some]
    rw [held]
    exact q.readsAs.option nofun
  · rw [held, none]
    rfl

end questions

/-! ### What is held of a review -/

theorem heldObject_eq_self_iff {object : Option Json} :
    heldObject object = object ↔ ∀ v ∈ object, isCanonical v = true ∧ v ≠ .null := by
  cases object with
  | none => exact iff_of_true rfl nofun
  | some v =>
    by_cases null : v = .null
    · subst null
      exact iff_of_false nofun fun proper => (proper .null rfl).2 rfl
    · have single : (∀ u ∈ some v, isCanonical u = true ∧ u ≠ .null) ↔ isCanonical v = true := by
        simp [null]
      rw [heldObject_of_ne_null null, single, Option.some.injEq]
      constructor
      · intro same
        exact same ▸ isCanonical_canonical v
      · exact canonical_of_isCanonical v

theorem ReviewRequest.held_eq_self_iff {r : ReviewRequest} : r.held = r ↔ r.HasProperObjects := by
  have parts : r.held = r ↔
      heldObject r.object = r.object ∧ heldObject r.oldObject = r.oldObject := by
    cases r
    simp [held]
  rw [parts, heldObject_eq_self_iff, heldObject_eq_self_iff, hasProperObjects_iff]

theorem Review.held_eq_self_iff {r : Review} :
    r.held = r ↔ ∀ q ∈ r.request, q.HasProperObjects := by
  obtain ⟨apiVersion, kind, request, response⟩ := r
  cases request with
  | none => exact iff_of_true rfl nofun
  | some q => simp [held, ReviewRequest.held_eq_self_iff]

/-! ### What the text of a review holds -/

section texts

variable {room : Nat}

/-- **The text of a question holds its objects.** -/
@[mk_iff]
structure ReviewRequest.FitsText (room : Nat) (r : ReviewRequest) : Prop where
  object : ∀ v ∈ r.object, IsTextual room v
  oldObject : ∀ v ∈ r.oldObject, IsTextual room v

theorem ObjectMeta.isTextual (m : ObjectMeta) : IsTextual (room + 1) m.toJson := by
  rw [toJson_eq, Record.isTextual_iff]
  simp [record, Member.written, Member.text?, Member.optional, IsTextual.string]

theorem RealmSpec.isTextual (s : RealmSpec) : IsTextual (room + 1) s.toJson := by
  refine .object ?_
  simp [IsTextual.string]

theorem RealmConfig.isTextual (c : RealmConfig) : IsTextual (room + 2) c.toJson := by
  refine .object ?_
  simp [c.objectMeta.isTextual, c.spec.isTextual]

theorem ReviewStatus.isTextual (s : ReviewStatus) : IsTextual (room + 1) s.toJson := by
  refine .object ?_
  simp [ofUInt16, IsTextual.string, IsTextual.number (isSpelled_integer _ _)]

theorem ReviewResponse.isTextual (r : ReviewResponse) : IsTextual (room + 2) r.toJson := by
  have texts : IsTextual (room + 1) (.array (r.warnings.map .string)) := by
    refine .array ?_
    simp [IsTextual.string]
  rw [toJson_eq, Record.isTextual_iff]
  simp [record, Member.written, Member.always, Member.optional, Member.texts, IsTextual.string,
    IsTextual.bool, ReviewStatus.isTextual, texts]

theorem ReviewRequest.isTextual_iff {r : ReviewRequest} :
    IsTextual (room + 1) r.toJson ↔ r.FitsText room := by
  rw [toJson_eq, Record.isTextual_iff, fitsText_iff]
  simp [record, Member.written, Member.always, Member.optional, Member.text?, IsTextual.string]

theorem Review.isTextual_iff {r : Review} :
    IsTextual (room + 3) r.toJson ↔ ∀ q ∈ r.request, q.FitsText (room + 1) := by
  rw [toJson_eq, Record.isTextual_iff]
  simp [record, Member.written, Member.always, Member.optional, IsTextual.string,
    ReviewResponse.isTextual, ReviewRequest.isTextual_iff]

end texts

/-- **Reading undoes writing.** Reviews and questions are read back from what they are written as
exactly where the objects in them are proper; answers and configurations always are. Texts hold
reviews whose objects they hold, and every integer. -/
theorem written_reviews_read_back :
    (∀ review : Review,
      (IsReadBack Review.read review.toJson review ↔
        ∀ request ∈ review.request, request.HasProperObjects) ∧
      (IsTextual greatestDepth review.toJson ↔
        ∀ request ∈ review.request, request.FitsText 125)) ∧
    (∀ request : ReviewRequest,
      (IsReadBack ReviewRequest.read request.toJson request ↔ request.HasProperObjects) ∧
      (IsTextual greatestDepth request.toJson ↔ request.FitsText 126)) ∧
    (∀ response : ReviewResponse,
      IsReadBack ReviewResponse.read response.toJson response ∧
        IsTextual greatestDepth response.toJson) ∧
    (∀ config : RealmConfig,
      IsReadBack RealmConfig.read config.toJson config ∧ IsTextual greatestDepth config.toJson) ∧
    ∀ n exact, (Numeral.integer n exact).IsSpelled := by
  refine ⟨fun review => ⟨?_, Review.isTextual_iff⟩,
    fun request => ⟨?_, ReviewRequest.isTextual_iff⟩,
    fun response => ⟨?_, response.isTextual⟩,
    fun config => ⟨?_, config.isTextual⟩,
    isSpelled_integer⟩
  · rw [isReadBack_iff fun φ _ => review.readsAs]
    exact Review.held_eq_self_iff
  · rw [isReadBack_iff fun φ _ => request.readsAs]
    exact ReviewRequest.held_eq_self_iff
  · exact isReadBack_of_readsAs fun φ _ => response.readsAs
  · exact isReadBack_of_readsAs fun φ _ => config.readsAs

/-! ### What texts do not hold -/

/-- A question about an object. -/
def questionOf (object : Json) : ReviewRequest :=
  ⟨"u", .create, none, none, some object, none⟩

/-- An array in an array, and so on. -/
def nested : Nat → Json
  | 0 => .array []
  | depth + 1 => .array [nested depth]

/-- `23.308445025757262`, of which the reader first rounds the digits, and then the quotient. -/
def roundedTwice : Numeral :=
  .float ⟨false, 6560744020786631, -48⟩

/-- A question that was read from its text, as it is written again. -/
def rewritten? (r : ReviewRequest) : Option String :=
  (readBytes ReviewRequest.read (bytes r.toJson)).toOption.map fun back => compact back.toJson

/-- **A text does not hold every number, and nothing too deep**: the first question is read with
another number, and the second is not read, where arrays stand 127 deep in the object. -/
theorem texts_lose_numbers_and_depth :
    ((questionOf (.number roundedTwice)).HasProperObjects ∧
      readBytes ReviewRequest.read (bytes (questionOf (.number roundedTwice)).toJson) ≠
        .ok (questionOf (.number roundedTwice))) ∧
    (questionOf (nested 126)).HasProperObjects ∧
      readBytes ReviewRequest.read (bytes (questionOf (nested 126)).toJson) ≠
        .ok (questionOf (nested 126)) := by
  have proper : ∀ object, isCanonical object = true → object ≠ .null →
      (questionOf object).HasProperObjects := by
    intro object canonical given
    refine ⟨?_, nofun⟩
    rintro _ ⟨⟩
    exact ⟨canonical, given⟩
  have lost : ∀ r : ReviewRequest, rewritten? r ≠ some (compact r.toJson) →
      readBytes ReviewRequest.read (bytes r.toJson) ≠ .ok r := by
    intro r other same
    refine other ?_
    rw [rewritten?, same]
    rfl
  exact ⟨⟨proper _ rfl nofun, lost _ (by decide +kernel)⟩,
    proper _ (by decide +kernel) nofun, lost _ (by decide +kernel)⟩

end RealmKeeper.Admission
