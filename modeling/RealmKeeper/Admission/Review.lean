import RealmKeeper.Client.WireName
import RealmKeeper.Json.Encode

/-!
# Admission reviews

What is exchanged about an object that is to be admitted: the question and its answer.

* `Review`, which wraps a `ReviewRequest`, a `ReviewResponse`, or both;
* `Review.read` and `Review.toJson`;
* `ReviewResponse.allow` and `ReviewResponse.deny`.
-/

namespace RealmKeeper.Admission

open RealmKeeper.Json RealmKeeper.Client

/-- What is done with the object. -/
inductive ReviewOperation where
  | create
  | update
  | delete
  | connect
deriving DecidableEq, Repr, Inhabited

/-- The name of an operation. -/
def ReviewOperation.name : ReviewOperation → String
  | .create => "CREATE"
  | .update => "UPDATE"
  | .delete => "DELETE"
  | .connect => "CONNECT"

instance : Named ReviewOperation where
  title := "AdmissionOperation"
  all := [.create, .update, .delete, .connect]
  name := ReviewOperation.name
  mem_all := fun k => by cases k <;> decide
  name_injective := fun a b => by cases a <;> cases b <;> decide

/-- **The question**: an operation and the objects it is about, in canonical form. -/
structure ReviewRequest where
  uid : String
  operation : ReviewOperation
  name : Option String
  «namespace» : Option String
  object : Option Json
  oldObject : Option Json

/-- Why something is not allowed. -/
structure ReviewStatus where
  code : UInt16
  message : String
deriving DecidableEq, Repr

/-- **The answer.** -/
structure ReviewResponse where
  uid : String
  allowed : Bool
  status : Option ReviewStatus
  warnings : List String
deriving DecidableEq, Repr

/-- **A review**, as it is sent and answered. -/
structure Review where
  apiVersion : String
  kind : String
  request : Option ReviewRequest
  response : Option ReviewResponse

/-- The version of the reviews that answers are given in. -/
def reviewVersion : String := "admission.k8s.io/v1"

/-- The kind of the documents that reviews are. -/
def reviewKind : String := "AdmissionReview"

/-- The answer that allows, with warnings. -/
def ReviewResponse.allow (uid : String) (warnings : List String) : ReviewResponse :=
  ⟨uid, true, none, warnings⟩

/-- The answer that denies, with a code and a message. -/
def ReviewResponse.deny (uid : String) (code : UInt16) (message : String) : ReviewResponse :=
  ⟨uid, false, some ⟨code, message⟩, []⟩

/-- The review that carries an answer. -/
def Review.ofResponse (response : ReviewResponse) : Review :=
  ⟨reviewVersion, reviewKind, none, some response⟩

/-! ### Reading -/

section Reading

variable {φ : Type} [Medium φ]

/-- The members of a question, in order. -/
def ReviewRequest.shape : Shape φ ReviewRequest where
  name := "AdmissionRequest"
  fields := [
    .of "uid" true readString fun v r => { r with uid := v },
    .of "operation" true Named.read fun v r => { r with operation := v },
    .of "name" false (readOption readString) fun v r => { r with name := v },
    .of "namespace" false (readOption readString) fun v r => { r with «namespace» := v },
    .of "object" false (readOption readJson) fun v r => { r with object := v },
    .of "oldObject" false (readOption readJson) fun v r => { r with oldObject := v }]

/-- **Reads a question.** -/
def ReviewRequest.read : ValueTree φ → Decoded ReviewRequest :=
  ReviewRequest.shape.read ⟨"", .create, none, none, none, none⟩

/-- The members of a status, in order. -/
def ReviewStatus.shape : Shape φ ReviewStatus where
  name := "AdmissionStatus"
  fields := [
    .of "code" true readUInt16 fun v s => { s with code := v },
    .of "message" true readString fun v s => { s with message := v }]

/-- Reads a status. -/
def ReviewStatus.read : ValueTree φ → Decoded ReviewStatus :=
  ReviewStatus.shape.read ⟨0, ""⟩

/-- The members of an answer, in order. -/
def ReviewResponse.shape : Shape φ ReviewResponse where
  name := "AdmissionResponse"
  fields := [
    .of "uid" true readString fun v r => { r with uid := v },
    .of "allowed" true readBool fun v r => { r with allowed := v },
    .of "status" false (readOption ReviewStatus.read) fun v r => { r with status := v },
    .of "warnings" false (readList readString) fun v r => { r with warnings := v }]

/-- **Reads an answer.** -/
def ReviewResponse.read : ValueTree φ → Decoded ReviewResponse :=
  ReviewResponse.shape.read ⟨"", false, none, []⟩

/-- The members of a review, in order. -/
def Review.shape : Shape φ Review where
  name := "AdmissionReview"
  fields := [
    .of "apiVersion" true readString fun v r => { r with apiVersion := v },
    .of "kind" true readString fun v r => { r with kind := v },
    .of "request" false (readOption ReviewRequest.read) fun v r => { r with request := v },
    .of "response" false (readOption ReviewResponse.read) fun v r => { r with response := v }]

/-- **Reads a review.** -/
def Review.read : ValueTree φ → Decoded Review :=
  Review.shape.read ⟨"", "", none, none⟩

end Reading

/-! ### Writing -/

/-- A question as it is written. -/
def ReviewRequest.toJson (r : ReviewRequest) : Json :=
  .object ([("uid", .string r.uid), ("operation", .string r.operation.name)] ++
    textMember? "name" r.name ++ textMember? "namespace" r.namespace ++
    member? "object" r.object ++ member? "oldObject" r.oldObject)

/-- A status as it is written. -/
def ReviewStatus.toJson (s : ReviewStatus) : Json :=
  .object [("code", ofUInt16 s.code), ("message", .string s.message)]

/-- An answer as it is written. -/
def ReviewResponse.toJson (r : ReviewResponse) : Json :=
  .object ([("uid", .string r.uid), ("allowed", .bool r.allowed)] ++
    member? "status" (r.status.map ReviewStatus.toJson) ++
    listMember "warnings" (r.warnings.map .string))

/-- **A review as it is written.** -/
def Review.toJson (r : Review) : Json :=
  .object ([("apiVersion", .string r.apiVersion), ("kind", .string r.kind)] ++
    member? "request" (r.request.map ReviewRequest.toJson) ++
    member? "response" (r.response.map ReviewResponse.toJson))

end RealmKeeper.Admission
