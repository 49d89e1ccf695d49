import RealmKeeper.Proofs.History
import RealmKeeper.Proofs.OptionalParts
import RealmKeeper.Webhook.Router

/-!
# What reviews are answered

The webhook is strict about what is created and lets everything else pass. Nothing but the directory
of realms sees the context of a review, so a directory with any answers stands for every state of a
shutdown too.

* `Describes`: an object is there and is a realm configuration;
* `Decides`: the rules of an answer, with the lookups that were made for it;
* `reviews_answered`: every review with a question is answered by a rule, one without a question
  gets an error, and which of the two it is can be seen in its document.
-/

namespace RealmKeeper.Webhook

open RealmKeeper.Admission RealmKeeper.Json

variable {σ : Type} {answer : (q : Question) → StateM σ (Answer q)} {denied : List String} {s : σ}
  {request : ReviewRequest}

/-! ### The rules -/

/-- The object of a review is there and is a realm configuration. -/
def Describes (object : Option Json) (config : RealmConfig) : Prop :=
  ∃ document, object = some document ∧ RealmConfig.read document = .ok config

/-- **The rules of an answer**, with the lookups that are made for it, each in its state. -/
inductive Decides (answer : (q : Question) → StateM σ (Answer q)) (denied : List String) (s : σ)
    (request : ReviewRequest) : List (Question × σ) → ReviewResponse → Prop
  /-- Nothing is created; the objects are not looked at. -/
  | passed (other : request.operation ≠ .create) :
      Decides answer denied s request [] ⟨request.uid, true, none, []⟩
  /-- What is to be created is no realm configuration. -/
  | unreadable (creates : request.operation = .create)
      (unread : ∀ config, ¬ Describes request.object config) (message : String) :
      Decides answer denied s request [] ⟨request.uid, false, some ⟨400, message⟩, []⟩
  /-- The validator approves. -/
  | approved (creates : request.operation = .create) {config : RealmConfig}
      (described : Describes request.object config) {warnings : List String}
      (verdict : ((validateCreate denied config).run answer s).1 = .ok warnings) :
      Decides answer denied s request ((validateCreate denied config).history answer s)
        ⟨request.uid, true, none, warnings⟩
  /-- The validator rejects. -/
  | rejected (creates : request.operation = .create) {config : RealmConfig}
      (described : Describes request.object config) {e : AdmissionError}
      (verdict : ((validateCreate denied config).run answer s).1 = .error e) :
      Decides answer denied s request ((validateCreate denied config).history answer s)
        ⟨request.uid, false, some ⟨403, e.message⟩, []⟩

theorem Decides.uid_eq {lookups : List (Question × σ)} {response : ReviewResponse}
    (h : Decides answer denied s request lookups response) : response.uid = request.uid := by
  cases h <;> rfl

theorem Decides.isSome_status_iff {lookups : List (Question × σ)} {response : ReviewResponse}
    (h : Decides answer denied s request lookups response) :
    response.status.isSome ↔ response.allowed = false := by
  cases h <;> simp

/-! ### Answers -/

theorem configOf_eq_ok_iff {object : Option Json} {config : RealmConfig} :
    configOf object = .ok config ↔ Describes object config := by
  cases object with
  | none => simp [configOf, Describes]
  | some document =>
    cases h : RealmConfig.read document <;> simp [configOf, Describes, h, Except.mapError]

theorem respond_of_other (h : request.operation ≠ .create) :
    respond denied request = .done (.allow request.uid []) := by
  unfold respond
  cases ho : request.operation with
  | create => exact absurd ho h
  | _ => rfl

theorem respond_of_unread {e : AdmissionError} (creates : request.operation = .create)
    (h : configOf request.object = .error e) :
    respond denied request = .done (.deny request.uid badObjectCode e.message) := by
  simp only [respond, creates, h]

theorem respond_of_described {config : RealmConfig} (creates : request.operation = .create)
    (h : configOf request.object = .ok config) :
    respond denied request =
      (validateCreate denied config) >>= fun outcome => .done (verdict request.uid outcome) := by
  simp only [respond, creates, h]
  rfl

/-- **Every question is answered by a rule.** -/
theorem respond_decides (answer : (q : Question) → StateM σ (Answer q)) (denied : List String)
    (s : σ) (request : ReviewRequest) :
    Decides answer denied s request ((respond denied request).history answer s)
      ((respond denied request).run answer s).1 := by
  by_cases creates : request.operation = .create
  · cases h : configOf request.object with
    | error e =>
      have unread : ∀ config, ¬ Describes request.object config := by
        intro config described
        rw [configOf_eq_ok_iff.mpr described] at h
        cases h
      rw [respond_of_unread creates h]
      exact .unreadable creates unread e.message
    | ok config =>
      have described := configOf_eq_ok_iff.mp h
      rw [respond_of_described creates h, Dialog.history_bind_done, Dialog.run_bind_done]
      cases outcome : ((validateCreate denied config).run answer s).1 with
      | ok warnings => exact .approved creates described outcome
      | error e => exact .rejected creates described outcome
  · rw [respond_of_other creates]
    exact .passed creates

theorem answerReview_of_request {review : Review} (h : review.request = some request) :
    answerReview denied review =
      respond denied request >>= fun response => .done (.ok (.ofResponse response)) := by
  simp only [answerReview, h]
  rfl

theorem answerReview_of_none {review : Review} (h : review.request = none) :
    answerReview denied review = .done (.error .missingRequest) := by
  simp only [answerReview, h]

/-! ### Documents -/

section Documents

variable {φ : Type} [Medium φ] {t : ValueTree φ}

theorem request_eq_none_iff {review : Review} (h : Review.read t = .ok review) :
    review.request = none ↔ t.Lacks "request" 2 := by
  refine Shape.read_part_eq_none_iff Review.request "request" (Review.shape.fields.take 2)
    (Review.shape.fields.drop 3) rfl rfl (Field.fills_of fun _ _ => rfl) ?_ rfl h
  simp only [Review.shape, List.take, List.drop, List.cons_append, List.nil_append,
    List.forall_mem_cons]
  exact ⟨Field.spares_of (by decide) fun _ _ => rfl, Field.spares_of (by decide) fun _ _ => rfl,
    Field.spares_of (by decide) fun _ _ => rfl, fun _ hf => absurd hf List.not_mem_nil⟩

theorem object_eq_none_iff (h : ReviewRequest.read t = .ok request) :
    request.object = none ↔ t.Lacks "object" 4 := by
  refine Shape.read_part_eq_none_iff ReviewRequest.object "object"
    (ReviewRequest.shape.fields.take 4) (ReviewRequest.shape.fields.drop 5) rfl rfl
    (Field.fills_of fun _ _ => rfl) ?_ rfl h
  simp only [ReviewRequest.shape, List.take, List.drop, List.cons_append, List.nil_append,
    List.forall_mem_cons]
  exact ⟨Field.spares_of (by decide) fun _ _ => rfl, Field.spares_of (by decide) fun _ _ => rfl,
    Field.spares_of (by decide) fun _ _ => rfl, Field.spares_of (by decide) fun _ _ => rfl,
    Field.spares_of (by decide) fun _ _ => rfl, fun _ hf => absurd hf List.not_mem_nil⟩

end Documents

/-! ### The law -/

/-- **Every review is answered by the rules.** With any directory of realms, in any state: a review
with a question is answered with a review without one, whose answer echoes the identifier, has a
status exactly when it denies, and follows the rules; one without a question is an error that is
replied with status 400, and nothing is looked up. A question or an object that is missing or `null`
in the document is one that is not there. -/
theorem reviews_answered (answer : (q : Question) → StateM σ (Answer q)) (denied : List String)
    (s : σ) (review : Review) :
    let lookups := (answerReview denied review).history answer s
    let outcome := ((answerReview denied review).run answer s).1
    (∀ request, review.request = some request → ∃ response,
      outcome = .ok ⟨"admission.k8s.io/v1", "AdmissionReview", none, some response⟩ ∧
        response.uid = request.uid ∧ (response.status.isSome ↔ response.allowed = false) ∧
        Decides answer denied s request lookups response ∧ (reviewReply outcome).status = 200) ∧
    (review.request = none →
      outcome = .error .missingRequest ∧ lookups = [] ∧ (reviewReply outcome).status = 400) ∧
    (∀ document : ValueTree Fault, Review.read document = .ok review →
      (review.request = none ↔ document.Lacks "request" 2)) ∧
    (∀ question : ValueTree Fault, ∀ request, ReviewRequest.read question = .ok request →
      (request.object = none ↔ question.Lacks "object" 4)) := by
  intro lookups outcome
  refine ⟨?_, ?_, fun _ => request_eq_none_iff, fun _ _ => object_eq_none_iff⟩
  · intro request h
    have decides := respond_decides answer denied s request
    have hl : lookups = (respond denied request).history answer s := by
      show (answerReview denied review).history answer s = _
      rw [answerReview_of_request h, Dialog.history_bind_done]
    have ho : outcome = .ok (.ofResponse ((respond denied request).run answer s).1) := by
      show ((answerReview denied review).run answer s).1 = _
      rw [answerReview_of_request h, Dialog.run_bind_done]
    rw [hl, ho]
    exact ⟨_, rfl, decides.uid_eq, decides.isSome_status_iff, decides, rfl⟩
  · intro h
    have hl : lookups = [] := by
      show (answerReview denied review).history answer s = _
      rw [answerReview_of_none h, Dialog.history_done]
    have ho : outcome = .error .missingRequest := by
      show ((answerReview denied review).run answer s).1 = _
      rw [answerReview_of_none h]
      rfl
    rw [ho]
    exact ⟨rfl, hl, rfl⟩

end RealmKeeper.Webhook
