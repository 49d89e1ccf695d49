import RealmKeeper.Proofs.Excerpts
import RealmKeeper.Proofs.PostedDocument

/-!
# How registration operations end

An operation on the registration of a client dispatches one request, if it passes its checks, and
ends as the outcome of this request says.

* `outcomes`: what becomes of the requests that are dispatched in a run;
* `Ends`: the rules by which an outcome ends an operation; what is taken from a response of success
  is `TakesInformation` for the operations that give information, and `TakesNothing` for the other;
* `ends_iff`: judging an outcome and taking what is there follows the rules;
* `KeepsLaw`: an operation that passes its checks has one outcome, and ends by the rules and in no
  other way;
* `registration_outcomes`: the four operations do.
-/

namespace RealmKeeper.Registration

open RealmKeeper.Http RealmKeeper.Client RealmKeeper.Json RealmKeeper.Admin RealmKeeper.Text

variable {S σ α : Type}

/-! ### The rules -/

/-- **The outcomes of the requests** that are dispatched in a run. -/
def outcomes (answer : (q : Question S) → StateM σ (Answer q)) (d : Operating S α) (s : σ) :
    List (Except TransportError Response) :=
  (d.history answer s).filterMap fun
    | (.initialToken _ _, _) => none
    | (.execute context request, t) => some (answer (.execute context request) t).1

/-- **What is taken from a response of success** with information: its body must arrive whole and be
a document of the information. -/
inductive TakesInformation (operation : Operation) (response : Response) :
    Except RegistrationError ClientInformation → Prop
  | broken : response.body.complete = false →
    TakesInformation operation response (.error (.transport operation (.body .reading)))
  | undecodable {refusal : Refusal} : response.body.complete = true →
    readBytes ClientInformation.read response.body.octets = .error refusal →
    TakesInformation operation response (.error (.decode operation refusal.cause))
  | decoded {information : ClientInformation} : response.body.complete = true →
    readBytes ClientInformation.read response.body.octets = .ok information →
    TakesInformation operation response (.ok information)

/-- **Nothing is taken** from a response of success, whatever its body is. -/
inductive TakesNothing (response : Response) : Except RegistrationError Unit → Prop
  | intro : TakesNothing response (.ok ())

/-- **How an outcome ends an operation**: it fails as its request does; another status than the one
of success is an error with the status and what is kept of the body, as far as that arrives; and
from a response of success something is taken. -/
inductive Ends (operation : Operation) (success : Nat)
    (Takes : Response → Except RegistrationError α → Prop) :
    Except TransportError Response → Except RegistrationError α → Prop
  | untransported {cause : TransportError} :
    Ends operation success Takes (.error cause) (.error (.transport operation cause))
  | unexpected {response : Response} : response.status ≠ success →
    Ends operation success Takes (.ok response) (.error (.http
      ⟨operation, response.status, Utf8.stringLossy (response.body.octets.take 4096)⟩))
  | successful {response : Response} {result : Except RegistrationError α} :
    response.status = success → Takes response result →
    Ends operation success Takes (.ok response) result

/-- **An operation keeps the law**: if it passes its checks it has one outcome, and ends as the
rules say and in no other way; if it does not, it dispatches nothing. -/
structure KeepsLaw (answer : (q : Question S) → StateM σ (Answer q)) (d : Operating S α) (s : σ)
    (operation : Operation) (success : Nat) (Takes : Response → Except RegistrationError α → Prop)
    (Passes : Prop) : Prop where
  ends : Passes → ∃ outcome, outcomes answer d s = [outcome] ∧
    ∀ result, (d.run answer s).1 = result ↔ Ends operation success Takes outcome result
  stays : ¬ Passes → outcomes answer d s = []

/-! ### Responses -/

theorem judge_of_success {operation : Operation} {response : Response}
    (h : response.status = successOf operation) :
    judge operation (.ok response) = .ok response :=
  if_pos h

theorem judge_of_other {operation : Operation} {response : Response}
    (h : response.status ≠ successOf operation) :
    judge operation (.ok response) = .error (.http (StatusError.ofResponse operation response)) :=
  if_neg h

theorem informationOf_of_complete {operation : Operation} {response : Response}
    (h : response.body.complete = true) :
    informationOf operation response =
      (readBytes ClientInformation.read response.body.octets).mapError fun refusal =>
        .decode operation refusal.cause := by
  simp only [informationOf, Delivery.whole?, h, if_true]

theorem informationOf_of_broken {operation : Operation} {response : Response}
    (h : response.body.complete = false) :
    informationOf operation response = .error (.transport operation (.body .reading)) := by
  simp [informationOf, Delivery.whole?, h]

theorem informationOf_eq_iff {operation : Operation} {response : Response}
    {result : Except RegistrationError ClientInformation} :
    informationOf operation response = result ↔ TakesInformation operation response result := by
  cases whole : response.body.complete with
  | false =>
    rw [informationOf_of_broken whole]
    constructor
    · rintro rfl
      exact .broken whole
    · rintro (_ | ⟨complete, -⟩ | ⟨complete, -⟩)
      · rfl
      all_goals cases whole.symm.trans complete
  | true =>
    rw [informationOf_of_complete whole]
    constructor
    · rintro rfl
      cases decoded : readBytes ClientInformation.read response.body.octets with
      | ok information => exact .decoded whole decoded
      | error refusal => exact .undecodable whole decoded
    · rintro (broken | ⟨-, refused⟩ | ⟨-, decoded⟩)
      · cases whole.symm.trans broken
      · rw [refused]
        rfl
      · rw [decoded]
        rfl

theorem takesNothing_iff {response : Response} {result : Except RegistrationError Unit} :
    .ok () = result ↔ TakesNothing response result := by
  constructor
  · rintro rfl
    exact .intro
  · rintro ⟨⟩
    rfl

/-- **Judging an outcome** and taking what is in its response follows the rules. -/
theorem ends_iff {operation : Operation} {take : Response → Except RegistrationError α}
    {Takes : Response → Except RegistrationError α → Prop}
    (takes : ∀ response result, take response = result ↔ Takes response result)
    (outcome : Except TransportError Response) (result : Except RegistrationError α) :
    (judge operation outcome).bind take = result ↔
      Ends operation (successOf operation) Takes outcome result := by
  cases outcome with
  | error cause =>
    constructor
    · rintro rfl
      exact .untransported
    · rintro ⟨⟩
      rfl
  | ok response =>
    by_cases status : response.status = successOf operation
    · rw [judge_of_success status]
      constructor
      · exact fun taken => .successful status ((takes response result).mp taken)
      · rintro (_ | other | ⟨-, taken⟩)
        · exact absurd status other
        · exact (takes response result).mpr taken
    · -- of the body those octets are kept that arrive, whether its end does or not
      have kept : StatusError.ofResponse operation response =
          ⟨operation, response.status, Utf8.stringLossy (response.body.octets.take 4096)⟩ := by
        rw [StatusError.ofResponse, Delivery.excerpt_eq]
        rfl
      rw [judge_of_other status, kept]
      constructor
      · rintro rfl
        exact .unexpected status
      · rintro (_ | _ | ⟨success, -⟩)
        · rfl
        · exact absurd success status

theorem deletion_ends_iff (outcome : Except TransportError Response)
    (result : Except RegistrationError Unit) :
    ((judge .delete outcome).map fun _ => ()) = result ↔
      Ends .delete 204 TakesNothing outcome result := by
  have same : ((judge .delete outcome).map fun _ => ()) =
      (judge .delete outcome).bind fun _ => .ok () := by
    cases judge .delete outcome <;> rfl
  rw [same]
  exact ends_iff (fun _ _ => takesNothing_iff) outcome result

/-! ### Dialogues that keep the law -/

section law

variable {answer : (q : Question S) → StateM σ (Answer q)} {s : σ} {operation : Operation}
  {success : Nat} {Takes : Response → Except RegistrationError α → Prop} {Passes : Prop}

theorem keepsLaw_done (fails : ¬ Passes) (result : Except RegistrationError α) :
    KeepsLaw answer (.done result) s operation success Takes Passes :=
  ⟨fun passes => absurd passes fails, fun _ => rfl⟩

theorem keepsLaw_execute (passes : Passes) (context : Context) (request : Request)
    {finish : Except TransportError Response → Except RegistrationError α}
    (ends : ∀ outcome result,
      finish outcome = result ↔ Ends operation success Takes outcome result) :
    KeepsLaw answer (.ask (.execute context request) fun outcome => .done (finish outcome)) s
      operation success Takes Passes :=
  ⟨fun _ => ⟨_, rfl, ends _⟩, fun fails => absurd passes fails⟩

theorem KeepsLaw.initialToken {source : S} {context : Context}
    {next : Answer (.initialToken source context) → Operating S α}
    (h : KeepsLaw answer (next (answer (.initialToken source context) s).1)
      (answer (.initialToken source context) s).2 operation success Takes Passes) :
    KeepsLaw answer (.ask (.initialToken source context) next) s operation success Takes Passes :=
  ⟨h.ends, h.stays⟩

/-- **An operation on a registration** has a request when it is addressed, and is refused else. -/
theorem keepsLaw_onRegistration {d : Operating S α} {registrationUri token : String}
    (document : Option Json) (context : Context)
    {finish : Except TransportError Response → Except RegistrationError α}
    (refused : ∀ e, registrationRequest operation registrationUri token document = .error e →
      d = .done (.error e))
    (dispatched : ∀ request,
      registrationRequest operation registrationUri token document = .ok request →
        d = .ask (.execute context request) fun outcome => .done (finish outcome))
    (ends : ∀ outcome result,
      finish outcome = result ↔ Ends operation success Takes outcome result) :
    KeepsLaw answer d s operation success Takes (IsAddressed operation registrationUri token) := by
  rcases registrationRequest_cases operation registrationUri token document with
    ⟨addressed, request, built, -⟩ | ⟨fails, e, failed⟩
  · rw [dispatched request built]
    exact keepsLaw_execute addressed context request ends
  · rw [refused e failed]
    exact keepsLaw_done fails _

/-- **Registering** dispatches its request when it comes to it. -/
theorem keepsLaw_register (source : Option S) (context : Context) (endpoint : String)
    (metadata : ClientMetadata) :
    KeepsLaw answer (register source context endpoint metadata) s .register 201
      (TakesInformation .register) (Registers answer source context endpoint s) := by
  rcases register_cases answer source context endpoint metadata s with
    ⟨comes, giver, next, request, asks, executes, -⟩ |
    ⟨fails, ⟨e, refused⟩ | ⟨giver, next, e, asks, refused⟩⟩
  · rw [asks]
    refine KeepsLaw.initialToken ?_
    rw [executes]
    exact keepsLaw_execute comes _ request (ends_iff fun _ _ => informationOf_eq_iff)
  · rw [refused]
    exact keepsLaw_done fails _
  · rw [asks]
    refine KeepsLaw.initialToken ?_
    rw [refused]
    exact keepsLaw_done fails _

end law

/-- **How registration operations end**, whatever is answered. Each of the four dispatches one
request if it passes its checks, and none else; and it ends as the outcome of its request says. -/
theorem registration_outcomes (answer : (q : Question S) → StateM σ (Answer q)) (s : σ) :
    (∀ source context endpoint metadata,
      KeepsLaw answer (register source context endpoint metadata) s .register 201
        (TakesInformation .register) (Registers answer source context endpoint s)) ∧
    (∀ context clientId registrationUri token,
      KeepsLaw answer (read context clientId registrationUri token) s .read 200
        (TakesInformation .read) (IsAddressed .read registrationUri token)) ∧
    (∀ context clientId registrationUri token metadata,
      KeepsLaw answer (update context clientId registrationUri token metadata) s .update 200
        (TakesInformation .update) (IsAddressed .update registrationUri token)) ∧
    ∀ context clientId registrationUri token,
      KeepsLaw answer (delete context clientId registrationUri token) s .delete 204 TakesNothing
        (IsAddressed .delete registrationUri token) := by
  refine ⟨keepsLaw_register,
    fun context clientId registrationUri token => ?_,
    fun context clientId registrationUri token metadata => ?_,
    fun context clientId registrationUri token => ?_⟩
  · refine keepsLaw_onRegistration none (context.forClient clientId)
      (fun e refused => ?_) (fun request built => ?_) (ends_iff fun _ _ => informationOf_eq_iff)
    · rw [Registration.read, refused]
    · rw [Registration.read, built]
      rfl
  · refine keepsLaw_onRegistration (some (metadata.updateDocument clientId))
      (context.forClient clientId) (fun e refused => ?_) (fun request built => ?_)
      (ends_iff fun _ _ => informationOf_eq_iff)
    · rw [update, refused]
    · rw [update, built]
      rfl
  · refine keepsLaw_onRegistration none (context.forClient clientId) (fun e refused => ?_)
      (fun request built => ?_) deletion_ends_iff
    · rw [delete, refused]
    · rw [delete, built]

end RealmKeeper.Registration
