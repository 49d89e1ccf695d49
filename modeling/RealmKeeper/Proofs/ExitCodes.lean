import RealmKeeper.Command.Run
import RealmKeeper.Proofs.Classification
import RealmKeeper.Proofs.HandedBack
import RealmKeeper.Proofs.RegistrationOutcomes
import RealmKeeper.Proofs.Results

/-!
# Exit codes

What the exit code of a command says about the response to its own request.

* `Reaches`: a command passes its checks and has its request executed;
* `Answers`: the response that is handed back for this request;
* `ExitTells`: what each exit code says;
* `exit_codes_tell`: it is true of every command line that is accepted.
-/

namespace RealmKeeper.Command

open RealmKeeper.Http RealmKeeper.Admin RealmKeeper.Client RealmKeeper.Provider RealmKeeper.Json
open RealmKeeper.Text
open RealmKeeper.Registration hiding Question Answer Operating

variable {invocation : Invocation} {input : List UInt8} {admin : Option AdminClient}
  {context : Context} {request : Request} {w v : World} {α : Type}

/-! ### What a command does -/

/-- The operation of a command. -/
def operationOf : Action → Operation
  | .register _ _ => .register
  | .get _ => .read
  | .update _ _ => .update
  | .delete _ _ => .delete

/-- The status with which the operation of a command succeeds. -/
def expectedStatus : Action → Nat
  | .register _ _ => 201
  | .get _ => 200
  | .update _ _ => 200
  | .delete _ _ => 204

/-- A deletion is confirmed, on the command line or in the input. -/
def Invocation.IsConfirmed (invocation : Invocation) (input : List UInt8) : Prop :=
  ∀ client, invocation.action = .delete client false → confirmation input = .ok true

theorem Invocation.IsConfirmed.answer {client : ClientArguments} {flagged : Bool}
    (confirmed : invocation.IsConfirmed input)
    (action : invocation.action = .delete client flagged) :
    (if flagged then .ok true else confirmation input) = .ok true := by
  cases flagged with
  | true => rfl
  | false => exact confirmed client action

/-- **A command passes its checks**, and its own request is executed: by whom tokens are renewed, in
which context, the request, and the world in which that begins. -/
inductive Reaches (invocation : Invocation) (w : World) :
    Option AdminClient → Context → Request → World → Prop
  | register {endpoint : Option String} {arguments : MetadataArguments} {c : AdminClient}
      {place token : String} {metadata : ClientMetadata} {url : Url} {here : List Contact}
      {v : World} {request : Request} (action : invocation.action = .register endpoint arguments)
      (authorised : adminOf invocation = .ok (some c))
      (placed : endpointOf endpoint (some c) = .ok place)
      (described : metadataOf arguments = .ok metadata) (parsed : Url.ofString place = .ok url)
      (issued : w.Runs (c.tokenForRegistration .atRequests) here (.ok token) v)
      (built : buildRequest .register url token (some metadata.toJson) = .ok request) :
      Reaches invocation w (some c) commandContext.anonymous request v
  | get {client : ClientArguments} {admin : Option AdminClient} {request : Request}
      (action : invocation.action = .get client) (authorised : adminOf invocation = .ok admin)
      (built : registrationRequest .read client.registrationUri client.registrationToken none =
        .ok request) :
      Reaches invocation w admin (commandContext.forClient client.clientId) request w
  | update {client : ClientArguments} {arguments : MetadataArguments} {metadata : ClientMetadata}
      {admin : Option AdminClient} {request : Request}
      (action : invocation.action = .update client arguments)
      (authorised : adminOf invocation = .ok admin)
      (described : metadataOf arguments = .ok metadata)
      (built : registrationRequest .update client.registrationUri client.registrationToken
        (some (metadata.updateDocument client.clientId)) = .ok request) :
      Reaches invocation w admin (commandContext.forClient client.clientId) request w
  | delete {client : ClientArguments} {confirmed : Bool} {admin : Option AdminClient}
      {request : Request} (action : invocation.action = .delete client confirmed)
      (authorised : adminOf invocation = .ok admin)
      (built : registrationRequest .delete client.registrationUri client.registrationToken none =
        .ok request) :
      Reaches invocation w admin (commandContext.forClient client.clientId) request w

/-- **The response to a command**: the one that is handed back for its own request. -/
def Answers (invocation : Invocation) (w : World) (response : Response) : Prop :=
  ∃ admin context request v, Reaches invocation w admin context request v ∧
    HandsBack admin context request v (some response)

/-- The body of the response arrives whole and holds information about a client. -/
def Holds (response : Response) : Prop :=
  response.body.complete = true ∧
    ∃ information, readBytes ClientInformation.read response.body.octets = .ok information

/-- **What an exit code says.** -/
structure ExitTells (invocation : Invocation) (w : World) (code : Nat) : Prop where
  success : code = 0 ↔ ∃ response, Answers invocation w response ∧
    response.status = expectedStatus invocation.action ∧
      (operationOf invocation.action ≠ .delete → Holds response)
  unauthorized : code = 3 ↔ ∃ response, Answers invocation w response ∧ response.status = 401
  rejected : code = 2 ↔ ∃ response, Answers invocation w response ∧
    response.status ≠ expectedStatus invocation.action ∧ response.status ≠ 401
  other : code = 1 ↔ ∀ response, Answers invocation w response →
    response.status = expectedStatus invocation.action ∧
      operationOf invocation.action ≠ .delete ∧ ¬ Holds response
  /-- No response of anybody else makes another code than 1. -/
  unreached : (∀ admin context request v, ¬ Reaches invocation w admin context request v) →
    code = 1
  /-- Neither does a request for which no response is handed back. -/
  unanswered : ∀ admin context request v, Reaches invocation w admin context request v →
    HandsBack admin context request v none → code = 1

/-! ### Codes of failures -/

/-- The exit code of the result of an operation. -/
def codeOf : Except RegistrationError α → Nat
  | .ok _ => 0
  | .error (.http e) => if e.status = 401 then 3 else 2
  | .error _ => 1

theorem codeOf_of_none {e : RegistrationError}
    (h : (Failure.registration e).ownStatusError? = none) :
    codeOf (.error e : Except RegistrationError α) = 1 := by
  cases e with
  | http s => cases h
  | _ => rfl

theorem exitCode_of_none {r : Report} (h : r.statusError? = none) : exitCode r = 1 := by
  simp [exitCode, Report.isUnauthorized, Report.isStatusError, h]

theorem exitCode_conclude (prompt text : String) (print : α → String)
    (result : Except RegistrationError α) :
    (conclude prompt text print result).transcript.exitCode = codeOf result := by
  cases result with
  | ok a => rfl
  | error e =>
    have status : ((Report.ofFailure (.registration e)).within text).statusError? =
        (Failure.registration e).ownStatusError? := Report.statusError?_eq _
    show exitCode _ = _
    cases e with
    | http s =>
      simp only [exitCode, Report.isUnauthorized, Report.isStatusError, status, codeOf,
        Failure.ownStatusError?, Option.any_some, Option.isSome_some, decide_eq_true_eq]
      simp
    | _ => exact exitCode_of_none status

/-! ### Codes of responses -/

/-- The exit code that the response to an operation makes. -/
def codeOfResponse (operation : Operation) : Option Response → Nat
  | none => 1
  | some response =>
    if response.status = successOf operation then
      if operation = .delete then 0
      else
        match informationOf operation response with
        | .ok _ => 0
        | .error _ => 1
    else if response.status = 401 then 3 else 2

/-- **The information in a response** is had when the response holds it; else there is an error that
is no status error. -/
theorem informationOf_cases (operation : Operation) (response : Response) :
    (∃ information, informationOf operation response = .ok information ∧ Holds response) ∨
      ∃ e : RegistrationError, informationOf operation response = .error e ∧
        (Failure.registration e).ownStatusError? = none ∧ ¬ Holds response := by
  cases whole : response.body.complete with
  | false =>
    refine .inr ⟨_, informationOf_of_broken whole, rfl, ?_⟩
    rintro ⟨complete, -⟩
    rw [whole] at complete
    cases complete
  | true =>
    rw [informationOf_of_complete whole]
    cases decoded : readBytes ClientInformation.read response.body.octets with
    | ok information => exact .inl ⟨information, rfl, whole, information, decoded⟩
    | error refusal =>
      refine .inr ⟨_, rfl, rfl, ?_⟩
      rintro ⟨-, information, held⟩
      rw [decoded] at held
      cases held

theorem codeOf_informed (operation : Operation) (h : operation ≠ .delete)
    (outcome : Except TransportError Response) :
    codeOf ((judge operation outcome).bind (informationOf operation)) =
      codeOfResponse operation outcome.toOption := by
  cases outcome with
  | error cause => rfl
  | ok response =>
    show _ = ite _ _ _
    by_cases status : response.status = successOf operation
    · rw [judge_of_success status, if_pos status, if_neg h]
      show codeOf (informationOf operation response) = _
      rcases informationOf_cases operation response with ⟨i, hi, -⟩ | ⟨e, he, other, -⟩
      · rw [hi]
        rfl
      · rw [he]
        exact codeOf_of_none other
    · rw [judge_of_other status, if_neg status]
      rfl

theorem codeOf_deleted (outcome : Except TransportError Response) :
    codeOf ((judge .delete outcome).map fun _ => ()) = codeOfResponse .delete outcome.toOption := by
  cases outcome with
  | error cause => rfl
  | ok response =>
    show _ = ite _ _ _
    by_cases status : response.status = successOf .delete
    · rw [judge_of_success status, if_pos status]
      rfl
    · rw [judge_of_other status, if_neg status]
      rfl

/-! ### Codes of commands -/

/-- The exit code of a session in a world. -/
def codeIn (w : World) (session : Session) : Nat :=
  (w.perform session).1.transcript.exitCode

theorem codeIn_stopped {r : Report} (prompt : String) (h : r.statusError? = none) :
    codeIn w (stopped prompt r) = 1 :=
  exitCode_of_none h

theorem codeIn_operate (d : Registration.Operating AdminClient α) (prompt text : String)
    (print : α → String) :
    codeIn w (operate admin d prompt text print) = codeOf (w.perform (registering admin d)).1 := by
  have performs := World.perform_bind w (registering admin d)
    (fun result => .done (conclude prompt text print result))
  have code : codeIn w (operate admin d prompt text print) =
      (conclude prompt text print (w.perform (registering admin d)).1).transcript.exitCode :=
    congrArg (fun x : Outcome × World => x.1.transcript.exitCode) performs
  rw [code]
  exact exitCode_conclude prompt text print _

theorem ownStatusError?_of_buildRequest {operation : Operation} {url : Url} {token : String}
    {document : Option Json} {e : RegistrationError}
    (h : buildRequest operation url token document = .error e) :
    (Failure.registration e).ownStatusError? = none := by
  unfold buildRequest at h
  cases legal : bearer? token with
  | none =>
    rw [legal] at h
    obtain rfl := Except.error.inj h
    rfl
  | some credential =>
    rw [legal] at h
    cases h

theorem ownStatusError?_of_registrationRequest {operation : Operation} {uri token : String}
    {document : Option Json} {e : RegistrationError}
    (h : registrationRequest operation uri token document = .error e) :
    (Failure.registration e).ownStatusError? = none := by
  unfold registrationRequest registrationUrl parseEndpoint at h
  by_cases blank : Text.isAllBlank uri.toList = true
  · rw [if_pos blank] at h
    obtain rfl := Except.error.inj h
    rfl
  rw [if_neg blank] at h
  cases parsed : Url.ofString uri with
  | error cause =>
    rw [parsed] at h
    obtain rfl := Except.error.inj h
    rfl
  | ok url =>
    rw [parsed] at h
    exact ownStatusError?_of_buildRequest h

/-- **An operation on a registration** has the code of what its request ends with. -/
theorem codeIn_onRegistration (clientId : String) {operation : Operation} (prompt text : String)
    {finish : Except TransportError Response → Except RegistrationError α} (print : α → String)
    (finishes : ∀ outcome, codeOf (finish outcome) = codeOfResponse operation outcome.toOption) :
    codeIn w (operate admin (onRegistration context clientId finish (.ok request)) prompt text
        print) =
      codeOfResponse operation (ending admin (context.forClient clientId) request w) := by
  have performs := World.perform_bind w
    ((Renewal.execute admin (context.forClient clientId) request).through renewalAnswer)
    (fun outcome => .done (finish outcome))
  rw [codeIn_operate]
  exact (congrArg (fun x => codeOf x.1) performs).trans (finishes _)

theorem codeIn_unchecked (clientId : String) {operation : Operation} (prompt text : String)
    {finish : Except TransportError Response → Except RegistrationError α} (print : α → String)
    {uri token : String} {document : Option Json} {e : RegistrationError}
    (h : registrationRequest operation uri token document = .error e) :
    codeIn w (operate admin (onRegistration context clientId finish (.error e)) prompt text
      print) = 1 := by
  rw [codeIn_operate]
  exact codeOf_of_none (ownStatusError?_of_registrationRequest h)

theorem codeIn_register {c : AdminClient} {place token : String} {metadata : ClientMetadata}
    {url : Url} {here : List Contact} (prompt text : String) (print : ClientInformation → String)
    (parsed : Url.ofString place = .ok url)
    (issued : w.Runs (c.tokenForRegistration .atRequests) here (.ok token) v)
    (built : buildRequest .register url token (some metadata.toJson) = .ok request) :
    codeIn w (operate (some c) (register (some c) context place metadata) prompt text print) =
      codeOfResponse .register (ending (some c) context.anonymous request v) := by
  have performs := World.perform_bind w (c.tokenForRegistration .atRequests)
    (afterToken (some c) context url metadata)
  have executes := World.perform_bind v
    ((Renewal.execute (some c) context.anonymous request).through renewalAnswer)
    (fun outcome => .done ((judge .register outcome).bind (informationOf .register)))
  rw [codeIn_operate, registering_register _ _ _ _ _ parsed]
  refine (congrArg (fun x => codeOf x.1) performs).trans ?_
  rw [issued.performs]
  show codeOf (v.perform (afterToken _ _ _ _ _)).1 = _
  rw [afterToken, built]
  exact (congrArg (fun x => codeOf x.1) executes).trans (codeOf_informed .register (by decide) _)

/-- **A command that reaches its own request** has the code of the response that is handed back. -/
theorem Reaches.code (h : Reaches invocation w admin context request v)
    (confirmed : invocation.IsConfirmed input) :
    codeIn w (perform invocation input) =
      codeOfResponse (operationOf invocation.action) (ending admin context request v) := by
  cases h with
  | register action authorised placed described parsed issued built =>
    rw [action]
    simp only [perform, performAction, authorised, action, placed, described]
    exact codeIn_register _ _ _ parsed issued built
  | get action authorised built =>
    rw [action]
    simp only [perform, performAction, authorised, action, read_eq_onRegistration, built]
    exact codeIn_onRegistration _ _ _ _ (codeOf_informed .read (by decide))
  | update action authorised described built =>
    rw [action]
    simp only [perform, performAction, authorised, action, described, update_eq_onRegistration,
      built]
    exact codeIn_onRegistration _ _ _ _ (codeOf_informed .update (by decide))
  | @delete client flagged _ _ action authorised built =>
    have answer := confirmed.answer action
    rw [action]
    simp only [perform, performAction, authorised, action, answer, delete_eq_onRegistration, built]
    exact codeIn_onRegistration _ _ _ _ codeOf_deleted

/-! ### Commands that fail a check -/

theorem statusError?_of_baseUrlOf {r : Report} (h : baseUrlOf invocation = .error r) :
    r.statusError? = none := by
  obtain ⟨e, rfl⟩ := mapError_eq_error h
  exact Report.statusError?_eq _

theorem statusError?_of_adminOf {r : Report} (h : adminOf invocation = .error r) :
    r.statusError? = none := by
  unfold adminOf at h
  split at h
  · rcases bind_eq_error h with early | ⟨url, late⟩
    · exact statusError?_of_baseUrlOf early
    · obtain ⟨e, rfl⟩ := mapError_eq_error (map_eq_error late)
      exact Report.statusError?_eq _
  · cases h

theorem statusError?_of_metadataOf {arguments : MetadataArguments} {r : Report}
    (h : metadataOf arguments = .error r) : r.statusError? = none := by
  have further : furtherMembers arguments.further = .error r := map_eq_error h
  unfold furtherMembers at further
  split at further
  · cases further
  · split at further
    · obtain rfl := Except.error.inj further
      exact Report.statusError?_eq _
    · cases further
    · obtain rfl := Except.error.inj further
      rfl

theorem statusError?_of_endpointOf {endpoint : Option String} {r : Report}
    (h : endpointOf endpoint admin = .error r) : r.statusError? = none := by
  unfold endpointOf at h
  cases endpoint with
  | some place => cases h
  | none =>
    cases admin with
    | some c => cases h
    | none =>
      obtain rfl := Except.error.inj h
      rfl

theorem codeIn_register_or {place : String} (prompt text : String)
    (print : ClientInformation → String) (metadata : ClientMetadata) :
    codeIn w (operate admin (register admin context place metadata) prompt text print) = 1 ∨
      ∃ c url here token v request, admin = some c ∧ Url.ofString place = .ok url ∧
        w.Runs (c.tokenForRegistration .atRequests) here (.ok token) v ∧
        buildRequest .register url token (some metadata.toJson) = .ok request := by
  cases admin with
  | none =>
    refine .inl ?_
    rw [codeIn_operate]
    rfl
  | some c =>
    cases parsed : Url.ofString place with
    | error cause =>
      refine .inl ?_
      rw [codeIn_operate]
      unfold register parseEndpoint
      rw [parsed]
      rfl
    | ok url =>
      have performs := World.perform_bind w (c.tokenForRegistration .atRequests)
        (afterToken (some c) context url metadata)
      have code := congrArg (fun x => codeOf x.1) performs
      obtain ⟨outcome, v, issued⟩ : ∃ outcome v,
          w.perform (c.tokenForRegistration .atRequests) = (outcome, v) := ⟨_, _, rfl⟩
      rw [issued] at code
      rw [codeIn_operate, registering_register _ _ _ _ _ parsed]
      cases outcome with
      | error e => exact .inl code
      | ok token =>
        cases built : buildRequest .register url token (some metadata.toJson) with
        | error e =>
          rw [afterToken, built] at code
          exact .inl (code.trans (codeOf_of_none (ownStatusError?_of_buildRequest built)))
        | ok request =>
          exact .inr ⟨c, url, _, token, v, request, rfl, rfl, ⟨issued, rfl⟩, built⟩

/-- **A command fails a check**, and has the code 1, or it reaches its own request. -/
theorem code_eq_one_or_reaches (w : World) (confirmed : invocation.IsConfirmed input) :
    codeIn w (perform invocation input) = 1 ∨
      ∃ admin context request v, Reaches invocation w admin context request v := by
  -- the checks in the order in which they are made; past the last one there is a request
  cases authorised : adminOf invocation with
  | error r =>
    refine .inl ?_
    simp only [perform, authorised]
    exact codeIn_stopped _ (statusError?_of_adminOf authorised)
  | ok admin =>
    simp only [perform, performAction, authorised]
    cases action : invocation.action with
    | register endpoint arguments =>
      cases placed : endpointOf endpoint admin with
      | error r =>
        simp only [placed]
        exact .inl (codeIn_stopped _ (statusError?_of_endpointOf placed))
      | ok place =>
        cases described : metadataOf arguments with
        | error r =>
          simp only [placed, described]
          exact .inl (codeIn_stopped _ (statusError?_of_metadataOf described))
        | ok metadata =>
          simp only [placed, described]
          refine (codeIn_register_or _ _ _ metadata).imp_right ?_
          rintro ⟨c, url, here, token, v, request, rfl, parsed, issued, built⟩
          exact ⟨_, _, _, _, .register action authorised placed described parsed issued built⟩
    | get client =>
      cases built : registrationRequest .read client.registrationUri client.registrationToken
        none with
      | error e =>
        refine .inl ?_
        simp only [read_eq_onRegistration, built]
        exact codeIn_unchecked _ _ _ _ built
      | ok request => exact .inr ⟨_, _, _, _, .get action authorised built⟩
    | update client arguments =>
      cases described : metadataOf arguments with
      | error r =>
        simp only [described]
        exact .inl (codeIn_stopped _ (statusError?_of_metadataOf described))
      | ok metadata =>
        cases built : registrationRequest .update client.registrationUri client.registrationToken
          (some (metadata.updateDocument client.clientId)) with
        | error e =>
          refine .inl ?_
          simp only [described, update_eq_onRegistration, built]
          exact codeIn_unchecked _ _ _ _ built
        | ok request => exact .inr ⟨_, _, _, _, .update action authorised described built⟩
    | delete client flagged =>
      have answer := confirmed.answer action
      cases built : registrationRequest .delete client.registrationUri client.registrationToken
        none with
      | error e =>
        refine .inl ?_
        simp only [answer, delete_eq_onRegistration, built]
        exact codeIn_unchecked _ _ _ _ built
      | ok request => exact .inr ⟨_, _, _, _, .delete action authorised built⟩

/-! ### The law -/

theorem expectedStatus_eq (action : Action) :
    expectedStatus action = successOf (operationOf action) := by
  cases action <;> rfl

theorem successOf_ne_unauthorized (operation : Operation) : successOf operation ≠ 401 := by
  cases operation <;> decide

/-- What a code says about the response that makes it. -/
structure CodeTells (action : Action) (response : Response) (code : Nat) : Prop where
  success : code = 0 ↔ response.status = expectedStatus action ∧
    (operationOf action ≠ .delete → Holds response)
  unauthorized : code = 3 ↔ response.status = 401
  rejected : code = 2 ↔ response.status ≠ expectedStatus action ∧ response.status ≠ 401
  other : code = 1 ↔ response.status = expectedStatus action ∧ operationOf action ≠ .delete ∧
    ¬ Holds response

theorem codeOfResponse_tells (action : Action) (response : Response) :
    CodeTells action response (codeOfResponse (operationOf action) (some response)) := by
  have expected := expectedStatus_eq action
  have other := expected.trans_ne (successOf_ne_unauthorized (operationOf action))
  rw [codeOfResponse, ← expected]
  by_cases status : response.status = expectedStatus action
  swap
  · rw [if_neg status]
    by_cases unauthorized : response.status = 401
    · rw [if_pos unauthorized]
      constructor <;> simp [unauthorized, other.symm]
    · rw [if_neg unauthorized]
      constructor <;> simp [status, unauthorized]
  rw [if_pos status]
  by_cases deletes : operationOf action = .delete
  · rw [if_pos deletes]
    constructor <;> simp [status, deletes, other]
  · rw [if_neg deletes]
    rcases informationOf_cases (operationOf action) response with
      ⟨i, hi, holds⟩ | ⟨e, he, -, broken⟩
    · rw [hi]
      constructor <;> simp [status, deletes, holds, other]
    · rw [he]
      constructor <;> simp [status, deletes, broken, other]

theorem Answers.code {response : Response} (h : Answers invocation w response)
    (confirmed : invocation.IsConfirmed input) :
    codeIn w (perform invocation input) =
      codeOfResponse (operationOf invocation.action) (some response) := by
  obtain ⟨admin, context, request, v, reaches, hands⟩ := h
  rw [reaches.code confirmed, hands.ending_eq]

theorem code_eq_one_or_answers (w : World) (confirmed : invocation.IsConfirmed input) :
    codeIn w (perform invocation input) = 1 ∨ ∃ response, Answers invocation w response := by
  rcases code_eq_one_or_reaches w confirmed with one | ⟨admin, context, request, v, reaches⟩
  · exact .inl one
  have code := reaches.code confirmed
  cases ends : ending admin context request v with
  | none =>
    rw [ends] at code
    exact .inl code
  | some response =>
    exact .inr ⟨response, admin, context, request, v, reaches, handsBack_iff.mpr ends⟩

/-- **The code of a command says what its response is.** -/
theorem perform_tells (w : World) (confirmed : invocation.IsConfirmed input) :
    ExitTells invocation w (codeIn w (perform invocation input)) := by
  have answered := code_eq_one_or_answers w confirmed
  have tells : ∀ response, Answers invocation w response →
      CodeTells invocation.action response (codeIn w (perform invocation input)) := by
    intro response h
    rw [h.code confirmed]
    exact codeOfResponse_tells invocation.action response
  have unanswered : ∀ admin context request v, Reaches invocation w admin context request v →
      HandsBack admin context request v none → codeIn w (perform invocation input) = 1 := by
    intro admin context request v reaches hands
    rw [reaches.code confirmed, hands.ending_eq]
    rfl
  generalize codeIn w (perform invocation input) = code at answered tells unanswered ⊢
  -- A code other than 1 comes with a response, and each response decides on the code.
  have exactly : ∀ n (P : Response → Prop), n ≠ 1 →
      (∀ response, Answers invocation w response → (code = n ↔ P response)) →
        (code = n ↔ ∃ response, Answers invocation w response ∧ P response) := by
    intro n P hn decides
    constructor
    · rintro rfl
      obtain ⟨response, h⟩ := answered.resolve_left hn
      exact ⟨response, h, (decides response h).mp rfl⟩
    · rintro ⟨response, h, hp⟩
      exact (decides response h).mpr hp
  refine ⟨?_, ?_, ?_, ⟨?_, ?_⟩, ?_, unanswered⟩
  · exact exactly 0 _ (by decide) fun response h => (tells response h).success
  · exact exactly 3 _ (by decide) fun response h => (tells response h).unauthorized
  · exact exactly 2 _ (by decide) fun response h => (tells response h).rejected
  · rintro rfl response h
    exact (tells response h).other.mp rfl
  · intro fails
    rcases answered with one | ⟨response, h⟩
    · exact one
    · exact (tells response h).other.mpr (fails response h)
  · intro unreached
    refine answered.resolve_right ?_
    rintro ⟨response, admin, context, request, v, reaches, -⟩
    exact unreached admin context request v reaches

/-- **Exit codes tell the truth.** For every command line that is accepted, with a deletion that is
confirmed: the code is 0 exactly when the response to the command's own request has the status of
success and, unless it is deleted, the client in its body; 3 exactly when the response is 401; 2
exactly when it has another status; and 1 in every other case. -/
theorem exit_codes_tell {environment : Environment} {words : List (List UInt8)}
    (accepted : Invocation.ofWords environment words = .ok invocation)
    (confirmed : invocation.IsConfirmed input) (w : World) :
    ExitTells invocation w (w.perform (run environment words input)).1.exitCode := by
  have performs := World.perform_bind w (perform invocation input)
    (fun outcome => .done outcome.transcript)
  have code : (w.perform (run environment words input)).1.exitCode =
      codeIn w (perform invocation input) := by
    simp only [run, accepted]
    exact congrArg (fun x => x.1.exitCode) performs
  rw [code]
  exact perform_tells w confirmed

/-- The command line of a deletion without an administrative client. -/
def deletionWords : List (List UInt8) :=
  ["--idp-base-url", "http://idp.test", "delete", "--client-id", "c", "--registration-uri",
    "http://idp.test/c", "--registration-token", "t"].map Utf8.bytes

/-- What it spells out. -/
def deletion : Invocation where
  baseUrl := "http://idp.test"
  realm := "master"
  adminRealm := "master"
  adminClientId := none
  adminClientSecret := none
  initialExpiration := (Duration.parse? "5m".toList).getD default
  timeout := (Duration.parse? "10s".toList).getD default
  verbose := false
  format := .json
  showSecrets := false
  action := .delete ⟨"c", "http://idp.test/c", "t"⟩ false

/-- A provider that authorises nothing. -/
def refusing : World := .start none [] ⟨.reply ⟨401, ⟨[], true⟩⟩, 0⟩

/-- The deletion is confirmed in the input and refused, which its code tells. -/
theorem exit_codes_tell_refused :
    Invocation.ofWords (fun _ => none) deletionWords = .ok deletion ∧
      deletion.IsConfirmed (Utf8.bytes "yes\n") ∧
      (refusing.perform (run (fun _ => none) deletionWords (Utf8.bytes "yes\n"))).1.exitCode = 3 ∧
      ExitTells deletion refusing
        (refusing.perform (run (fun _ => none) deletionWords (Utf8.bytes "yes\n"))).1.exitCode := by
  have accepted : Invocation.ofWords (fun _ => none) deletionWords = .ok deletion := by
    decide +kernel
  have confirmed : deletion.IsConfirmed (Utf8.bytes "yes\n") := by
    intro client _
    decide +kernel
  exact ⟨accepted, confirmed, by decide +kernel, exit_codes_tell accepted confirmed refusing⟩

end RealmKeeper.Command
