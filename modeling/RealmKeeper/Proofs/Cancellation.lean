import RealmKeeper.Proofs.RealmCreation
import RealmKeeper.Proofs.RegistrationRequests
import RealmKeeper.Proofs.ReviewAnswers
import RealmKeeper.Proofs.Stopping
import RealmKeeper.Proofs.TokenCache

/-!
# Cancellation

No operation makes another outcome of a cancellation.

* `IsCancelled`, `IsCutOff`, `IsTransportCancelled`, `IsDenial`: the outcome of a cancellation, one
  for each layer;
* `Heeds`: what an operation makes of a cancellation;
* `cancellation_is_heeded`: every operation with the provider heeds it in the terms of its layer.
-/

namespace RealmKeeper

theorem Cancellations.covers_child {cancellations : Cancellations} {domain : Domain} (number : Nat)
    (h : cancellations.covers domain = true) :
    cancellations.covers (domain.child number) = true := by
  unfold Cancellations.covers at h ⊢
  rw [List.any_eq_true] at h ⊢
  obtain ⟨cancelled, hmem, within⟩ := h
  refine ⟨cancelled, hmem, ?_⟩
  unfold Domain.isWithin at within ⊢
  rw [List.isPrefixOf_iff_prefix] at within ⊢
  exact within.trans (List.prefix_append _ _)

namespace Provider

open RealmKeeper.Http RealmKeeper.Admin
open RealmKeeper.Registration hiding Question Answer Operating

variable {α β : Type} {w : World}

/-! ### The administrative client -/

/-- The result is the error of a cancellation. -/
def IsCancelled (result : Except AdminError α) : Prop :=
  ∃ operation, result = .error (.cancelled operation)

/-- There is a value, or the error of a cancellation. -/
def IsValueOrCancelled (result : Except AdminError α) : Prop :=
  ∀ e, result = .error e → IsCancelled result

section Client

variable {d : Admin.Operating α} {f : α → Admin.Operating β}

theorem StopsBefore.andThen (h : StopsBefore d IsCancelled) :
    StopsBefore (d.andThen f) IsCancelled := by
  refine StopsBefore.bind h ?_
  rintro _ ⟨operation, rfl⟩
  exact stopsBefore_done ⟨operation, rfl⟩

theorem StopsDuring.andThen (h : StopsDuring d IsCancelled)
    (hf : ∀ a, StopsDuring (f a) IsCancelled) : StopsDuring (d.andThen f) IsCancelled := by
  refine StopsDuring.bind h ?_ ?_
  · rintro _ ⟨operation, rfl⟩
    exact stopsBefore_done ⟨operation, rfl⟩
  · intro result
    cases result with
    | ok a => exact hf a
    | error e => exact stopsDuring_done _

variable (c : AdminClient) (watch : Watch) (operation : String) (prepared : AdminClient.Prepared)
  (request : String → AdminClient.Prepared) (take : Response → Except AdminError α)

theorem exchange_stopsBefore : StopsBefore (exchange operation prepared take) IsCancelled :=
  StopsBefore.send (stopsBefore_done ⟨operation, rfl⟩)

theorem exchange_stopsDuring : StopsDuring (exchange operation prepared take) IsCancelled := by
  refine StopsDuring.send (stopsBefore_done ⟨operation, rfl⟩) fun reply => ?_
  cases reply <;> exact stopsDuring_done _

theorem fetchToken_stopsBefore : StopsBefore (c.fetchToken watch) IsCancelled :=
  (exchange_stopsBefore _ _ _).andThen

theorem fetchToken_stopsDuring : StopsDuring (c.fetchToken watch) IsCancelled := by
  refine (exchange_stopsDuring _ _ _).andThen fun issued => ?_
  refine StopsDuring.ask (fun _ => rfl) fun now => StopsDuring.ask (fun _ => rfl) fun _ => ?_
  exact stopsDuring_done _

/-- Under a cancelled context a kept token can be had still, and no other. -/
theorem currentToken_stopsBefore : StopsBefore (c.currentToken watch) IsValueOrCancelled := by
  intro w h
  rcases w.usable_or_without with ⟨token, stored, usable⟩ | without
  · rw [(currentToken_of_usable stored usable).performs]
    exact nofun
  · have hw : (w.perform (c.currentToken watch)).1 = (w.perform (c.fetchToken watch)).1 :=
      congrArg Prod.fst (currentToken_of_without without ⟨rfl, rfl⟩).performs
    rw [hw]
    exact fun _ _ => fetchToken_stopsBefore c watch w h

theorem currentToken_stopsDuring : StopsDuring (c.currentToken watch) IsCancelled := by
  refine StopsDuring.ask (fun _ => rfl) fun kept => ?_
  cases kept with
  | none => exact fetchToken_stopsDuring c watch
  | some token =>
    refine StopsDuring.ask (fun _ => rfl) fun now => ?_
    show StopsDuring (ite (token.isUsableAt now = true) _ _) _
    split
    · exact stopsDuring_done _
    · exact fetchToken_stopsDuring c watch

theorem accessToken_stopsBefore : StopsBefore (c.accessToken watch) IsValueOrCancelled := by
  intro w h
  by_cases admits : w.Admits watch
  · have runs := accessToken_of_currentToken admits
      (⟨rfl, rfl⟩ : w.Runs (c.currentToken watch) _ _ _)
    rw [runs.performs]
    exact currentToken_stopsBefore c watch w h
  · rw [(accessToken_of_not_admits admits).performs]
    exact fun _ _ => ⟨_, rfl⟩

theorem accessToken_stopsDuring : StopsDuring (c.accessToken watch) IsCancelled := by
  refine StopsDuring.ask (fun _ => rfl) fun given => ?_
  cases given with
  | false => exact stopsDuring_done _
  | true =>
    refine StopsDuring.bind (currentToken_stopsDuring c watch) ?_ fun outcome => ?_
    · intro outcome h w _
      exact h
    · exact StopsDuring.ask (fun _ => rfl) fun _ => stopsDuring_done _

/-- **Under a cancelled context no request is made with a token**, even when one is kept. -/
theorem authorizedExchange_stopsBefore :
    StopsBefore (c.authorizedExchange watch operation request take) IsCancelled := by
  refine StopsBefore.bind (accessToken_stopsBefore c watch) fun result h => ?_
  cases result with
  | ok token => exact exchange_stopsBefore operation (request token) take
  | error e =>
    obtain ⟨operation, he⟩ := h e rfl
    obtain rfl := Except.error.inj he
    exact stopsBefore_done ⟨operation, rfl⟩

theorem authorizedExchange_stopsDuring :
    StopsDuring (c.authorizedExchange watch operation request take) IsCancelled :=
  (accessToken_stopsDuring c watch).andThen fun _ => exchange_stopsDuring _ _ _

theorem refreshToken_stopsBefore (clientId : String) :
    StopsBefore (c.refreshToken watch clientId) IsCancelled :=
  (authorizedExchange_stopsBefore c watch _ _ _).andThen

theorem refreshToken_stopsDuring (clientId : String) :
    StopsDuring (c.refreshToken watch clientId) IsCancelled :=
  (authorizedExchange_stopsDuring c watch _ _ _).andThen fun _ =>
    authorizedExchange_stopsDuring c watch _ _ _

/-- Every administrative operation that begins under a cancelled context ends with its error. -/
theorem Action.stopsBefore (a : Action) : StopsBefore (a.dialog c watch) IsCancelled := by
  cases a with
  | realmExists realm => exact authorizedExchange_stopsBefore c watch _ _ _
  | tokenForRegistration => exact authorizedExchange_stopsBefore c watch _ _ _
  | findClient clientId => exact authorizedExchange_stopsBefore c watch _ _ _
  | refreshToken clientId => exact refreshToken_stopsBefore c watch clientId

theorem Action.stopsDuring (a : Action) : StopsDuring (a.dialog c watch) IsCancelled := by
  cases a with
  | realmExists realm => exact authorizedExchange_stopsDuring c watch _ _ _
  | tokenForRegistration => exact authorizedExchange_stopsDuring c watch _ _ _
  | findClient clientId => exact authorizedExchange_stopsDuring c watch _ _ _
  | refreshToken clientId => exact refreshToken_stopsDuring c watch clientId

end Client

/-! ### Requests about registrations -/

section Requests

variable (refresher : Option AdminClient) (context : Context) (request : Request)

/-- The outcome is that of a cancellation. -/
abbrev IsCutOff (outcome : Except TransportError Response) : Prop :=
  outcome = .error .cancelled

theorem executeOnce_stopsBefore : StopsBefore (executeOnce request) IsCutOff :=
  StopsBefore.send (stopsBefore_done rfl)

theorem executeOnce_stopsDuring : StopsDuring (executeOnce request) IsCutOff := by
  refine StopsDuring.send (stopsBefore_done rfl) fun reply => ?_
  cases reply <;> exact stopsDuring_done _

theorem repeatWith_stopsDuring (token : String) :
    StopsDuring ((Renewal.repeatWith request token).through renewalAnswer) IsCutOff := by
  by_cases streamed : Renewal.IsStreamed request
  · rw [Renewal.repeatWith_of_streamed token streamed]
    exact stopsDuring_done _
  cases legal : HeaderValue.ofString? ("Bearer " ++ token) with
  | none =>
    rw [Renewal.repeatWith_of_illegal streamed legal]
    exact stopsDuring_done _
  | some credential =>
    rw [Renewal.repeatWith_of_legal streamed legal]
    refine StopsDuring.bind (executeOnce_stopsDuring _) ?_ fun outcome => stopsDuring_done _
    exact fun outcome h => stopsBefore_done h

/-- The answer about a new token is that of a cancellation. -/
def IsRenewalCancelled (answer : Option (Except AdminError String)) : Prop :=
  ∃ operation, answer = some (.error (.cancelled operation))

theorem refresh_stopsDuring (refresher : AdminClient) (clientId : String) :
    StopsDuring (renewalAnswer (.refresh refresher clientId)) IsRenewalCancelled := by
  refine StopsDuring.bind (refreshToken_stopsDuring refresher .everywhere clientId) ?_
    fun outcome => stopsDuring_done _
  rintro _ ⟨operation, rfl⟩
  exact stopsBefore_done ⟨operation, rfl⟩

theorem afterFirst_stopsDuring (refresher : AdminClient) (clientId : String)
    (outcome : Except TransportError Response) :
    StopsDuring ((Renewal.afterFirst refresher clientId request outcome).through renewalAnswer)
      IsCutOff := by
  cases outcome with
  | error cause => exact stopsDuring_done _
  | ok first =>
    by_cases status : first.status = 401
    swap
    · rw [Renewal.afterFirst_of_other status]
      exact stopsDuring_done _
    rw [Renewal.afterFirst_of_refused status]
    refine StopsDuring.bind (refresh_stopsDuring refresher clientId) ?_ fun answer => ?_
    · rintro _ ⟨operation, rfl⟩
      exact stopsBefore_done rfl
    · match answer with
      | none | some (.error e) => exact stopsDuring_done _
      | some (.ok token) => exact repeatWith_stopsDuring request token

theorem execute_stopsBefore :
    StopsBefore ((Renewal.execute refresher context request).through renewalAnswer) IsCutOff := by
  rcases Renewal.somebody_or_nobody refresher context with
    ⟨renewer, clientId, rfl, named⟩ | nobody
  · rw [Renewal.execute_of_names request named]
    refine StopsBefore.bind (executeOnce_stopsBefore request) ?_
    rintro _ rfl
    exact stopsBefore_done rfl
  · rw [Renewal.execute_of_nobody request nobody]
    exact StopsBefore.bind (executeOnce_stopsBefore request) fun _ h => stopsBefore_done h

/-- **A cancellation while a request is executed** is its outcome, also when it falls into the
renewal of a token. -/
theorem execute_stopsDuring :
    StopsDuring ((Renewal.execute refresher context request).through renewalAnswer) IsCutOff := by
  rcases Renewal.somebody_or_nobody refresher context with
    ⟨renewer, clientId, rfl, named⟩ | nobody
  · rw [Renewal.execute_of_names request named]
    refine StopsDuring.bind (executeOnce_stopsDuring request) ?_
      (afterFirst_stopsDuring request renewer clientId)
    rintro _ rfl
    exact stopsBefore_done rfl
  · rw [Renewal.execute_of_nobody request nobody]
    refine StopsDuring.bind (executeOnce_stopsDuring request) ?_ fun _ => stopsDuring_done _
    exact fun _ h => stopsBefore_done h

end Requests

/-! ### Operations on registrations -/

section Registrations

variable (refresher : Option AdminClient) (context : Context) (clientId : String)

/-- The operation ends with the error of its layer. -/
def IsTransportCancelled (operation : Client.Operation) (result : Except RegistrationError α) :
    Prop :=
  result = .error (.transport operation .cancelled)

variable {operation : Client.Operation}
  {finish : Except TransportError Response → Except RegistrationError α}

theorem onRegistration_stopsBefore (request : Request)
    (h : finish (.error .cancelled) = .error (.transport operation .cancelled)) :
    StopsBefore (registering refresher (onRegistration context clientId finish (.ok request)))
      (IsTransportCancelled operation) := by
  refine StopsBefore.bind (execute_stopsBefore refresher _ request) ?_
  rintro _ rfl
  exact stopsBefore_done h

theorem onRegistration_stopsDuring (checks : Except RegistrationError Request)
    (h : finish (.error .cancelled) = .error (.transport operation .cancelled)) :
    StopsDuring (registering refresher (onRegistration context clientId finish checks))
      (IsTransportCancelled operation) := by
  cases checks with
  | error e => exact stopsDuring_done _
  | ok request =>
    refine StopsDuring.bind (execute_stopsDuring refresher _ request) ?_ fun _ => stopsDuring_done _
    rintro _ rfl
    exact stopsBefore_done h

end Registrations

/-! ### Registering -/

section Registering

variable (c : AdminClient) (refresher : Option AdminClient) (context : Context) (endpoint : String)
  (metadata : Client.ClientMetadata)

/-- **Registering a client** ends with the error of the source if the cancellation is there before
its token, and else with the error of the transport. -/
def EndsRegistering {α : Type} (c : AdminClient) (w : World)
    (result : Except RegistrationError α) : Prop :=
  (∃ operation, result = .error (.initialAccessToken (.cancelled operation))) ∨
    w.cancelled = false ∧ ¬ w.Interrupts (c.tokenForRegistration .atRequests) ∧
      result = .error (.transport .register .cancelled)

theorem afterToken_stopsDuring (url : Url) (answer : Except AdminError String) :
    StopsDuring (afterToken refresher context url metadata answer)
      (IsTransportCancelled .register) := by
  cases answer with
  | error cause => exact stopsDuring_done _
  | ok token =>
    unfold afterToken
    dsimp only
    cases buildRequest .register url token (some metadata.toJson) with
    | error e => exact stopsDuring_done _
    | ok request =>
      refine StopsDuring.bind (execute_stopsDuring refresher _ request) ?_ fun _ =>
        stopsDuring_done _
      rintro _ rfl
      exact stopsBefore_done rfl

theorem register_stopsBefore (h : w.cancelled = true) {url : Url}
    (parsed : Url.ofString endpoint = .ok url) :
    EndsRegistering c w
      (w.perform (registering refresher (register (some c) context endpoint metadata))).1 := by
  have stops : StopsBefore (Dialog.bind (c.tokenForRegistration .atRequests)
      (afterToken refresher context url metadata))
      fun result => ∃ operation, result = .error (.initialAccessToken (.cancelled operation)) := by
    refine StopsBefore.bind (Action.stopsBefore c .atRequests .tokenForRegistration) ?_
    rintro _ ⟨operation, rfl⟩
    exact stopsBefore_done ⟨operation, rfl⟩
  rw [registering_register c refresher context endpoint metadata parsed]
  exact .inl (stops w h)

theorem register_stopsDuring
    (h : w.Interrupts (registering refresher (register (some c) context endpoint metadata))) :
    EndsRegistering c w
      (w.perform (registering refresher (register (some c) context endpoint metadata))).1 := by
  have live : w.cancelled = false := by
    by_contra cancelled
    exact World.not_interrupts_of_cancelled _ (Bool.not_eq_false _ ▸ cancelled) h
  cases parsed : Url.ofString endpoint with
  | error cause =>
    have refused : registering refresher (register (some c) context endpoint metadata) =
        .done (.error (.invalidEndpoint .register endpoint cause)) := by
      unfold register parseEndpoint
      rw [parsed]
      rfl
    rw [refused] at h
    exact absurd h (by rintro ⟨contact, hmem, -⟩; cases hmem)
  | ok url =>
    rw [registering_register c refresher context endpoint metadata parsed] at h ⊢
    have performs := World.perform_bind w (c.tokenForRegistration .atRequests)
      (afterToken refresher context url metadata)
    by_cases early : w.Interrupts (c.tokenForRegistration .atRequests)
    · obtain ⟨operation, ends⟩ := Action.stopsDuring c .atRequests .tokenForRegistration w early
      refine .inl ⟨operation, ?_⟩
      have ends' : (w.perform (c.tokenForRegistration .atRequests)).1 = _ := ends
      rw [ends'] at performs
      exact congrArg Prod.fst performs
    · obtain ⟨contact, hmem, hc⟩ := h
      have contacts := World.contacts_bind w (c.tokenForRegistration .atRequests)
        (afterToken refresher context url metadata)
      rcases List.mem_append.mp (contacts ▸ hmem) with first | second
      · exact absurd ⟨contact, first, hc⟩ early
      · have ends := afterToken_stopsDuring refresher context metadata url _ _
          ⟨contact, second, hc⟩
        exact .inr ⟨live, early, (congrArg Prod.fst performs).trans ends⟩

end Registering

/-! ### Reviews -/

section Reviews

open RealmKeeper.Admission RealmKeeper.Webhook

variable (c : AdminClient) (denied : List String)

theorem validation_stopsDuring (realm : String) :
    StopsDuring (validation c denied realm)
      fun verdict => ∃ operation, verdict = .error (.checkFailed realm (.cancelled operation)) := by
  unfold validation
  cases checkName denied realm with
  | error e => exact stopsDuring_done _
  | ok _ =>
    refine StopsDuring.bind (Action.stopsDuring c .atRequests (.realmExists realm)) ?_
      fun existence => stopsDuring_done _
    rintro _ ⟨operation, rfl⟩
    exact stopsBefore_done ⟨operation, rfl⟩

theorem validation_stopsBefore {realm : String} (h : checkName denied realm = .ok ()) :
    StopsBefore (validation c denied realm)
      fun verdict => ∃ operation, verdict = .error (.checkFailed realm (.cancelled operation)) := by
  rw [validation, h]
  refine StopsBefore.bind (Action.stopsBefore c .atRequests (.realmExists realm)) ?_
  rintro _ ⟨operation, rfl⟩
  exact stopsBefore_done ⟨operation, rfl⟩

theorem validation_rejects (realm : String) :
    StopsBefore (validation c denied realm) fun verdict => ∃ e, verdict = .error e := by
  cases h : checkName denied realm with
  | error e =>
    rw [validation, h]
    exact stopsBefore_done ⟨e, rfl⟩
  | ok _ =>
    intro w hc
    obtain ⟨operation, ends⟩ := validation_stopsBefore c denied h w hc
    exact ⟨_, ends⟩

variable {denied} {review : Review} {request : ReviewRequest}

/-- The creation is denied because its lookup is cancelled. -/
def IsDenial (request : ReviewRequest) (result : Except WebhookError Review) : Prop :=
  ∃ config operation, Describes request.object config ∧
    result = .ok (.ofResponse (.deny request.uid 403
      (AdmissionError.checkFailed (trimmed config.spec.realmName) (.cancelled operation)).message))

/-- The creation is denied. -/
def IsDenied (request : ReviewRequest) (result : Except WebhookError Review) : Prop :=
  ∃ status, result = .ok (.ofResponse ⟨request.uid, false, some status, []⟩)

/-- The answer to a review after the validation. -/
def answered (request : ReviewRequest) (outcome : Except AdmissionError (List String)) :
    Dialog Admin.Answer (Except WebhookError Review) :=
  .done (.ok (.ofResponse (verdict request.uid outcome)))

theorem admitting_answerReview {config : RealmConfig} (asked : review.request = some request)
    (creates : request.operation = .create) (described : Describes request.object config) :
    admitting c (answerReview denied review) =
      validation c denied (trimmed config.spec.realmName) >>= answered request := by
  rw [answerReview_of_request asked,
    respond_of_described creates (configOf_eq_ok_iff.mpr described), Dialog.bind_assoc',
    ← admitting_validateCreate]
  exact Dialog.run_bind _ _ _

theorem admitting_answerReview_of_unread {e : AdmissionError}
    (asked : review.request = some request) (creates : request.operation = .create)
    (h : configOf request.object = .error e) :
    admitting c (answerReview denied review) =
      .done (.ok (.ofResponse (.deny request.uid badObjectCode e.message))) := by
  rw [answerReview_of_request asked, respond_of_unread creates h]
  rfl

theorem review_stopsDuring (asked : review.request = some request)
    (creates : request.operation = .create) :
    StopsDuring (admitting c (answerReview denied review)) (IsDenial request) := by
  cases h : configOf request.object with
  | error e =>
    rw [admitting_answerReview_of_unread c asked creates h]
    exact stopsDuring_done _
  | ok config =>
    have described := configOf_eq_ok_iff.mp h
    rw [admitting_answerReview c asked creates described]
    refine StopsDuring.bind (validation_stopsDuring c denied _) ?_ fun _ => stopsDuring_done _
    rintro _ ⟨operation, rfl⟩
    exact stopsBefore_done ⟨config, operation, described, rfl⟩

theorem review_stopsBefore {config : RealmConfig} (asked : review.request = some request)
    (creates : request.operation = .create) (described : Describes request.object config)
    (stands : Stands denied (trimmed config.spec.realmName)) :
    StopsBefore (admitting c (answerReview denied review)) (IsDenial request) := by
  rw [admitting_answerReview c asked creates described]
  refine StopsBefore.bind (validation_stopsBefore c denied (checkName_of_stands stands)) ?_
  rintro _ ⟨operation, rfl⟩
  exact stopsBefore_done ⟨config, operation, described, rfl⟩

/-- **Under a cancelled context no creation is allowed**, whatever stands against it. -/
theorem review_denied (asked : review.request = some request)
    (creates : request.operation = .create) :
    StopsBefore (admitting c (answerReview denied review)) (IsDenied request) := by
  cases h : configOf request.object with
  | error e =>
    rw [admitting_answerReview_of_unread c asked creates h]
    exact stopsBefore_done ⟨_, rfl⟩
  | ok config =>
    have described := configOf_eq_ok_iff.mp h
    rw [admitting_answerReview c asked creates described]
    refine StopsBefore.bind (validation_rejects c denied _) ?_
    rintro _ ⟨e, rfl⟩
    exact stopsBefore_done ⟨_, rfl⟩

end Reviews

/-! ### The law -/

/-- **An operation heeds a cancellation**: nothing is sent after it, and nothing at all if it is
there before; and it is what the operation ends with, wherever it comes while an answer is awaited,
and if it is there before and the operation passes its own checks. -/
structure Heeds (w : World) (d : Dialog Answer α) (Passes : Prop) (Ends : α → Prop) : Prop where
  last : ∀ earlier contact later, w.contacts d = earlier ++ contact :: later → contact.Cancels →
    later = []
  during : w.Interrupts d → Ends (w.perform d).1
  silent : w.cancelled = true → w.contacts d = [] ∧ (w.perform d).2.sent = w.sent
  before : w.cancelled = true → Passes → Ends (w.perform d).1

theorem heeds_of_stops {d : Dialog Answer α} {Passes : Prop} {Ends : α → Prop}
    (during : w.Interrupts d → Ends (w.perform d).1)
    (before : w.cancelled = true → Passes → Ends (w.perform d).1) : Heeds w d Passes Ends := by
  refine ⟨fun _ _ _ => World.last_of_cancels d w, during, fun h => ?_, before⟩
  have silent := World.contacts_of_cancelled d h
  refine ⟨silent, ?_⟩
  rw [World.sent_perform, silent]
  exact List.append_nil _

theorem onRegistration_heeds (refresher : Option AdminClient) (context : Context)
    (clientId : String) {operation : Client.Operation}
    {finish : Except TransportError Response → Except RegistrationError α}
    (checks : Except RegistrationError Request)
    (h : finish (.error .cancelled) = .error (.transport operation .cancelled)) :
    Heeds w (registering refresher (onRegistration context clientId finish checks))
      (∃ request, checks = .ok request) (IsTransportCancelled operation) := by
  refine heeds_of_stops (onRegistration_stopsDuring refresher context clientId checks h w) ?_
  rintro hc ⟨request, rfl⟩
  exact onRegistration_stopsBefore refresher context clientId request h w hc

/-- **Every operation heeds a cancellation**, in the terms of its own layer: the administrative
ones, the registration of a client, what is done about it later, with or without somebody to renew
its token, and the answer to a review of a creation. After a shutdown no creation is allowed. -/
theorem cancellation_is_heeded (c : AdminClient) (refresher : Option AdminClient)
    (context : Context) (denied : List String) (w : World) :
    (∀ action watch, Heeds w (Action.dialog c watch action) True IsCancelled) ∧
    (∀ endpoint metadata,
      Heeds w (registering refresher (register (some c) context endpoint metadata))
        (∃ url, Url.ofString endpoint = .ok url) (EndsRegistering c w)) ∧
    (∀ clientId uri token,
      Heeds w (registering refresher (read context clientId uri token))
        (∃ request, registrationRequest .read uri token none = .ok request)
        (IsTransportCancelled .read)) ∧
    (∀ clientId uri token metadata,
      Heeds w (registering refresher (update context clientId uri token metadata))
        (∃ request, registrationRequest .update uri token
          (some (metadata.updateDocument clientId)) = .ok request)
        (IsTransportCancelled .update)) ∧
    (∀ clientId uri token,
      Heeds w (registering refresher (delete context clientId uri token))
        (∃ request, registrationRequest .delete uri token none = .ok request)
        (IsTransportCancelled .delete)) ∧
    (∀ review request, review.request = some request → request.operation = .create →
      Heeds w (admitting c (Webhook.answerReview denied review))
        (∃ config, Webhook.Describes request.object config ∧
          Stands denied (Admission.trimmed config.spec.realmName)) (IsDenial request)) ∧
    (∀ shutdown number cancellations, Cancellations.covers cancellations shutdown = true →
      w.cancelled = cancellations.covers (Context.ofDomain (shutdown.child number)).domain →
        ∀ review request, review.request = some request → request.operation = .create →
          IsDenied request (w.perform (admitting c (Webhook.answerReview denied review))).1) := by
  refine ⟨?_, ?_, ?_, ?_, ?_, ?_, ?_⟩
  · intro action watch
    exact heeds_of_stops (action.stopsDuring c watch w) fun h _ => action.stopsBefore c watch w h
  · intro endpoint metadata
    refine heeds_of_stops (register_stopsDuring c refresher context endpoint metadata) ?_
    rintro h ⟨url, parsed⟩
    exact register_stopsBefore c refresher context endpoint metadata h parsed
  · intro clientId uri token
    rw [read_eq_onRegistration]
    exact onRegistration_heeds refresher context clientId _ rfl
  · intro clientId uri token metadata
    rw [update_eq_onRegistration]
    exact onRegistration_heeds refresher context clientId _ rfl
  · intro clientId uri token
    rw [delete_eq_onRegistration]
    exact onRegistration_heeds refresher context clientId _ rfl
  · intro review request asked creates
    refine heeds_of_stops (review_stopsDuring c asked creates w) ?_
    rintro h ⟨config, described, stands⟩
    exact review_stopsBefore c asked creates described stands w h
  · intro shutdown number cancellations begun hw review request asked creates
    have covered := Cancellations.covers_child number begun
    exact review_denied c asked creates w (hw.trans covered)

/-- The world in which the context is cancelled while the first answer is awaited. -/
def cancellingWorld : World := .start none [] ⟨.cancelling, 0⟩

/-- The creation of a realm. -/
def creation : Admission.ReviewRequest :=
  ⟨"u", .create, none, none, some (.object [("spec", .object [("realmName", .string "org")])]),
    none⟩

/-- A lookup, a registration that is read, and the review of a creation are cancelled, each in the
terms of its layer; after a shutdown the creation is denied. -/
theorem cancellation_is_heeded_awaiting :
    let reading := registering (some localClient) (read default "c" "http://idp.test/c" "t")
    let reviewing := admitting localClient
      (Webhook.answerReview [] ⟨"v1", "R", some creation, none⟩)
    (cancellingWorld.Interrupts (localClient.realmExists .atRequests "org") ∧
      IsCancelled (cancellingWorld.perform (localClient.realmExists .atRequests "org")).1) ∧
    (cancellingWorld.Interrupts reading ∧
      IsTransportCancelled .read (cancellingWorld.perform reading).1) ∧
    (cancellingWorld.Interrupts reviewing ∧
      IsDenial creation (cancellingWorld.perform reviewing).1) ∧
    Cancellations.covers ⟨[⟨[0]⟩]⟩ ⟨[0]⟩ = true ∧
      IsDenied creation (cancellingWorld.cancel.perform reviewing).1 := by
  intro reading reviewing
  obtain ⟨client, -, reads, -, -, reviews, -⟩ :=
    cancellation_is_heeded localClient (some localClient) default [] cancellingWorld
  obtain ⟨-, -, -, -, -, -, shutdown⟩ :=
    cancellation_is_heeded localClient (some localClient) default [] cancellingWorld.cancel
  have lookup : cancellingWorld.Interrupts (localClient.realmExists .atRequests "org") := by
    decide +kernel
  have asked : cancellingWorld.Interrupts reading := by decide +kernel
  have checked : cancellingWorld.Interrupts reviewing := by decide +kernel
  have begun : Cancellations.covers ⟨[⟨[0]⟩]⟩ ⟨[0]⟩ = true := by decide
  exact ⟨⟨lookup, (client (.realmExists "org") .atRequests).during lookup⟩,
    ⟨asked, (reads _ _ _).during asked⟩, ⟨checked, (reviews _ creation rfl rfl).during checked⟩,
    begun, shutdown ⟨[0]⟩ 1 ⟨[⟨[0]⟩]⟩ begun rfl _ creation rfl rfl⟩

end Provider

end RealmKeeper
