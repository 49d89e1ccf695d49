import RealmKeeper.Proofs.BodyReadings
import RealmKeeper.Proofs.Cancellation
import RealmKeeper.Proofs.HandedBack
import RealmKeeper.Proofs.RegistrationOutcomes

/-!
# Bodies under a cancellation

The context may be cancelled when the head of a response is there and its body is not. Whether an
operation takes notice depends on who reads the body, and how much of it.

* `Action.Reads`: how much administrative operations read, and `HeedsBody`: what becomes of a body
  that they read while the context is cancelled;
* `ReadFor`: the bodies that are read for a request about a registration, and `TakesBodies`: what
  becomes of these;
* `body_cancellation_heeded_iff`: when a cancellation is heeded that falls into a body.

A document of the administrative client is read under the context. The other bodies are not: an
excerpt is watched only in a renewal, with the whole operation, and the response that is handed back
to a registration operation is read to its end.
-/

namespace RealmKeeper

/-- The response without the cancellations that fall into its body. -/
def Http.Response.undisturbed (r : Http.Response) : Http.Response :=
  { r with body := r.body.undisturbed }

namespace Provider

open RealmKeeper.Http RealmKeeper.Http.Delivery RealmKeeper.Admin
open RealmKeeper.Registration hiding Question Answer Operating

variable {α β : Type} {w v : World} {c : AdminClient} {watch : Watch} {operation : String}
  {response : Response} {sent : Request} {extent : Extent}

/-! ### What administrative operations read -/

/-- How much is read of a response that should hold a document. -/
def documentExtent (response : Response) : Extent :=
  if response.isSuccess then .whole else .excerpt

/-- How much is read of the response to the lookup of a realm; its status may say enough. -/
def existenceExtent (response : Response) : Extent :=
  if response.status = 200 ∨ response.status = 404 then .nothing else .excerpt

/-- **How much an administrative operation reads** of the response to one of its requests. -/
inductive Action.Reads (c : AdminClient) : Action → Request → Response → Extent → Prop
  | document {action : Action} {request : Request} {response : Response}
      (token : ∀ realm, action = .realmExists realm → c.tokenRequest = .ok request) :
      Reads c action request response (documentExtent response)
  | existence {realm : String} {request : Request} {response : Response}
      (own : c.tokenRequest ≠ .ok request) :
      Reads c (.realmExists realm) request response (existenceExtent response)

/-- **The error of a body** that is read while the context is cancelled. -/
inductive IsCut (watch : Watch) (response : Response) : Extent → AdminError → Prop
  | heeded {operation : String} {extent : Extent}
      (watched : extent = .whole ∨ watch = .everywhere) :
      IsCut watch response extent (.cancelled operation)
  /-- An excerpt is read on, as if nothing were cancelled. -/
  | unheeded {operation : String} (unwatched : watch = .atRequests) :
      IsCut watch response .excerpt
        (.unexpectedStatus operation response.status response.body.undisturbed.excerpt)

/-- The result is an error of some kind. -/
def IsErrorOf (Kind : AdminError → Prop) (result : Except AdminError α) : Prop :=
  ∃ e, result = .error e ∧ Kind e

theorem isCut_unexpected (watch : Watch) (operation : String)
    (h : response.body.IsInterrupted .excerpt) :
    IsCut watch response .excerpt (unexpected watch operation response) := by
  cases watch with
  | atRequests =>
    rw [unexpected, ← excerpt_undisturbed]
    exact .unheeded rfl
  | everywhere =>
    have none_read := h.guardedExcerpt_eq
    rw [unexpected, none_read]
    exact .heeded (.inr rfl)

theorem successDocument_isErrorOf {read : Json.ValueTree Json.Fault → Json.Decoded α}
    (h : response.body.IsInterrupted (documentExtent response)) :
    IsErrorOf (IsCut watch response (documentExtent response))
      (successDocument watch read operation response) := by
  unfold documentExtent at h ⊢
  unfold successDocument succeeded
  by_cases success : response.isSuccess = true
  · rw [if_pos success] at h ⊢
    have cancelled := h.guarded_eq
    refine ⟨.cancelled operation, ?_, .heeded (.inl rfl)⟩
    rw [if_pos success, Except.bind, document, cancelled]
  · rw [if_neg success] at h ⊢
    rw [if_neg success]
    exact ⟨_, rfl, isCut_unexpected watch operation h⟩

theorem existenceOf_isErrorOf (h : response.body.IsInterrupted (existenceExtent response)) :
    IsErrorOf (IsCut watch response (existenceExtent response))
      (AdminClient.existenceOf watch response) := by
  unfold existenceExtent at h ⊢
  by_cases tells : response.status = 200 ∨ response.status = 404
  · rw [if_pos tells] at h
    exact absurd h (not_isInterrupted_nothing _)
  · rw [if_neg tells] at h ⊢
    obtain ⟨other, other'⟩ := not_or.mp tells
    refine ⟨_, ?_, isCut_unexpected watch AdminClient.lookupOperation h⟩
    rw [AdminClient.existenceOf, if_neg other, if_neg other']

/-! ### How administrative operations end -/

section Kind

variable {Kind : AdminError → Prop} {d : Admin.Operating α} {f : α → Admin.Operating β}

theorem StopsAt.andThen {contact : Contact} (cancels : contact.Cancels)
    (h : StopsAt contact d (IsErrorOf Kind)) (hf : ∀ a, StopsAt contact (f a) (IsErrorOf Kind)) :
    StopsAt contact (d.andThen f) (IsErrorOf Kind) := by
  refine StopsAt.bind cancels h ?_ fun result => ?_
  · rintro _ ⟨e, rfl, kind⟩
    exact stopsBefore_done ⟨e, rfl, kind⟩
  · cases result with
    | ok a => exact hf a
    | error e => exact stopsAt_done _

theorem exchange_stopsAt {Ends : Except AdminError α → Prop} {prepared : AdminClient.Prepared}
    {take : Response → Except AdminError α} (h : prepared = .ok sent → Ends (take response)) :
    StopsAt ⟨sent, .reply response⟩ (exchange operation prepared take) Ends := by
  intro w hmem
  rcases exchange_runs operation prepared take w with
    ⟨e, runs⟩ | ⟨request, arrival, v, made, -, runs⟩
  · rw [runs.contacts_eq] at hmem
    cases hmem
  · rw [runs.contacts_eq, List.mem_singleton] at hmem
    obtain ⟨rfl, rfl⟩ := Contact.mk.inj hmem
    rw [runs.performs]
    exact h made

variable (cancels : Contact.Cancels ⟨sent, .reply response⟩)
  (search : c.tokenRequest = .ok sent → IsErrorOf Kind
    (successDocument watch IssuedToken.read AdminClient.tokenOperation response))

include cancels search

theorem fetchToken_stopsAt :
    StopsAt ⟨sent, .reply response⟩ (c.fetchToken watch) (IsErrorOf Kind) := by
  refine StopsAt.andThen cancels (exchange_stopsAt search) fun issued => ?_
  intro w hmem
  rw [(keeping_runs issued w).contacts_eq] at hmem
  cases hmem

theorem accessToken_stopsAt :
    StopsAt ⟨sent, .reply response⟩ (c.accessToken watch) (IsErrorOf Kind) := by
  intro w hmem
  by_cases admits : w.Admits watch
  swap
  · rw [(accessToken_of_not_admits admits).contacts_eq] at hmem
    cases hmem
  rcases w.usable_or_without with ⟨token, stored, usable⟩ | without
  · have runs := accessToken_of_currentToken (c := c) admits (currentToken_of_usable stored usable)
    rw [runs.contacts_eq] at hmem
    cases hmem
  · have runs := accessToken_of_currentToken admits
      (currentToken_of_without without (⟨rfl, rfl⟩ : w.Runs (c.fetchToken watch) _ _ _))
    rw [runs.contacts_eq] at hmem
    rw [runs.performs]
    exact fetchToken_stopsAt cancels search w hmem

/-- **An operation with a request of its own** reads the answer to the search for a token, or the
one to its own request. -/
theorem authorizedExchange_stopsAt {request : String → AdminClient.Prepared}
    {take : Response → Except AdminError α}
    (bears : ∀ token own, request token = .ok own → own.Bears token)
    (own : c.tokenRequest ≠ .ok sent → IsErrorOf Kind (take response)) :
    StopsAt ⟨sent, .reply response⟩ (c.authorizedExchange watch operation request take)
      (IsErrorOf Kind) := by
  refine StopsAt.andThen cancels (accessToken_stopsAt cancels search) fun token => ?_
  refine exchange_stopsAt fun made => own ?_
  exact (bears token sent made).ne_tokenRequest c

end Kind

/-- **Every administrative operation** ends with the error of a body that it reads while the context
is cancelled. -/
theorem Action.stopsAt {action : Action} (reads : action.Reads c sent response extent)
    (h : response.body.IsInterrupted extent) :
    StopsAt ⟨sent, .reply response⟩ (action.dialog c watch)
      (IsErrorOf (IsCut watch response extent)) := by
  have cancels : Contact.Cancels ⟨sent, .reply response⟩ := .inr ⟨response, rfl, h.mem⟩
  -- the two requests of the lookup of a realm are told apart by the token that one presents
  cases reads with
  | existence own =>
    refine authorizedExchange_stopsAt cancels (fun made => absurd made own)
      (fun _ _ => bears_of_authorized) fun _ => existenceOf_isErrorOf h
  | document token =>
    have search : ∀ _ : c.tokenRequest = .ok sent,
        IsErrorOf (IsCut watch response (documentExtent response))
          (successDocument watch IssuedToken.read AdminClient.tokenOperation response) :=
      fun _ => successDocument_isErrorOf h
    have find : ∀ clientId, StopsAt ⟨sent, .reply response⟩ (c.findClient watch clientId)
        (IsErrorOf (IsCut watch response (documentExtent response))) := by
      intro clientId
      refine authorizedExchange_stopsAt cancels search (fun _ _ => bears_of_authorized) fun _ => ?_
      have read : IsErrorOf (IsCut watch response (documentExtent response))
          (successDocument watch readClients AdminClient.clientOperation response) :=
        successDocument_isErrorOf h
      obtain ⟨e, failed, kind⟩ := read
      exact ⟨e, by rw [failed]; rfl, kind⟩
    cases action with
    | realmExists realm =>
      exact authorizedExchange_stopsAt cancels search (fun _ _ => bears_of_authorized)
        fun own => absurd (token realm rfl) own
    | tokenForRegistration =>
      exact authorizedExchange_stopsAt cancels search (fun _ _ => bears_of_authorized)
        fun _ => successDocument_isErrorOf h
    | findClient clientId => exact find clientId
    | refreshToken clientId =>
      refine StopsAt.andThen cancels (find clientId) fun entry => ?_
      exact authorizedExchange_stopsAt cancels search (fun _ _ => bears_of_authorized)
        fun _ => successDocument_isErrorOf h

/-- **What becomes of a body that an administrative operation reads** while the context is
cancelled. The operation is cancelled if it reads a document, or if its caller watches too; else it
has an excerpt as if nothing were cancelled. -/
structure HeedsBody (watch : Watch) (response : Response) (extent : Extent)
    (result : Except AdminError α) : Prop where
  heeded_iff : IsCancelled result ↔ extent = .whole ∨ watch = .everywhere
  unheeded : ¬ IsCancelled result → ∃ operation,
    result = .error (.unexpectedStatus operation response.status response.body.undisturbed.excerpt)

theorem heedsBody_of_isErrorOf {result : Except AdminError α}
    (h : IsErrorOf (IsCut watch response extent) result) :
    HeedsBody watch response extent result := by
  obtain ⟨e, rfl, cut⟩ := h
  cases cut with
  | @heeded operation _ watched =>
    have cancelled : IsCancelled (.error (.cancelled operation) : Except AdminError α) :=
      ⟨operation, rfl⟩
    exact ⟨iff_of_true cancelled watched, fun not_cancelled => absurd cancelled not_cancelled⟩
  | unheeded unwatched =>
    subst unwatched
    refine ⟨iff_of_false ?_ (by simp), fun _ => ⟨_, rfl⟩⟩
    rintro ⟨_, h⟩
    cases h

/-! ### What registration operations read -/

/-- How much a registration operation reads of the response that is handed back to it. -/
def ownExtent (operation : Client.Operation) (response : Response) : Extent :=
  if response.status = successOf operation then
    if operation = .delete then .nothing else .whole
  else .excerpt

/-- **The bodies that are read** for a request about a registration: the operation reads that of the
response which is handed back to it, and a renewal reads those of the responses to its requests. -/
inductive ReadFor (operation : Client.Operation) (refresher : Option AdminClient)
    (context : Context) (request : Request) (w : World) : Response → Extent → Prop
  | handed {response : Response} (back : HandsBack refresher context request w (some response)) :
      ReadFor operation refresher context request w response (ownExtent operation response)
  | renewal {renewer : AdminClient} {clientId : String} {first response : Response}
      {sent : Request} {extent : Extent} {middle : World}
      (refused : IsRefused refresher context request w renewer clientId first middle)
      (contact : ⟨sent, .reply response⟩ ∈
        middle.contacts (renewer.refreshToken .everywhere clientId))
      (reads : (Action.refreshToken clientId).Reads renewer sent response extent) :
      ReadFor operation refresher context request w response extent

/-- **What becomes of the bodies that are read** for a request about a registration, while the
context is cancelled: that of the response which is handed back is read on, as if nothing were
cancelled. -/
structure TakesBodies (operation : Client.Operation) (refresher : Option AdminClient)
    (context : Context) (request : Request) (w : World)
    (finish : Except TransportError Response → Except RegistrationError α)
    (result : Except RegistrationError α) : Prop where
  heeded_iff : ∀ response extent, ReadFor operation refresher context request w response extent →
    response.body.IsInterrupted extent →
      (IsTransportCancelled operation result ↔
        ¬ HandsBack refresher context request w (some response))
  unheeded : ∀ response, HandsBack refresher context request w (some response) →
    result = finish (.ok response.undisturbed)

/-- **An operation is deaf** to a cancellation in the response that is handed back to it. -/
structure IsDeaf (operation : Client.Operation)
    (finish : Except TransportError Response → Except RegistrationError α) : Prop where
  cut_off : IsTransportCancelled operation (finish (.error .cancelled))
  never : ∀ response, ¬ IsTransportCancelled operation (finish (.ok response))
  undisturbed : ∀ response, finish (.ok response.undisturbed) = finish (.ok response)

theorem judge_undisturbed (operation : Client.Operation) (response : Response) :
    judge operation (.ok response.undisturbed) =
      (judge operation (.ok response)).map Response.undisturbed := by
  by_cases status : response.status = successOf operation
  · have judged : judge operation (.ok response.undisturbed) = .ok response.undisturbed :=
      judge_of_success status
    rw [judged, judge_of_success status]
    rfl
  · have judged : judge operation (.ok response.undisturbed) =
        .error (.http (StatusError.ofResponse operation response.undisturbed)) :=
      judge_of_other status
    have kept : StatusError.ofResponse operation response.undisturbed =
        StatusError.ofResponse operation response :=
      congrArg (StatusError.mk operation response.status) (excerpt_undisturbed response.body)
    rw [judged, judge_of_other status, kept]
    rfl

theorem isDeaf_information (operation : Client.Operation) :
    IsDeaf operation fun outcome => (judge operation outcome).bind (informationOf operation) where
  cut_off := rfl
  never := by
    intro response h
    rcases (ends_iff (fun _ _ => informationOf_eq_iff) (.ok response) _).mp h with
      _ | _ | ⟨-, taken⟩
    cases taken
  undisturbed := by
    intro response
    have same : ∀ r : Response,
        informationOf operation r.undisturbed = informationOf operation r := by
      intro r
      have body : r.undisturbed.body.whole? = r.body.whole? := whole?_undisturbed r.body
      rw [informationOf, body, informationOf]
    rw [judge_undisturbed]
    cases judge operation (.ok response) with
    | ok r => exact same r
    | error e => rfl

theorem isDeaf_deletion :
    IsDeaf .delete fun outcome => (judge .delete outcome).map fun _ => () where
  cut_off := rfl
  never := by
    intro response h
    rcases (deletion_ends_iff (.ok response) _).mp h with _ | _ | ⟨-, taken⟩
    cases taken
  undisturbed := by
    intro response
    rw [judge_undisturbed]
    cases judge .delete (.ok response) <;> rfl

section Execution

variable {refresher : Option AdminClient} {context : Context} {request : Request}
  {operation : Client.Operation}
  {finish : Except TransportError Response → Except RegistrationError α}

theorem perform_execute_of_handsBack
    (back : HandsBack refresher context request w (some response)) :
    (w.perform ((Renewal.execute refresher context request).through renewalAnswer)).1 =
      .ok response := by
  have ends := handsBack_iff.mp back
  unfold ending at ends
  cases outcome : (w.perform ((Renewal.execute refresher context request).through
      renewalAnswer)).1 with
  | ok r =>
    rw [outcome] at ends
    obtain rfl := Option.some.inj ends
    rfl
  | error cause =>
    rw [outcome] at ends
    cases ends

/-- **A body that is read in a renewal** while the context is cancelled ends the execution. -/
theorem perform_execute_of_renewal {renewer : AdminClient} {clientId : String} {first : Response}
    (refused : IsRefused refresher context request w renewer clientId first v)
    (contact : ⟨sent, .reply response⟩ ∈ v.contacts (renewer.refreshToken .everywhere clientId))
    (reads : (Action.refreshToken clientId).Reads renewer sent response extent)
    (h : response.body.IsInterrupted extent) :
    (w.perform ((Renewal.execute refresher context request).through renewalAnswer)).1 =
      .error .cancelled := by
  have stops : StopsAt ⟨sent, .reply response⟩ (renewer.refreshToken .everywhere clientId)
      (IsErrorOf (IsCut .everywhere response extent)) := Action.stopsAt reads h
  obtain ⟨e, failed, cut⟩ := stops v contact
  have renewal : v.Runs (renewer.refreshToken .everywhere clientId) _ (.error e) _ :=
    ⟨Prod.ext failed rfl, rfl⟩
  rw [refused.perform_eq renewal]
  cases cut with
  | heeded watched => rfl
  | unheeded unwatched => cases unwatched

theorem takesBodies (deaf : IsDeaf operation finish) (w : World) :
    TakesBodies operation refresher context request w finish
      (w.perform (registering refresher
        (.ask (.execute context request) fun outcome => .done (finish outcome)))).1 := by
  let execution := (Renewal.execute refresher context request).through renewalAnswer
  have ends : (w.perform (registering refresher
      (.ask (.execute context request) fun outcome => .done (finish outcome)))).1 =
        finish (w.perform execution).1 :=
    congrArg Prod.fst (World.perform_bind w execution fun outcome => .done (finish outcome))
  rw [ends]
  constructor
  · intro response extent read h
    cases read with
    | handed back =>
      rw [perform_execute_of_handsBack back]
      exact iff_of_false (deaf.never response) (not_not_intro back)
    | renewal refused contact reads =>
      have cut_off := perform_execute_of_renewal refused contact reads h
      rw [cut_off]
      refine iff_of_true deaf.cut_off fun back => ?_
      cases cut_off.symm.trans (perform_execute_of_handsBack back)
  · intro response back
    rw [perform_execute_of_handsBack back, deaf.undisturbed]

end Execution

/-! ### The operations -/

/-- What an operation makes of an outcome that should give information. -/
abbrev informing (operation : Client.Operation) (outcome : Except TransportError Response) :
    Except RegistrationError Client.ClientInformation :=
  (judge operation outcome).bind (informationOf operation)

/-- **What becomes of the bodies that are read when a client is registered**, while the context is
cancelled: the search for a token is an administrative operation that is watched at its requests,
and the registration has a request like others. -/
structure RegisteringTakesBodies (c : AdminClient) (refresher : Option AdminClient)
    (context : Context) (url : Url) (metadata : Client.ClientMetadata) (w : World)
    (result : Except RegistrationError Client.ClientInformation) : Prop where
  search : ∀ sent response extent,
    ⟨sent, .reply response⟩ ∈ w.contacts (c.tokenForRegistration .atRequests) →
    Action.tokenForRegistration.Reads c sent response extent → response.body.IsInterrupted extent →
      ∃ e, result = .error (.initialAccessToken e) ∧
        HeedsBody .atRequests response extent (.error e : Except AdminError String)
  own : ∀ here token request v, w.Runs (c.tokenForRegistration .atRequests) here (.ok token) v →
    buildRequest .register url token (some metadata.toJson) = .ok request →
      TakesBodies .register refresher context.anonymous request v (informing .register) result

theorem registeringTakesBodies (c : AdminClient) (refresher : Option AdminClient)
    (context : Context) {endpoint : String} {url : Url} (metadata : Client.ClientMetadata)
    (w : World) (parsed : Url.ofString endpoint = .ok url) :
    RegisteringTakesBodies c refresher context url metadata w
      (w.perform (registering refresher (register (some c) context endpoint metadata))).1 := by
  rw [registering_register c refresher context endpoint metadata parsed]
  have performs : w.perform (Dialog.bind (c.tokenForRegistration .atRequests)
      (afterToken refresher context url metadata)) =
        (w.perform (c.tokenForRegistration .atRequests)).2.perform (afterToken refresher context url
          metadata (w.perform (c.tokenForRegistration .atRequests)).1) :=
    World.perform_bind w _ _
  rw [performs]
  constructor
  · intro sent response extent contact reads h
    obtain ⟨e, failed, cut⟩ := Action.stopsAt reads h w contact
    have failed' : (w.perform (c.tokenForRegistration .atRequests)).1 = .error e := failed
    rw [failed']
    exact ⟨e, rfl, heedsBody_of_isErrorOf ⟨e, rfl, cut⟩⟩
  · intro here token request v runs built
    have registers : afterToken refresher context url metadata (.ok token) =
        registering refresher (executeForInformation context.anonymous .register request) := by
      rw [afterToken, built]
    rw [runs.performs, registers]
    exact takesBodies (isDeaf_information .register) v

theorem onRegistration_takesBodies (refresher : Option AdminClient) (context : Context)
    (clientId : String) {operation : Client.Operation} {request : Request}
    {checks : Except RegistrationError Request}
    {finish : Except TransportError Response → Except RegistrationError α}
    (deaf : IsDeaf operation finish) (w : World) (passes : checks = .ok request) :
    TakesBodies operation refresher (context.forClient clientId) request w finish
      (w.perform (registering refresher (onRegistration context clientId finish checks))).1 := by
  subst passes
  exact takesBodies deaf w

/-- **When a cancellation is heeded that falls into a body.** An administrative operation heeds it
where it reads a document, and in what it keeps of another body only where its caller watches too;
a registration operation heeds it in the search for a token and in a renewal, and never in the
response that is handed back to it, which it reads to its end. -/
theorem body_cancellation_heeded_iff (c : AdminClient) (refresher : Option AdminClient)
    (context : Context) (w : World) :
    (∀ d : Delivery, d.IsReadUpToCancellation) ∧
    (∀ (action : Action) watch sent response extent,
      ⟨sent, .reply response⟩ ∈ w.contacts (action.dialog c watch) →
      action.Reads c sent response extent → response.body.IsInterrupted extent →
        HeedsBody watch response extent (w.perform (action.dialog c watch)).1) ∧
    (∀ endpoint url metadata, Url.ofString endpoint = .ok url →
      RegisteringTakesBodies c refresher context url metadata w
        (w.perform (registering refresher (register (some c) context endpoint metadata))).1) ∧
    (∀ clientId uri token request, registrationRequest .read uri token none = .ok request →
      TakesBodies .read refresher (context.forClient clientId) request w (informing .read)
        (w.perform (registering refresher (read context clientId uri token))).1) ∧
    (∀ clientId uri token metadata request,
      registrationRequest .update uri token (some (metadata.updateDocument clientId)) =
        .ok request →
      TakesBodies .update refresher (context.forClient clientId) request w (informing .update)
        (w.perform (registering refresher (update context clientId uri token metadata))).1) ∧
    ∀ clientId uri token request, registrationRequest .delete uri token none = .ok request →
      TakesBodies .delete refresher (context.forClient clientId) request w
        (fun outcome => (judge .delete outcome).map fun _ => ())
        (w.perform (registering refresher (delete context clientId uri token))).1 := by
  refine ⟨isReadUpToCancellation, ?_, ?_, ?_, ?_, ?_⟩
  · intro action watch sent response extent contact reads h
    exact heedsBody_of_isErrorOf (Action.stopsAt reads h w contact)
  · intro endpoint url metadata parsed
    exact registeringTakesBodies c refresher context metadata w parsed
  · intro clientId uri token request passes
    rw [read_eq_onRegistration]
    exact onRegistration_takesBodies refresher context clientId (isDeaf_information .read) w passes
  · intro clientId uri token metadata request passes
    rw [update_eq_onRegistration]
    exact onRegistration_takesBodies refresher context clientId (isDeaf_information .update) w
      passes
  · intro clientId uri token request passes
    rw [delete_eq_onRegistration]
    exact onRegistration_takesBodies refresher context clientId isDeaf_deletion w passes

/-- The information about a client in two pieces, with a cancellation between them. -/
def cutInformation : Response :=
  ⟨200, ⟨[.chunk (Text.Utf8.bytes "\x7b\"client_id\":"), .cancellation,
    .chunk (Text.Utf8.bytes "\"c1\"\x7d")], true⟩⟩

/-- The world in which every request is answered with it. -/
def cuttingWorld : World := .start none [] ⟨.reply cutInformation, 0⟩

theorem exists_handsBack_cutInformation :
    ∃ request, registrationRequest .read "https://idp.test/clients/c1" "rat" none = .ok request ∧
      HandsBack none ((Context.ofDomain ⟨[0]⟩).forClient "c1") request cuttingWorld
        (some cutInformation) := by
  have passes : (registrationRequest .read "https://idp.test/clients/c1" "rat" none).toOption.map
      (·.url.isHttp) = some true := by
    decide +kernel
  cases built : registrationRequest .read "https://idp.test/clients/c1" "rat" none with
  | error e =>
    rw [built] at passes
    cases passes
  | ok request =>
    rw [built] at passes
    have http : request.url.isHttp = true := Option.some.inj passes
    exact ⟨request, rfl, .plain (.inl rfl) (.sent http ⟨rfl, rfl, rfl⟩)⟩

/-- The search for a token is cancelled, for a lookup and for a registration; a registration that is
read is not. -/
theorem body_cancellation_heeded_iff_cut :
    (∃ sent, ⟨sent, .reply cutInformation⟩ ∈
        cuttingWorld.contacts ((Action.realmExists "org").dialog localClient .atRequests) ∧
      (Action.realmExists "org").Reads localClient sent cutInformation .whole ∧
      cutInformation.body.IsInterrupted .whole ∧
      IsCancelled (cuttingWorld.perform
        ((Action.realmExists "org").dialog localClient .atRequests)).1) ∧
    (∃ url, Url.ofString "https://idp.test/clients" = .ok url ∧
      RegisteringTakesBodies localClient none default url .blank cuttingWorld
        (cuttingWorld.perform (registering none
          (register (some localClient) default "https://idp.test/clients" .blank))).1) ∧
    ∃ request, registrationRequest .read "https://idp.test/clients/c1" "rat" none = .ok request ∧
      HandsBack none ((Context.ofDomain ⟨[0]⟩).forClient "c1") request cuttingWorld
        (some cutInformation) ∧
      ¬ IsTransportCancelled .read (cuttingWorld.perform (registering none
        (read (Context.ofDomain ⟨[0]⟩) "c1" "https://idp.test/clients/c1" "rat"))).1 := by
  have cut : cutInformation.body.IsInterrupted .whole := by decide +kernel
  obtain ⟨-, actions, -, reads, -⟩ :=
    body_cancellation_heeded_iff localClient none (Context.ofDomain ⟨[0]⟩) cuttingWorld
  obtain ⟨-, -, registers, -⟩ := body_cancellation_heeded_iff localClient none default cuttingWorld
  obtain ⟨sent, made⟩ := exists_tokenRequest (c := localClient) rfl
  have contact : ⟨sent, .reply cutInformation⟩ ∈
      cuttingWorld.contacts ((Action.realmExists "org").dialog localClient .atRequests) :=
    asks_of_without (fun _ stored => by cases stored) rfl made
  have document : (Action.realmExists "org").Reads localClient sent cutInformation .whole :=
    .document fun _ _ => made
  have heeds := actions _ _ sent cutInformation .whole contact document cut
  obtain ⟨request, passes, back⟩ := exists_handsBack_cutInformation
  refine ⟨⟨sent, contact, document, cut, heeds.heeded_iff.mpr (.inl rfl)⟩, ?_,
    request, passes, back,
    mt ((reads _ _ _ request passes).heeded_iff cutInformation .whole (.handed back) cut).mp
      (not_not_intro back)⟩
  have endpoint : (Url.ofString "https://idp.test/clients").toOption.isSome = true := by
    decide +kernel
  cases parsed : Url.ofString "https://idp.test/clients" with
  | error e =>
    rw [parsed] at endpoint
    cases endpoint
  | ok url => exact ⟨url, rfl, registers _ url .blank parsed⟩

/-- **A registration is read to its end** after its context was cancelled. -/
theorem body_cancellation_unheeded :
    ∃ request, registrationRequest .read "https://idp.test/clients/c1" "rat" none = .ok request ∧
      ReadFor .read none ((Context.ofDomain ⟨[0]⟩).forClient "c1") request cuttingWorld
        cutInformation .whole ∧
      cutInformation.body.IsInterrupted .whole ∧
      (cuttingWorld.perform (registering none
        (read (Context.ofDomain ⟨[0]⟩) "c1" "https://idp.test/clients/c1" "rat"))).1.toOption.map
          (·.clientId) = some "c1" := by
  obtain ⟨request, passes, back⟩ := exists_handsBack_cutInformation
  exact ⟨request, passes, .handed back, by decide +kernel, by decide +kernel⟩

end Provider

end RealmKeeper
