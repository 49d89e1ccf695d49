import RealmKeeper.Proofs.SingleRetry
import RealmKeeper.Proofs.TokenRotation
import RealmKeeper.Provider.Layers

/-!
# The right client and the right credential

What is said to the provider when a registration is read, changed or deleted.

* `Request.PresentsOnly`: the one credential of a request; `Request.Repeats`: a request that is sent
  again with another one;
* `Follows`: what is said about one request: the request, the renewal of the token of its client
  after it was refused, and the request again with the token that the renewal gives;
* `Conducts`: an operation that passes its local checks keeps to this, for its own request;
* `registration_conducts`: reading, changing and deleting a registration do.
-/

namespace RealmKeeper.Http

/-- **A request presents a token**, and no other credential. -/
def Request.PresentsOnly (token : String) (request : Request) : Prop :=
  ∃ credential, HeaderValue.ofString? ("Bearer " ++ token) = some credential ∧
    request.fields.filter (·.1 = "authorization") = [("authorization", credential)]

/-- **A request again with another token**: nothing else is different. -/
structure Request.Repeats (token : String) (first again : Request) : Prop where
  presents : again.PresentsOnly token
  method_eq : again.method = first.method
  url_eq : again.url = first.url
  others_eq : again.fields.filter (·.1 ≠ "authorization") =
    first.fields.filter (·.1 ≠ "authorization")
  body_eq : again.body = first.body

theorem filter_setField_self (name : String) (value : HeaderValue)
    (fields : List (String × HeaderValue)) :
    (setField name value fields).filter (·.1 = name) = [(name, value)] := by
  induction fields with
  | nil => simp [setField]
  | cons field rest ih =>
    obtain ⟨n, v⟩ := field
    by_cases h : n = name
    · simp [setField, h, List.filter_filter]
    · simp [setField, h, ih]

theorem filter_setField_other (name : String) (value : HeaderValue)
    (fields : List (String × HeaderValue)) :
    (setField name value fields).filter (·.1 ≠ name) = fields.filter (·.1 ≠ name) := by
  induction fields with
  | nil => simp [setField]
  | cons field rest ih =>
    obtain ⟨n, v⟩ := field
    by_cases h : n = name
    · simp [setField, h, List.filter_filter]
    · rw [setField, if_neg h, List.filter_cons_of_pos (by simpa using h),
        List.filter_cons_of_pos (by simpa using h), ih]

theorem Request.repeats_withField {token : String} {credential : HeaderValue} (request : Request)
    (h : HeaderValue.ofString? ("Bearer " ++ token) = some credential) :
    request.Repeats token (request.withField "authorization" credential) :=
  ⟨⟨credential, h, filter_setField_self _ _ _⟩, rfl, rfl, filter_setField_other _ _ _, rfl⟩

end RealmKeeper.Http

namespace RealmKeeper.Provider

open RealmKeeper.Http RealmKeeper.Admin RealmKeeper.Registration RealmKeeper.Client

variable {c : AdminClient} {clientId : String} {first : Request} {w v : World}

/-! ### What is said -/

/-- **A request of a client is refused** as not authorised; the client has a name that is not
blank. -/
structure Refuses (w : World) (clientId : String) (first : Request) (response : Response)
    (after : World) : Prop where
  sends : w.Sends first (.reply response) after
  status : response.status = 401
  named : Text.isAllBlank clientId.toList = false

/-- **What is said about a request** of a client. -/
inductive Follows (c : AdminClient) (clientId : String) (first : Request) (w : World) :
    List Contact → Prop
  /-- The request is not sent: the context is cancelled, or the URL is none of HTTP. -/
  | silent (unsent : w.cancelled = true ∨ first.url.isHttp = false) : Follows c clientId first w []
  /-- The request is sent, and it is not refused, or the client has no name. -/
  | once {arrival : Arrival} {after : World} (sends : w.Sends first arrival after)
      (stands : ∀ response, arrival = .reply response → response.status = 401 →
        Text.isAllBlank clientId.toList = true) :
      Follows c clientId first w [⟨first, arrival⟩]
  /-- It is refused, and the token of the client is renewed as far as that comes. -/
  | renewing {response : Response} {here : List Contact} {after : World}
      (refuses : Refuses w clientId first response after)
      (attempts : AttemptsRotation c clientId after here) :
      Follows c clientId first w (⟨first, .reply response⟩ :: here)
  /-- It is refused, the token of the client is renewed, and the request is sent again with it. -/
  | again {response : Response} {here : List Contact} {fresh : String} {second : Request}
      {arrival : Arrival} {after middle last : World}
      (refuses : Refuses w clientId first response after)
      (rotates : Rotates c clientId after here fresh middle)
      (repeats : first.Repeats fresh second) (sends : middle.Sends second arrival last) :
      Follows c clientId first w (⟨first, .reply response⟩ :: (here ++ [⟨second, arrival⟩]))

/-- **The request of an operation on a registration**: it goes to the registration and presents the
token that is given for it. -/
structure IsRegistrationRequest (method registrationUri token : String) (request : Request) :
    Prop where
  method_eq : request.method = method
  url_eq : Url.ofString registrationUri = .ok request.url
  presents : request.PresentsOnly token

/-- **The conduct of an operation on a registration**: where a local check fails nothing is said,
and where they pass what follows from its own request; this is what reaches the provider. -/
structure Conducts {α : Type} (c : AdminClient) (clientId method registrationUri token : String)
    (checks : Except RegistrationError Request) (w : World) (d : Dialog Admin.Answer α) : Prop where
  own : ∀ first, checks = .ok first → IsRegistrationRequest method registrationUri token first
  follows : ∀ first, checks = .ok first → Follows c clientId first w (w.contacts d)
  unchecked : ∀ e, checks = .error e → w.contacts d = []
  reaches : (w.perform d).2.sent = w.sent ++ (w.contacts d).filterMap w.arrived

/-! ### Executing once -/

theorem finished_eq_ok {request prepared : Request} (h : finished request = .ok prepared) :
    prepared = request := by
  unfold finished at h
  split at h
  · exact (Except.ok.inj h).symm
  · cases h

theorem finished_eq_error {request : Request} {cause : NetworkError}
    (h : finished request = .error cause) : request.url.isHttp = false := by
  unfold finished at h
  split at h
  · cases h
  · exact Bool.eq_false_iff.mpr ‹_›

/-- What becomes of a request that is sent, as the outcome of its execution. -/
def received (request : Request) : Arrival → Except TransportError Response
  | .reply response => .ok response
  | .dropped => .error (.request (.sending request.url))
  | .cancelling => .error .cancelled
  | .unreachable => .error (.request (.sending request.url))

theorem executeOnce_runs (request : Request) (w : World) :
    ((w.cancelled = true ∨ request.url.isHttp = false) ∧
        ∃ e, w.Runs (executeOnce request) [] (.error e) w) ∨
      ∃ arrival v, w.Sends request arrival v ∧
        w.Runs (executeOnce request) [⟨request, arrival⟩] (received request arrival) v := by
  unfold executeOnce
  rcases World.sends_or_silent (finished request) w with
    ⟨prepared, arrival, v, hp, sends⟩ | ⟨reply, unanswered, hq, silent, unsent⟩
  · obtain rfl := finished_eq_ok hp
    rw [hp]
    refine .inr ⟨arrival, v, sends, sends.runs ?_⟩
    cases arrival <;> exact World.runs_done _ _
  · refine .inl ⟨unsent.imp_right fun ⟨cause, hf⟩ => finished_eq_error hf, ?_⟩
    cases reply with
    | answered response => exact absurd rfl (unanswered response)
    | failed cause => exact ⟨_, World.Runs.ask_silent hq silent (World.runs_done _ _)⟩
    | cancelled => exact ⟨_, World.Runs.ask_silent hq silent (World.runs_done _ _)⟩

/-! ### Executing with renewal -/

theorem repeatWith_runs (first : Request) (token : String) (w : World) :
    ∃ here outcome v,
      w.Runs ((Renewal.repeatWith first token).through renewalAnswer) here outcome v ∧
      (here = [] ∨ ∃ second arrival after, first.Repeats token second ∧
        w.Sends second arrival after ∧ here = [⟨second, arrival⟩]) := by
  by_cases streamed : Renewal.IsStreamed first
  · rw [Renewal.repeatWith_of_streamed token streamed]
    exact ⟨[], _, w, World.runs_done _ w, .inl rfl⟩
  cases legal : HeaderValue.ofString? ("Bearer " ++ token) with
  | none =>
    rw [Renewal.repeatWith_of_illegal streamed legal]
    exact ⟨[], _, w, World.runs_done _ w, .inl rfl⟩
  | some credential =>
    rw [Renewal.repeatWith_of_legal streamed legal]
    rcases executeOnce_runs (first.withField "authorization" credential) w with
      ⟨-, e, runs⟩ | ⟨arrival, v, sends, runs⟩
    · exact ⟨_, _, w, runs.bind_silent (World.runs_done _ w), .inl rfl⟩
    · exact ⟨_, _, v, runs.bind_silent (World.runs_done _ v),
        .inr ⟨_, arrival, v, first.repeats_withField legal, sends, rfl⟩⟩

theorem refused_runs {response : Response} (refuses : Refuses w clientId first response v) :
    ∃ here outcome u,
      v.Runs ((Dialog.ask (.refresh c clientId) (Renewal.afterRefresh first response)).through
        renewalAnswer) here outcome u ∧
      Follows c clientId first w (⟨first, .reply response⟩ :: here) := by
  obtain ⟨here, result, u, runs, attempts, rotates⟩ := refreshToken_runs c .everywhere clientId v
  have answer : v.Runs (renewalAnswer (.refresh c clientId)) here (some result) u :=
    runs.bind_silent (World.runs_done _ u)
  cases result with
  | error e =>
    exact ⟨here, _, u, answer.bind_silent (World.runs_done _ u), .renewing refuses attempts⟩
  | ok fresh =>
    obtain ⟨there, outcome, x, runs', talk⟩ := repeatWith_runs first fresh u
    refine ⟨here ++ there, outcome, x, World.Runs.bind answer runs', ?_⟩
    rcases talk with rfl | ⟨second, arrival, after, repeats, sends, rfl⟩
    · rw [List.append_nil]
      exact .renewing refuses attempts
    · exact .again refuses (rotates fresh rfl) repeats sends

/-- **What is said when a request is executed** follows from the request. -/
theorem execute_runs (c : AdminClient) (context : Context) (clientId : String) (first : Request)
    (w : World) :
    ∃ here outcome v,
      w.Runs ((Renewal.execute (some c) (context.forClient clientId) first).through renewalAnswer)
        here outcome v ∧
      Follows c clientId first w here := by
  cases named : Text.isAllBlank clientId.toList with
  | true =>
    have nobody : ∀ id, ¬ (context.forClient clientId).Names id := by
      rintro id ⟨hid, hb⟩
      obtain rfl : clientId = id := Option.some.inj hid
      rw [named] at hb
      cases hb
    rw [Renewal.execute_of_nobody first (.inr nobody)]
    rcases executeOnce_runs first w with ⟨unsent, e, runs⟩ | ⟨arrival, v, sends, runs⟩
    · exact ⟨_, _, w, runs.bind_silent (World.runs_done _ w), .silent unsent⟩
    · exact ⟨_, _, v, runs.bind_silent (World.runs_done _ v),
        .once sends fun response ha status => named⟩
  | false =>
    rw [Renewal.execute_of_names first ⟨rfl, named⟩]
    rcases executeOnce_runs first w with ⟨unsent, e, runs⟩ | ⟨arrival, v, sends, runs⟩
    · exact ⟨_, _, w, runs.bind_silent (World.runs_done _ w), .silent unsent⟩
    cases arrival with
    | reply response =>
      by_cases status : response.status = 401
      · obtain ⟨here, outcome, u, runs', follows⟩ :=
          refused_runs (c := c) ⟨sends, status, named⟩
        refine ⟨_, outcome, u, World.Runs.bind runs ?_, follows⟩
        rw [received, Renewal.afterFirst_of_refused status]
        exact runs'
      · refine ⟨_, .ok response, v, runs.bind_silent ?_, .once sends ?_⟩
        · rw [received, Renewal.afterFirst_of_other status]
          exact World.runs_done _ v
        · rintro _ ⟨⟩ refused
          exact absurd refused status
    | dropped | cancelling | unreachable =>
      exact ⟨_, _, v, runs.bind_silent (World.runs_done _ v), .once sends nofun⟩

/-! ### Operations -/

theorem presentsOnly_of_buildRequest {operation : Operation} {url : Url} {token : String}
    {document : Option Json} (h : buildRequest operation url token document = .ok first) :
    first.method = methodOf operation ∧ first.url = url ∧ first.PresentsOnly token := by
  unfold buildRequest bearer? at h
  cases legal : HeaderValue.ofString? ("Bearer " ++ token) with
  | none =>
    rw [legal] at h
    cases h
  | some credential =>
    rw [legal] at h
    cases document with
    | none =>
      obtain rfl := Except.ok.inj h
      exact ⟨rfl, rfl, credential, legal, rfl⟩
    | some document =>
      obtain rfl := Except.ok.inj h
      exact ⟨rfl, rfl, credential, legal, rfl⟩

theorem isRegistrationRequest_of_eq_ok {operation : Operation} {registrationUri token : String}
    {document : Option Json}
    (h : registrationRequest operation registrationUri token document = .ok first) :
    IsRegistrationRequest (methodOf operation) registrationUri token first := by
  unfold registrationRequest registrationUrl parseEndpoint at h
  by_cases blank : Text.isAllBlank registrationUri.toList = true
  · rw [if_pos blank] at h
    cases h
  rw [if_neg blank] at h
  cases parsed : Url.ofString registrationUri with
  | error cause =>
    rw [parsed] at h
    cases h
  | ok url =>
    rw [parsed] at h
    obtain ⟨method, rfl, presents⟩ := presentsOnly_of_buildRequest h
    exact ⟨method, parsed, presents⟩

/-- An operation on a registration, after its local checks: its request is executed for the client,
and the outcome is judged. -/
def onRegistration {α : Type} (context : Context) (clientId : String)
    (finish : Except TransportError Response → Except RegistrationError α) :
    Except RegistrationError Request → Registration.Operating AdminClient α
  | .error e => .done (.error e)
  | .ok request => .ask (.execute (context.forClient clientId) request) fun outcome =>
    .done (finish outcome)

section Forms

variable (context : Context) (clientId registrationUri token : String) (metadata : ClientMetadata)

theorem read_eq_onRegistration :
    read context clientId registrationUri token =
      onRegistration context clientId
        (fun outcome => (judge .read outcome).bind (informationOf .read))
        (registrationRequest .read registrationUri token none) := by
  unfold Registration.read
  cases registrationRequest .read registrationUri token none <;> rfl

theorem update_eq_onRegistration :
    update context clientId registrationUri token metadata =
      onRegistration context clientId
        (fun outcome => (judge .update outcome).bind (informationOf .update))
        (registrationRequest .update registrationUri token
          (some (metadata.updateDocument clientId))) := by
  unfold update
  cases registrationRequest .update registrationUri token
    (some (metadata.updateDocument clientId)) <;> rfl

theorem delete_eq_onRegistration :
    delete context clientId registrationUri token =
      onRegistration context clientId (fun outcome => (judge .delete outcome).map fun _ => ())
        (registrationRequest .delete registrationUri token none) := by
  unfold delete
  cases registrationRequest .delete registrationUri token none <;> rfl

end Forms

/-- How a registration goes on after the search for its token. -/
def afterToken (refresher : Option AdminClient) (context : Context) (url : Url)
    (metadata : ClientMetadata) :
    Except AdminError String → Dialog Admin.Answer (Except RegistrationError ClientInformation)
  | .error cause => .done (.error (.initialAccessToken cause))
  | .ok token =>
    match buildRequest .register url token (some metadata.toJson) with
    | .error e => .done (.error e)
    | .ok request =>
      registering refresher (executeForInformation context.anonymous .register request)

theorem registering_register (c : AdminClient) (refresher : Option AdminClient) (context : Context)
    (endpoint : String) (metadata : ClientMetadata) {url : Url}
    (h : Url.ofString endpoint = .ok url) :
    registering refresher (register (some c) context endpoint metadata) =
      Dialog.bind (c.tokenForRegistration .atRequests)
        (afterToken refresher context url metadata) := by
  have parsed : parseEndpoint .register endpoint = .ok url := by rw [parseEndpoint, h]; rfl
  unfold register
  rw [parsed]
  refine congrArg (Dialog.bind (c.tokenForRegistration .atRequests)) (funext fun answer => ?_)
  cases answer with
  | error cause => rfl
  | ok token =>
    unfold afterToken
    dsimp only
    cases buildRequest .register url token (some metadata.toJson) <;> rfl

theorem onRegistration_conducts {α : Type} (c : AdminClient) (context : Context)
    (clientId registrationUri token : String) (operation : Operation) (document : Option Json)
    (finish : Except TransportError Response → Except RegistrationError α) (w : World) :
    Conducts c clientId (methodOf operation) registrationUri token
      (registrationRequest operation registrationUri token document) w
      (registering (some c) (onRegistration context clientId finish
        (registrationRequest operation registrationUri token document))) := by
  refine ⟨fun first => isRegistrationRequest_of_eq_ok, fun first checks => ?_, fun e checks => ?_,
    World.sent_perform _ w⟩
  · obtain ⟨here, outcome, v, runs, follows⟩ := execute_runs c context clientId first w
    have runs' : w.Runs (registering (some c) (onRegistration context clientId finish (.ok first)))
        here (finish outcome) v := runs.bind_silent (World.runs_done _ v)
    rw [checks, runs'.contacts_eq]
    exact follows
  · rw [checks]
    rfl

/-- **The right client and the right credential.** Reading, changing or deleting a registration
sends its own request with the token that is given for it; only when this is refused and the client
has a name, the token of exactly this client is renewed, with an admin token; and only with the
token that the renewal gives, the request is sent again, the same but for its credential. -/
theorem registration_conducts (c : AdminClient) (context : Context)
    (clientId registrationUri token : String) (metadata : ClientMetadata) (w : World) :
    Conducts c clientId "GET" registrationUri token
        (registrationRequest .read registrationUri token none) w
        (registering (some c) (read context clientId registrationUri token)) ∧
      Conducts c clientId "PUT" registrationUri token
        (registrationRequest .update registrationUri token
          (some (metadata.updateDocument clientId))) w
        (registering (some c) (update context clientId registrationUri token metadata)) ∧
      Conducts c clientId "DELETE" registrationUri token
        (registrationRequest .delete registrationUri token none) w
        (registering (some c) (delete context clientId registrationUri token)) := by
  rw [read_eq_onRegistration, update_eq_onRegistration, delete_eq_onRegistration]
  exact ⟨onRegistration_conducts c context clientId registrationUri token .read _ _ w,
    onRegistration_conducts c context clientId registrationUri token .update _ _ w,
    onRegistration_conducts c context clientId registrationUri token .delete _ _ w⟩

/-- A provider that refuses a request, renews the token of its client, and answers it then. -/
def renewing : World :=
  .start none [⟨.reply ⟨401, ⟨[], true⟩⟩, 0⟩,
    ⟨.reply (documentResponse "\x7b\"access_token\":\"a\",\"expires_in\":60\x7d"), 0⟩,
    ⟨.reply (documentResponse "[\x7b\"id\":\"i\",\"clientId\":\"c\"\x7d]"), 0⟩,
    ⟨.reply (documentResponse "\x7b\"registrationAccessToken\":\"n\"\x7d"), 0⟩,
    ⟨.reply (documentResponse "\x7b\"client_id\":\"c\"\x7d"), 0⟩] ⟨.unreachable, 0⟩

/-- A registration that is read, refused, and read again with the renewed token; without a URL none
is asked for. -/
theorem registration_conducts_renewing :
    (∃ first, registrationRequest .read "http://idp.test/c" "t" none = .ok first ∧
      IsRegistrationRequest "GET" "http://idp.test/c" "t" first ∧
      Follows localClient "c" first renewing (renewing.contacts
        (registering (some localClient) (read default "c" "http://idp.test/c" "t")))) ∧
    (renewing.contacts
      (registering (some localClient) (read default "c" "http://idp.test/c" "t"))).length = 5 ∧
    registrationRequest .delete " " "t" none = .error (.missingRegistrationUri .delete) ∧
      renewing.contacts (registering (some localClient) (delete default "c" " " "t")) = [] := by
  have passes :
      (registrationRequest .read "http://idp.test/c" "t" none).toOption.isSome = true := by
    decide +kernel
  have fails :
      registrationRequest .delete " " "t" none = .error (.missingRegistrationUri .delete) := rfl
  have reads := (registration_conducts localClient default "c" "http://idp.test/c" "t" .blank
    renewing).1
  have deletes := (registration_conducts localClient default "c" " " "t" .blank renewing).2.2
  refine ⟨?_, by decide +kernel, fails, deletes.unchecked _ fails⟩
  cases built : registrationRequest .read "http://idp.test/c" "t" none with
  | error e =>
    rw [built] at passes
    cases passes
  | ok first => exact ⟨first, rfl, reads.own first built, reads.follows first built⟩

end RealmKeeper.Provider
