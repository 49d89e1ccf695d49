import RealmKeeper.Proofs.RegistrationRequests
import RealmKeeper.Proofs.TokenCache
import RealmKeeper.Proofs.TwinRuns

/-!
# Secrets stay where they belong

Two sessions with the provider that differ in secrets only: in the secret of the administrative
client, and in the registration access tokens that are presented.

* `Errand` and `Engine.records`: what is done in a session, and what comes of it;
* `SameButSecret` and `Request.SameButCredential`: two requests that differ in a secret;
* `Record.Alike`: two errands with the same result, whose requests differ in their secrets only,
  each at its one place;
* `secrets_stay`: in any two sessions all errands are alike.
-/

namespace RealmKeeper

namespace Admin

open RealmKeeper.Http

/-- The administrative client with another secret. -/
def AdminClient.withSecret (c : AdminClient) (secret : String) : AdminClient :=
  { c with credentials := { c.credentials with clientSecret := secret } }

/-- **The request for an admin token** with a secret: the secret is a member of its form. -/
structure IsTokenRequest (c : AdminClient) (secret : String) (request : Request) : Prop where
  method_eq : request.method = "POST"
  url_eq : request.url = c.tokenEndpoint.withoutUser
  fields_eq : request.fields =
    AdminClient.basicField c.tokenEndpoint ++ [("content-type", HeaderValue.form)]
  body_eq : request.body = .octets (Text.Utf8.encode (Url.formText
    [("grant_type".toList, "client_credentials".toList),
      ("client_id".toList, c.credentials.clientId.toList),
      ("client_secret".toList, secret.toList)]))

/-- **Two requests differ at most in the secret**: they are the same, or both ask for an admin
token. -/
inductive SameButSecret (c : AdminClient) (secret secret' : String) : Request → Request → Prop
  | same (request : Request) : SameButSecret c secret secret' request request
  | token {a b : Request} (asks : IsTokenRequest c secret a) (asks' : IsTokenRequest c secret' b) :
      SameButSecret c secret secret' a b

theorem isTokenRequest_of_eq_ok {c : AdminClient} {secret : String} {request : Request}
    (made : (c.withSecret secret).tokenRequest = .ok request) :
    IsTokenRequest c secret request := by
  unfold AdminClient.tokenRequest AdminClient.prepare at made
  split at made
  · obtain rfl := Except.ok.inj made
    exact ⟨rfl, rfl, rfl, rfl⟩
  · cases made

end Admin

namespace Http

/-- **Two requests differ at most in the credential**, which is the first field of each. -/
structure Request.SameButCredential (token token' : String) (a b : Request) : Prop where
  method_eq : a.method = b.method
  url_eq : a.url = b.url
  body_eq : a.body = b.body
  fields_eq : ∃ credential credential' others,
    bearer? token = some credential ∧ bearer? token' = some credential' ∧
      a.fields = ("authorization", credential) :: others ∧
        b.fields = ("authorization", credential') :: others

theorem Request.SameButCredential.withField_eq {token token' : String} {a b : Request}
    (alike : a.SameButCredential token token' b) (credential : HeaderValue) :
    a.withField "authorization" credential = b.withField "authorization" credential := by
  obtain ⟨method, url, body, ⟨own, own', others, -, -, fields, fields'⟩⟩ := alike
  unfold Request.withField
  rw [fields, fields', method, url, body]
  rfl

end Http

namespace Provider

open RealmKeeper.Http RealmKeeper.Admin RealmKeeper.Registration RealmKeeper.Client

variable {c : AdminClient} {secret secret' token token' : String} {watch : Watch} {w v : World}
  {α β : Type}

theorem interchangeable_sameButSecret (c : AdminClient) (secret secret' : String) :
    Interchangeable (SameButSecret c secret secret') where
  refl := .same
  url_eq := by
    rintro a b (_ | ⟨asks, asks'⟩)
    · rfl
    · exact asks.url_eq.trans asks'.url_eq.symm

/-! ### Administrative operations -/

section Administrative

theorem tokenRequest_twins (c : AdminClient) (secret secret' : String) :
    (∃ cause, (c.withSecret secret).tokenRequest = .error cause ∧
        (c.withSecret secret').tokenRequest = .error cause) ∨
      ∃ a b, (c.withSecret secret).tokenRequest = .ok a ∧
        (c.withSecret secret').tokenRequest = .ok b ∧ SameButSecret c secret secret' a b := by
  have scheme : ∀ other : String, (c.withSecret other).baseUrl.isHttp = c.baseUrl.isHttp :=
    fun _ => rfl
  cases http : c.baseUrl.isHttp with
  | false =>
    exact .inl ⟨_, tokenRequest_of_not_http ((scheme secret).trans http),
      tokenRequest_of_not_http ((scheme secret').trans http)⟩
  | true =>
    obtain ⟨a, ha⟩ := exists_tokenRequest ((scheme secret).trans http)
    obtain ⟨b, hb⟩ := exists_tokenRequest ((scheme secret').trans http)
    exact .inr ⟨a, b, ha, hb, .token (isTokenRequest_of_eq_ok ha) (isTokenRequest_of_eq_ok hb)⟩

theorem fetchToken_twins : Twins (SameButSecret c secret secret')
    ((c.withSecret secret).fetchToken watch) ((c.withSecret secret').fetchToken watch) := by
  refine Twins.andThen ?_ fun issued => .refl _
  rcases tokenRequest_twins c secret secret' with ⟨cause, ha, hb⟩ | ⟨a, b, ha, hb, related⟩
  · rw [ha, hb]
    exact .refl _
  · rw [ha, hb]
    refine .send related fun reply => ?_
    cases reply <;> exact .done _

theorem accessToken_twins : Twins (SameButSecret c secret secret')
    ((c.withSecret secret).accessToken watch) ((c.withSecret secret').accessToken watch) := by
  have current : Twins (SameButSecret c secret secret')
      ((c.withSecret secret).currentToken watch) ((c.withSecret secret').currentToken watch) := by
    refine .ask .stored fun kept => ?_
    cases kept with
    | none => exact fetchToken_twins
    | some token =>
      refine .ask .now fun now => ?_
      show Twins _ (ite (token.isUsableAt now = true) _ _) (ite (token.isUsableAt now = true) _ _)
      split
      · exact .done _
      · exact fetchToken_twins
  refine .ask (.turn watch) fun given => ?_
  cases given with
  | false => exact .done _
  | true => exact current.bind fun outcome => .refl _

theorem authorizedExchange_twins (operation : String) (request : String → AdminClient.Prepared)
    (take : Response → Except AdminError α) : Twins (SameButSecret c secret secret')
    ((c.withSecret secret).authorizedExchange watch operation request take)
    ((c.withSecret secret').authorizedExchange watch operation request take) :=
  accessToken_twins.andThen fun _ => .refl _

theorem refreshToken_twins (clientId : String) : Twins (SameButSecret c secret secret')
    ((c.withSecret secret).refreshToken watch clientId)
    ((c.withSecret secret').refreshToken watch clientId) :=
  (authorizedExchange_twins _ _ _).andThen fun _ => authorizedExchange_twins _ _ _

/-- **Administrative operations are twins**, whatever the secret. -/
theorem action_twins (watch : Watch) (action : Action) : Twins (SameButSecret c secret secret')
    (action.dialog (c.withSecret secret) watch) (action.dialog (c.withSecret secret') watch) := by
  cases action with
  | realmExists realm => exact authorizedExchange_twins _ _ _
  | tokenForRegistration => exact authorizedExchange_twins _ _ _
  | findClient clientId => exact authorizedExchange_twins _ _ _
  | refreshToken clientId => exact refreshToken_twins clientId

end Administrative

/-! ### Executions -/

section Executions

variable {a b : Request} {refresher refresher' : Option AdminClient}

/-- **Two requests of which each may be the first**: with a new credential they are the same. -/
structure ReplayAlike (a b : Request) : Prop where
  url_eq : a.url = b.url
  replayable_eq : a.replayable = b.replayable
  withField_eq : ∀ credential,
    a.withField "authorization" credential = b.withField "authorization" credential

theorem ReplayAlike.refl (a : Request) : ReplayAlike a a := ⟨rfl, rfl, fun _ => rfl⟩

theorem ReplayAlike.of_sameButCredential (alike : a.SameButCredential token token' b) :
    ReplayAlike a b := by
  refine ⟨alike.url_eq, ?_, alike.withField_eq⟩
  unfold Request.replayable
  rw [alike.body_eq]

theorem ReplayAlike.repeatWith_eq (alike : ReplayAlike a b) (fresh : String) :
    Renewal.repeatWith (R := AdminClient) a fresh = Renewal.repeatWith b fresh := by
  unfold Renewal.repeatWith
  rw [alike.replayable_eq]
  cases bearer? fresh with
  | none => rfl
  | some credential =>
    dsimp only
    rw [alike.withField_eq]

theorem ReplayAlike.afterRefresh_eq (alike : ReplayAlike a b) (first : Response)
    (answer : Option (Except AdminError String)) :
    Renewal.afterRefresh (R := AdminClient) a first answer =
      Renewal.afterRefresh b first answer := by
  match answer with
  | none => rfl
  | some (.error cause) => rfl
  | some (.ok fresh) => exact alike.repeatWith_eq fresh

/-- What a reply is, as the outcome of an execution. -/
def outcomeOf : Reply → Except TransportError Response
  | .answered response => .ok response
  | .failed cause => .error (.request cause)
  | .cancelled => .error .cancelled

theorem executeOnce_eq (request : Request) :
    executeOnce request =
      .ask (Admin.Question.send (finished request)) fun reply => .done (outcomeOf reply) := by
  unfold executeOnce
  refine congrArg (Dialog.ask (Admin.Question.send (finished request))) (funext fun reply => ?_)
  cases reply <;> rfl

/-- **An execution begins with its request**, and goes on alike whatever the secret is. -/
theorem execute_begins (context : Context) (renews : Bool) (alike : ReplayAlike a b)
    (h : refresher = if renews then some (c.withSecret secret) else none)
    (h' : refresher' = if renews then some (c.withSecret secret') else none) :
    ∃ next next' : Except TransportError Response →
        Dialog Admin.Answer (Except TransportError Response),
      (Renewal.execute refresher context a).through renewalAnswer = executeOnce a >>= next ∧
        (Renewal.execute refresher' context b).through renewalAnswer = executeOnce b >>= next' ∧
        ∀ outcome, Twins (SameButSecret c secret secret') (next outcome) (next' outcome) := by
  by_cases somebody : renews = true ∧ ∃ clientId, context.Names clientId
  · obtain ⟨rfl, clientId, named⟩ := somebody
    rw [h, h', if_pos rfl, if_pos rfl, Renewal.execute_of_names a named,
      Renewal.execute_of_names b named]
    refine ⟨_, _, rfl, rfl, fun outcome => ?_⟩
    cases outcome with
    | error cause => exact .done _
    | ok first =>
      by_cases status : first.status = 401
      · rw [Renewal.afterFirst_of_refused status, Renewal.afterFirst_of_refused status]
        refine Twins.bind ((refreshToken_twins clientId).bind fun _ => .done _) fun answer => ?_
        rw [alike.afterRefresh_eq]
        exact .refl _
      · rw [Renewal.afterFirst_of_other status, Renewal.afterFirst_of_other status]
        exact .done _
  · have nobody : ∀ other : String,
        (if renews then some (c.withSecret other) else none) = none ∨
          ∀ clientId, ¬ context.Names clientId := by
      intro other
      cases renews with
      | false => exact .inl rfl
      | true => exact .inr fun clientId named => somebody ⟨rfl, clientId, named⟩
    rw [h, h', Renewal.execute_of_nobody a (nobody secret), Renewal.execute_of_nobody b
      (nobody secret')]
    exact ⟨.done, .done, rfl, rfl, fun outcome => .done outcome⟩

theorem executeOnce_runsAlike {R : Request → Request → Prop} (hR : Interchangeable R)
    {next next' : Except TransportError Response → Dialog Admin.Answer α} (url : a.url = b.url)
    (rest : ∀ outcome, Twins R (next outcome) (next' outcome)) (like : w.Like v) :
    RunsAlike (MirrorsAfter R a b) w v (executeOnce a >>= next) (executeOnce b >>= next') := by
  rw [executeOnce_eq, executeOnce_eq]
  unfold finished
  rw [← url]
  by_cases http : a.url.isHttp = true
  · rw [if_pos http, if_pos http]
    exact runsAlike_send like url fun reply w v like => (rest (outcomeOf reply)).runsAlike hR like
  · rw [if_neg http, if_neg http]
    have twins : Twins R
        (.ask (.send (.error (.scheme (some a.url)))) fun reply => next (outcomeOf reply))
        (.ask (.send (.error (.scheme (some a.url)))) fun reply => next' (outcomeOf reply)) :=
      .ask _ fun reply => rest (outcomeOf reply)
    exact (twins.runsAlike hR like).imp fun _ _ => .rest

end Executions

/-! ### Sessions -/

/-- **What is done with the provider**; to read, to change and to delete a registration presents a
token besides. -/
inductive Task where
  | administer (action : Action) (watch : Watch)
  | register (context : Context) (endpoint : String) (metadata : ClientMetadata)
  | read (context : Context) (clientId registrationUri : String)
  | update (context : Context) (clientId registrationUri : String) (metadata : ClientMetadata)
  | delete (context : Context) (clientId registrationUri : String)

/-- The task presents a registration access token. -/
def Task.presents : Task → Bool
  | .administer _ _ | .register _ _ _ => false
  | .read _ _ _ | .update _ _ _ _ | .delete _ _ _ => true

/-- **What comes of a task**: a value, or the error with all that it says. -/
inductive Gain where
  | existence (result : Except AdminError Bool)
  | token (result : Except AdminError String)
  | client (result : Except AdminError ClientEntry)
  | information (result : Except RegistrationError ClientInformation)
  | deletion (result : Except RegistrationError Unit)

/-- What comes of an administrative operation. -/
def Action.gain : (action : Action) → Except AdminError action.Value → Gain
  | .realmExists _ => .existence
  | .tokenForRegistration => .token
  | .findClient _ => .client
  | .refreshToken _ => .token

/-- **The engine**: an administrative client, from which initial access tokens may be had, and which
may renew registration access tokens. -/
structure Engine where
  admin : AdminClient
  issues : Bool
  renews : Bool

namespace Engine

def withSecret (e : Engine) (secret : String) : Engine :=
  { e with admin := e.admin.withSecret secret }

/-- Where initial access tokens come from. -/
def source (e : Engine) : Option AdminClient := if e.issues then some e.admin else none

/-- Who renews registration access tokens. -/
def refresher (e : Engine) : Option AdminClient := if e.renews then some e.admin else none

/-- **The dialogue of a task.** -/
def dialog (e : Engine) (token : String) : Task → Dialog Admin.Answer Gain
  | .administer action watch => (action.dialog e.admin watch).bind fun r => .done (action.gain r)
  | .register context endpoint metadata =>
    (registering e.refresher (Registration.register e.source context endpoint metadata)).bind
      fun r => .done (.information r)
  | .read context clientId registrationUri =>
    (registering e.refresher (Registration.read context clientId registrationUri token)).bind
      fun r => .done (.information r)
  | .update context clientId registrationUri metadata =>
    (registering e.refresher
      (Registration.update context clientId registrationUri token metadata)).bind
        fun r => .done (.information r)
  | .delete context clientId registrationUri =>
    (registering e.refresher (Registration.delete context clientId registrationUri token)).bind
      fun r => .done (.deletion r)

end Engine

/-- **An errand**: a task some nanoseconds after the one before it, and the token that is presented.
It has a context of its own, cancelled or not, or that of the errand before it. -/
structure Errand where
  task : Task
  token : String
  delay : Nat
  cancelled : Option Bool

/-- The world in which an errand begins. -/
def Errand.start (errand : Errand) (w : World) : World :=
  { w.wait errand.delay with cancelled := errand.cancelled.getD w.cancelled }

/-- **What there is to see of an errand**: what is said to the provider, and what comes of it. -/
structure Record where
  errand : Errand
  contacts : List Contact
  gain : Gain

namespace Engine

/-- **A session**: errands one after another. -/
def records (e : Engine) : List Errand → World → List Record
  | [], _ => []
  | errand :: rest, w =>
    let d := e.dialog errand.token errand.task
    ⟨errand, (errand.start w).contacts d, ((errand.start w).perform d).1⟩ ::
      e.records rest ((errand.start w).perform d).2

/-- The world after a session. -/
def afterErrands (e : Engine) : List Errand → World → World
  | [], w => w
  | errand :: rest, w =>
    e.afterErrands rest ((errand.start w).perform (e.dialog errand.token errand.task)).2

end Engine

/-! ### Two sessions -/

/-- **Two errands differ in their tokens only**, both of which a header field can hold. -/
structure Errand.SameButToken (errand errand' : Errand) : Prop where
  task_eq : errand.task = errand'.task
  delay_eq : errand.delay = errand'.delay
  cancelled_eq : errand.cancelled = errand'.cancelled
  legal : ∃ credential, bearer? errand.token = some credential
  legal' : ∃ credential, bearer? errand'.token = some credential

/-- **What is said in two errands is the same but for the secrets**: the secret in the form of a
request for an admin token, and the credential of the first request where the task presents a
token. -/
inductive SaysAlike (c : AdminClient) (secret secret' : String) (presents : Bool)
    (token token' : String) : List Contact → List Contact → Prop
  | plain {cs cs' : List Contact}
      (mirrors : List.Forall₂ (Contact.Mirrors (SameButSecret c secret secret')) cs cs') :
      SaysAlike c secret secret' presents token token' cs cs'
  | presenting {a b : Request} {cs cs' : List Contact} (presenting : presents = true)
      (own : a.SameButCredential token token' b)
      (mirrors : MirrorsAfter (SameButSecret c secret secret') a b cs cs') :
      SaysAlike c secret secret' presents token token' cs cs'

/-- **Two errands are alike**: the same comes of them, and the same is said but for the secrets. -/
structure Record.Alike (c : AdminClient) (secret secret' : String) (r r' : Record) : Prop where
  gain_eq : r.gain = r'.gain
  contacts : SaysAlike c secret secret' r.errand.task.presents r.errand.token r'.errand.token
    r.contacts r'.contacts

section Sessions

variable {e : Engine}

theorem registrationRequest_alike (operation : Operation) (registrationUri : String)
    (document : Option Json) (legal : ∃ credential, bearer? token = some credential)
    (legal' : ∃ credential, bearer? token' = some credential) :
    (∃ cause, registrationRequest operation registrationUri token document = .error cause ∧
        registrationRequest operation registrationUri token' document = .error cause) ∨
      ∃ a b, registrationRequest operation registrationUri token document = .ok a ∧
        registrationRequest operation registrationUri token' document = .ok b ∧
          a.SameButCredential token token' b := by
  obtain ⟨credential, legal⟩ := legal
  obtain ⟨credential', legal'⟩ := legal'
  unfold registrationRequest
  cases registrationUrl operation registrationUri with
  | error cause => exact .inl ⟨cause, rfl, rfl⟩
  | ok url =>
    refine .inr ?_
    unfold Except.bind buildRequest
    rw [legal, legal']
    cases document with
    | none => exact ⟨_, _, rfl, rfl, rfl, rfl, rfl, _, _, _, legal, legal', rfl, rfl⟩
    | some document => exact ⟨_, _, rfl, rfl, rfl, rfl, rfl, _, _, _, legal, legal', rfl, rfl⟩

theorem onRegistration_begins {refresher : Option AdminClient} {context : Context} {a : Request}
    {next : Except TransportError Response → Dialog Admin.Answer (Except TransportError Response)}
    (clientId : String) (finish : Except TransportError Response → Except RegistrationError α)
    (gain : Except RegistrationError α → Gain)
    (begins : (Renewal.execute refresher (context.forClient clientId) a).through renewalAnswer =
      executeOnce a >>= next) :
    (registering refresher (onRegistration context clientId finish (.ok a))).bind
        (fun r => .done (gain r)) =
      executeOnce a >>= fun outcome => next outcome >>= fun last => .done (gain (finish last)) := by
  show ((Renewal.execute refresher (context.forClient clientId) a).through renewalAnswer >>=
    fun last => .done (finish last)) >>= (fun r => .done (gain r)) = _
  rw [begins, Dialog.bind_assoc', Dialog.bind_assoc']
  rfl

theorem onRegistration_runsAlike (operation : Operation) (context : Context)
    (clientId registrationUri : String) (document : Option Json)
    (finish : Except TransportError Response → Except RegistrationError α)
    (gain : Except RegistrationError α → Gain)
    (legal : ∃ credential, bearer? token = some credential)
    (legal' : ∃ credential, bearer? token' = some credential) (like : w.Like v) :
    RunsAlike (SaysAlike e.admin secret secret' true token token') w v
      ((registering (e.withSecret secret).refresher (onRegistration context clientId finish
        (registrationRequest operation registrationUri token document))).bind
          fun r => .done (gain r))
      ((registering (e.withSecret secret').refresher (onRegistration context clientId finish
        (registrationRequest operation registrationUri token' document))).bind
          fun r => .done (gain r)) := by
  rcases registrationRequest_alike operation registrationUri document legal legal' with
    ⟨cause, ha, hb⟩ | ⟨a, b, ha, hb, own⟩
  · rw [ha, hb]
    exact ⟨rfl, like, .plain .nil⟩
  · obtain ⟨next, next', begins, begins', rest⟩ :=
      execute_begins (context.forClient clientId) e.renews (.of_sameButCredential own)
        (rfl : (e.withSecret secret).refresher = _)
        (rfl : (e.withSecret secret').refresher = _)
    rw [ha, hb, onRegistration_begins clientId finish gain begins,
      onRegistration_begins clientId finish gain begins']
    have alike := executeOnce_runsAlike (interchangeable_sameButSecret e.admin secret secret')
      own.url_eq (fun outcome => (rest outcome).bind fun last => .done (gain (finish last))) like
    exact alike.imp fun _ _ mirrors => .presenting rfl own mirrors

theorem execute_twins (context : Context) (request : Request) :
    Twins (SameButSecret e.admin secret secret')
      ((Renewal.execute (e.withSecret secret).refresher context request).through renewalAnswer)
      ((Renewal.execute (e.withSecret secret').refresher context request).through
        renewalAnswer) := by
  obtain ⟨next, next', begins, begins', rest⟩ :=
    execute_begins context e.renews (.refl request)
      (rfl : (e.withSecret secret).refresher = _) (rfl : (e.withSecret secret').refresher = _)
  rw [begins, begins']
  exact (Twins.refl _).bind rest

theorem afterToken_twins (context : Context) (url : Url) (metadata : ClientMetadata)
    (outcome : Except AdminError String) :
    Twins (SameButSecret e.admin secret secret')
      (afterToken (e.withSecret secret).refresher context url metadata outcome)
      (afterToken (e.withSecret secret').refresher context url metadata outcome) := by
  cases outcome with
  | error cause => exact .done _
  | ok token =>
    unfold afterToken
    dsimp only
    cases buildRequest .register url token (some metadata.toJson) with
    | error cause => exact .done _
    | ok request => exact (execute_twins context.anonymous request).bind fun _ => .done _

theorem register_twins (context : Context) (endpoint : String) (metadata : ClientMetadata) :
    Twins (SameButSecret e.admin secret secret')
      (registering (e.withSecret secret).refresher
        (register (e.withSecret secret).source context endpoint metadata))
      (registering (e.withSecret secret').refresher
        (register (e.withSecret secret').source context endpoint metadata)) := by
  have source : ∀ other : String, (e.withSecret other).source =
      if e.issues then some (e.admin.withSecret other) else none := fun _ => rfl
  rw [source, source]
  cases e.issues with
  | false => exact .done _
  | true =>
    rw [if_pos rfl, if_pos rfl]
    cases parsed : Url.ofString endpoint with
    | error cause =>
      have unparsed : parseEndpoint .register endpoint =
          .error (.invalidEndpoint .register endpoint cause) := by rw [parseEndpoint, parsed]; rfl
      unfold register
      rw [unparsed]
      exact .done _
    | ok url =>
      rw [registering_register _ _ _ _ _ parsed, registering_register _ _ _ _ _ parsed]
      exact (authorizedExchange_twins _ _ _).bind fun _ => afterToken_twins _ _ _ _

/-- **Every task runs alike** with one secret or the other, and with one token or the other. -/
theorem dialog_runsAlike (task : Task) (legal : ∃ credential, bearer? token = some credential)
    (legal' : ∃ credential, bearer? token' = some credential) (like : w.Like v) :
    RunsAlike (SaysAlike e.admin secret secret' task.presents token token') w v
      ((e.withSecret secret).dialog token task) ((e.withSecret secret').dialog token' task) := by
  have hR := interchangeable_sameButSecret e.admin secret secret'
  cases task with
  | administer action watch =>
    have twins : Twins (SameButSecret e.admin secret secret') _ _ :=
      (action_twins watch action).bind fun r => .done (action.gain r)
    exact (twins.runsAlike hR like).imp fun _ _ => .plain
  | register context endpoint metadata =>
    have twins : Twins (SameButSecret e.admin secret secret') _ _ :=
      (register_twins context endpoint metadata).bind fun r => .done (Gain.information r)
    exact (twins.runsAlike hR like).imp fun _ _ => .plain
  | read context clientId registrationUri =>
    rw [Engine.dialog, Engine.dialog, read_eq_onRegistration, read_eq_onRegistration]
    exact onRegistration_runsAlike _ _ _ _ _ _ _ legal legal' like
  | update context clientId registrationUri metadata =>
    rw [Engine.dialog, Engine.dialog, update_eq_onRegistration, update_eq_onRegistration]
    exact onRegistration_runsAlike _ _ _ _ _ _ _ legal legal' like
  | delete context clientId registrationUri =>
    rw [Engine.dialog, Engine.dialog, delete_eq_onRegistration, delete_eq_onRegistration]
    exact onRegistration_runsAlike _ _ _ _ _ _ _ legal legal' like

theorem Errand.SameButToken.start_like {errand errand' : Errand}
    (alike : errand.SameButToken errand') (like : w.Like v) :
    (errand.start w).Like (errand'.start v) := by
  obtain ⟨sent, rfl⟩ := like
  refine ⟨sent, ?_⟩
  unfold Errand.start World.wait
  rw [alike.delay_eq, alike.cancelled_eq]

/-- **Sessions run alike** from worlds that are alike. -/
theorem records_alike {errands errands' : List Errand}
    (alike : List.Forall₂ Errand.SameButToken errands errands') (like : w.Like v) :
    List.Forall₂ (Record.Alike e.admin secret secret') ((e.withSecret secret).records errands w)
        ((e.withSecret secret').records errands' v) ∧
      ((e.withSecret secret).afterErrands errands w).Like
        ((e.withSecret secret').afterErrands errands' v) := by
  induction alike generalizing w v with
  | nil => exact ⟨.nil, like⟩
  | @cons errand errand' _ _ first _ ih =>
    have alike : RunsAlike _ _ _ ((e.withSecret secret).dialog errand.token errand.task)
        ((e.withSecret secret').dialog errand'.token errand.task) :=
      dialog_runsAlike errand.task first.legal first.legal' (first.start_like like)
    obtain ⟨records, last⟩ := ih alike.after
    unfold Engine.records Engine.afterErrands
    rw [← first.task_eq]
    exact ⟨.cons ⟨alike.result, alike.contacts⟩ records, last⟩

end Sessions

/-! ### What reaches the provider -/

theorem World.agent_perform (w : World) (d : Dialog Admin.Answer α) :
    (w.perform d).2.agent = w.agent := by
  induction d generalizing w with
  | done a => rfl
  | ask q next ih => rw [perform_ask, ih, agent_answer]

theorem Engine.sent_afterErrands (e : Engine) (errands : List Errand) (w : World) :
    (e.afterErrands errands w).sent =
      w.sent ++ ((e.records errands w).flatMap Record.contacts).filterMap w.arrived := by
  induction errands generalizing w with
  | nil => simp [afterErrands, records]
  | cons errand rest ih =>
    have agent : ((errand.start w).perform (e.dialog errand.token errand.task)).2.agent = w.agent :=
      World.agent_perform _ _
    have start : (errand.start w).arrived = w.arrived := World.arrived_congr rfl
    rw [afterErrands, ih, World.arrived_congr agent, World.sent_perform, start, records,
      List.flatMap_cons, List.filterMap_append, List.append_assoc]
    rfl

/-- **Secrets stay where they belong.** Two sessions in one world, which differ in the secret of the
administrative client and in the registration access tokens that are presented, have the same
results, and leave worlds that differ in nothing but what was sent. What was sent is the same but
for the secret in the requests for an admin token and for the credential in the first request of an
errand that presents a token. -/
theorem secrets_stay (e : Engine) (secret secret' : String) {errands errands' : List Errand}
    (alike : List.Forall₂ Errand.SameButToken errands errands') (w : World) :
    List.Forall₂ (Record.Alike e.admin secret secret') ((e.withSecret secret).records errands w)
        ((e.withSecret secret').records errands' w) ∧
      ((e.withSecret secret).afterErrands errands w).Like
        ((e.withSecret secret').afterErrands errands' w) ∧
      ((e.withSecret secret).afterErrands errands w).sent = w.sent ++
        (((e.withSecret secret).records errands w).flatMap Record.contacts).filterMap w.arrived ∧
      ((e.withSecret secret').afterErrands errands' w).sent = w.sent ++
        (((e.withSecret secret').records errands' w).flatMap Record.contacts).filterMap
          w.arrived := by
  have like : w.Like w := ⟨w.sent, rfl⟩
  exact ⟨(records_alike alike like).1, (records_alike alike like).2,
    Engine.sent_afterErrands _ _ _, Engine.sent_afterErrands _ _ _⟩

/-- Reads a registration with a token. -/
def readingWith (token : String) : Errand :=
  ⟨.read (.ofDomain ⟨[]⟩) "c" "http://idp.test/c", token, 0, none⟩

/-- Two readings of a registration, with five requests each, are alike. -/
theorem secrets_stay_renewing :
    let e : Engine := ⟨localClient, true, true⟩
    ((e.withSecret "one").records [readingWith "t"] renewing).map
        (fun record => record.contacts.length) = [5] ∧
      List.Forall₂ (Record.Alike localClient "one" "two")
        ((e.withSecret "one").records [readingWith "t"] renewing)
        ((e.withSecret "two").records [readingWith "u"] renewing) := by
  intro e
  have alike : List.Forall₂ Errand.SameButToken [readingWith "t"] [readingWith "u"] :=
    .cons ⟨rfl, rfl, rfl, ⟨_, rfl⟩, ⟨_, rfl⟩⟩ .nil
  exact ⟨by decide +kernel, (secrets_stay e "one" "two" alike renewing).1⟩

end Provider

end RealmKeeper
