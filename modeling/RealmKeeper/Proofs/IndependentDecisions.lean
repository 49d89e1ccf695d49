import RealmKeeper.Proofs.Excerpts
import RealmKeeper.Proofs.RealmCreation
import RealmKeeper.Proofs.RealmLookup
import RealmKeeper.Server.Startup

/-!
# Decisions that do not depend on history

A server keeps its admin token from one review to the next. With a provider that always issues
tokens and tells the same of a realm each time, the kept token decides which requests are sent, and
never what is answered.

* `Directory` and `Steady`: what such a provider tells, and a contact in which it does;
* `Service.decision`: the answer to an inquiry, given by what the provider tells alone;
* `Ready`: the state between two reviews, which each of them keeps;
* `replies_eq_map_decision`: a server answers every inquiry with its decision, whatever came before
  it, and `decisions_are_independent`: inquiries that are alike have the same answer in any two runs
  of a server.
-/

namespace RealmKeeper

open RealmKeeper.Http RealmKeeper.Admin

namespace Provider

variable {c : AdminClient} {realm : String} {w v : World}

/-! ### What the provider tells -/

/-- **What a provider tells of the realms**: a status and a body for each URL. -/
structure Directory where
  status : Url → Nat
  body : Url → List UInt8

/-- What the directory answers at a URL. -/
def Directory.response (directory : Directory) (url : Url) : Response :=
  ⟨directory.status url, ⟨[.chunk (directory.body url)], true⟩⟩

/-- **A contact with a steady provider**: a request for an admin token is answered with one that can
be presented, and the lookup of a realm with what the directory tells. Meanwhile nothing is
cancelled. -/
structure Steady (c : AdminClient) (directory : Directory) (contact : Contact) : Prop where
  token : c.tokenRequest = .ok contact.request →
    ∃ response issued credential, contact.arrival = .reply response ∧ response.isSuccess = true ∧
      response.Holds IssuedToken.read issued ∧ bearer? issued.token = some credential
  lookup : ∀ realm token, c.realmRequest realm token = .ok contact.request →
    ∃ response, contact.arrival = .reply response ∧ .cancellation ∉ response.body.events ∧
      response.status = directory.status contact.request.url ∧
      response.body.octets = directory.body contact.request.url

/-- **What the directory tells of a realm.** With a base URL that is not one of HTTP nobody can be
asked. -/
def Directory.existence (directory : Directory) (c : AdminClient) (realm : String) :
    Except AdminError Bool :=
  if c.baseUrl.isHttp then
    AdminClient.existenceOf .atRequests (directory.response (c.realmEndpoint realm).withoutUser)
  else .error (.request AdminClient.tokenOperation (.scheme none))

/-- **Between two reviews** nothing is cancelled, and a token that is kept was issued over HTTP and
can be presented. -/
structure Ready (c : AdminClient) (w : World) : Prop where
  live : w.cancelled = false
  kept : ∀ token, w.token = some token →
    c.baseUrl.isHttp = true ∧ ∃ credential, bearer? token.value = some credential

/-! ### Requests that can be made -/

theorem exists_realmRequest (realm : String) {token : String} {credential : HeaderValue}
    (http : c.baseUrl.isHttp = true) (legal : bearer? token = some credential) :
    ∃ request, c.realmRequest realm token = .ok request ∧
      request.url = (c.realmEndpoint realm).withoutUser := by
  obtain ⟨request, made⟩ : ∃ request, c.realmRequest realm token = .ok request := by
    have scheme : (c.realmEndpoint realm).isHttp = true := (isHttp_endpoint c _).trans http
    unfold AdminClient.realmRequest AdminClient.authorized AdminClient.prepare
    rw [if_pos scheme, legal]
    exact ⟨_, rfl⟩
  exact ⟨request, made, (authorized_eq_ok_iff.mp made).url_eq⟩

/-! ### The lookup of a realm -/

section Lookup

variable {directory : Directory} {watch : Watch} {α : Type} {request : Request}
  {response : Response}

/-- After an answer without a cancellation the context is as it was before, and so is what is
kept. -/
theorem World.Sends.live_after (sends : w.Sends request (.reply response) v)
    (quiet : .cancellation ∉ response.body.events) : v.cancelled = false ∧ v.token = w.token := by
  obtain ⟨live, arrives, rfl⟩ := sends
  have silent : response.body.events.contains .cancellation = false := by
    rw [← Bool.not_eq_true, List.contains_iff_mem]
    exact quiet
  unfold World.after World.send
  rw [if_neg (by rw [live]; exact Bool.false_ne_true), arrives]
  show (ite (response.body.events.contains .cancellation = true) _ _ : World).cancelled = false ∧
    (ite (response.body.events.contains .cancellation = true) _ _ : World).token = w.token
  rw [silent]
  exact ⟨live, rfl⟩

/-- **A steady provider gives every lookup a token**, one that can be presented. -/
theorem Ready.exists_obtains (ready : Ready c w) (http : c.baseUrl.isHttp = true)
    (steady : ∀ contact ∈ w.contacts (c.realmExists .atRequests realm),
      Steady c directory contact) :
    ∃ here token v credential, Obtains c w here token v ∧ bearer? token = some credential ∧
      Ready c v := by
  rcases w.usable_or_without with ⟨token, stored, usable⟩ | without
  · obtain ⟨-, credential, legal⟩ := ready.kept token stored
    exact ⟨[], token.value, w, credential, .kept stored usable, legal, ready⟩
  · obtain ⟨request, prepared⟩ := exists_tokenRequest http
    have contact := steady _ (asks_of_without without ready.live prepared)
    obtain ⟨response, issued, credential, arrives, success, holds, legal⟩ :=
      contact.token prepared
    have sends : w.Sends request (.reply response) (w.after request) :=
      ⟨ready.live, arrives, rfl⟩
    refine ⟨_, issued.token, _, credential, .issued without prepared sends success holds, legal,
      (sends.live_after holds.2.1).1, ?_⟩
    rintro token stored
    obtain rfl := Option.some.inj stored
    exact ⟨http, credential, legal⟩

theorem existenceOf_congr {response response' : Response}
    (status : response.status = response'.status)
    (octets : response.body.octets = response'.body.octets) :
    AdminClient.existenceOf .atRequests response =
      AdminClient.existenceOf .atRequests response' := by
  unfold AdminClient.existenceOf unexpected
  rw [status, Delivery.excerpt_congr octets]

/-- **The lookup of a realm gives what the directory tells of it**, whatever token is kept. -/
theorem Ready.realmExists (ready : Ready c w)
    (steady : ∀ contact ∈ w.contacts (c.realmExists .atRequests realm),
      Steady c directory contact) :
    ∃ v, w.perform (c.realmExists .atRequests realm) = (directory.existence c realm, v) ∧
      Ready c v := by
  cases http : c.baseUrl.isHttp with
  | false =>
    -- No token can have been issued, and none can be asked for.
    have without : w.IsWithoutToken := by
      intro token stored
      have legal := (ready.kept token stored).1
      rw [http] at legal
      cases legal
    have asking : w.Runs (c.fetchToken .atRequests) []
        (.error (.request AdminClient.tokenOperation (.scheme none))) w := by
      unfold AdminClient.fetchToken
      rw [tokenRequest_of_not_http http]
      exact World.Runs.andThen_error
        (World.Runs.ask_silent (World.send_of_error ready.live) rfl (World.runs_done _ _))
    have search := accessToken_of_currentToken (fun _ => ready.live)
      (currentToken_of_without without asking)
    rw [Directory.existence, http]
    exact ⟨w, search.andThen_error.performs, ready⟩
  | true =>
    obtain ⟨here, token, v, credential, obtains, legal, ready'⟩ := ready.exists_obtains http steady
    obtain ⟨request, prepared, url⟩ := exists_realmRequest realm http legal
    have sends : v.Sends request v.next.arrival (v.after request) := ⟨ready'.live, rfl, rfl⟩
    have runs : w.Runs (c.realmExists .atRequests realm) (here ++ [⟨request, v.next.arrival⟩])
        (taken AdminClient.lookupOperation request (AdminClient.existenceOf .atRequests)
          v.next.arrival) (v.after request) :=
      obtains.exchange_runs (fun _ => ready.live) prepared sends _
    have contact := steady ⟨request, v.next.arrival⟩ (by
      rw [runs.contacts_eq]
      exact List.mem_append_right _ (List.mem_singleton_self _))
    obtain ⟨response, arrives, quiet, status, octets⟩ := contact.lookup realm token prepared
    rw [show v.next.arrival = .reply response from arrives] at sends runs
    obtain ⟨live, kept⟩ := sends.live_after quiet
    refine ⟨v.after request, ?_, live, kept ▸ ready'.kept⟩
    rw [runs.performs, taken, Directory.existence, if_pos http, ← url]
    refine congrArg (·, v.after request) (existenceOf_congr status ?_)
    rw [octets]
    exact (List.append_nil _).symm

end Lookup

/-! ### Validations -/

/-- What the directory answers to the questions of a validation. -/
def Directory.answer (directory : Directory) (c : AdminClient) :
    (q : Admission.Question) → Id (Admission.Answer q)
  | .realmExists realm => directory.existence c realm

/-- **A validation comes to what the directory makes of it.** -/
theorem Ready.admitting {directory : Directory} {α : Type} (ready : Ready c w)
    (d : Dialog Admission.Answer α)
    (steady : ∀ contact ∈ w.contacts (admitting c d), Steady c directory contact) :
    ∃ v, w.perform (admitting c d) = ((d.run (directory.answer c)).run, v) ∧ Ready c v := by
  induction d generalizing w with
  | done a => exact ⟨w, rfl, ready⟩
  | ask q next ih =>
    obtain ⟨realm⟩ := q
    let lookup : Dialog Admin.Answer (Except AdminError Bool) := c.realmExists .atRequests realm
    have goesOn : admitting c (.ask (.realmExists realm) next) =
        lookup >>= fun existence => admitting c (next existence) := rfl
    rw [goesOn, World.contacts_bind] at steady
    rw [goesOn, World.perform_bind]
    have steadyLookup : ∀ contact ∈ w.contacts lookup, Steady c directory contact :=
      fun contact hmem => steady contact (List.mem_append_left _ hmem)
    obtain ⟨u, told, ready'⟩ := ready.realmExists steadyLookup
    rw [show w.perform lookup = (directory.existence c realm, u) from told] at steady ⊢
    exact ih _ ready' fun contact hmem => steady contact (List.mem_append_right _ hmem)

/-! ### A test for contacts -/

theorem method_of_tokenRequest {request : Request} (made : c.tokenRequest = .ok request) :
    request.method = "POST" := by
  unfold AdminClient.tokenRequest AdminClient.prepare at made
  split at made
  · rw [← Except.ok.inj made]
  · cases made

/-- The contact is one with a steady provider. -/
def isSteady (directory : Directory) (contact : Contact) : Bool :=
  match contact.arrival with
  | .reply response =>
    !response.body.events.contains .cancellation &&
      if contact.request.method = "POST" then
        response.isSuccess && response.body.complete &&
          match Json.readBytes IssuedToken.read response.body.octets with
          | .ok issued => (bearer? issued.token).isSome
          | .error _ => false
      else
        response.status = directory.status contact.request.url &&
          response.body.octets = directory.body contact.request.url
  | _ => false

theorem steady_of_isSteady {directory : Directory} {contact : Contact}
    (h : isSteady directory contact = true) : Steady c directory contact := by
  obtain ⟨request, arrival⟩ := contact
  cases arrival with
  | reply response =>
    obtain ⟨quiet, h⟩ := Bool.and_eq_true_iff.mp h
    have quiet : .cancellation ∉ response.body.events := by simpa using quiet
    constructor
    · intro made
      rw [if_pos (method_of_tokenRequest made)] at h
      obtain ⟨h, issues⟩ := Bool.and_eq_true_iff.mp h
      obtain ⟨success, complete⟩ := Bool.and_eq_true_iff.mp h
      cases reads : Json.readBytes IssuedToken.read response.body.octets with
      | error refusal => rw [reads] at issues; cases issues
      | ok issued =>
        rw [reads] at issues
        obtain ⟨credential, legal⟩ := Option.isSome_iff_exists.mp issues
        exact ⟨response, issued, credential, rfl, success, ⟨complete, quiet, reads⟩, legal⟩
    · intro realm token made
      have method : request.method ≠ "POST" := by
        rw [(authorized_eq_ok_iff.mp made).method_eq]
        decide
      rw [if_neg method, Bool.and_eq_true_iff, decide_eq_true_iff, decide_eq_true_iff] at h
      exact ⟨response, rfl, quiet, h.1, h.2⟩
  | _ => cases h

end Provider

namespace Server

open RealmKeeper.Webhook RealmKeeper.Provider

variable {service : Service} {directory : Directory} {w v : World}

/-! ### Reviews one after another -/

/-- **An inquiry that reaches the server**, some nanoseconds after the one before it is answered. -/
structure Visit where
  delay : Nat
  inquiry : Inquiry

namespace Service

/-- The answers of the server to visits, one after another. -/
def replies (service : Service) : List Visit → World → List WebReply
  | [], _ => []
  | visit :: rest, w =>
    let answered := (w.wait visit.delay).perform (service.handle visit.inquiry)
    answered.1 :: service.replies rest answered.2

/-- What is said to the provider meanwhile. -/
def contacts (service : Service) : List Visit → World → List Contact
  | [], _ => []
  | visit :: rest, w =>
    (w.wait visit.delay).contacts (service.handle visit.inquiry) ++
      service.contacts rest ((w.wait visit.delay).perform (service.handle visit.inquiry)).2

/-- **The decision about an inquiry**, which is settled by what the directory tells. -/
def decision (service : Service) (directory : Directory) (inquiry : Inquiry) : WebReply :=
  ((Webhook.handle service.settings.denyList inquiry).run (directory.answer service.admin)).run

/-- **Every visit is answered with the decision about its inquiry.** -/
theorem replies_eq_map_decision (ready : Ready service.admin w) (visits : List Visit)
    (steady : ∀ contact ∈ service.contacts visits w, Steady service.admin directory contact) :
    service.replies visits w =
      visits.map fun visit => service.decision directory visit.inquiry := by
  induction visits generalizing w with
  | nil => rfl
  | cons visit rest ih =>
    rw [contacts] at steady
    have waiting : Ready service.admin (w.wait visit.delay) := ⟨ready.live, ready.kept⟩
    obtain ⟨u, answered, ready'⟩ := waiting.admitting _ fun contact hmem =>
      steady contact (List.mem_append_left _ hmem)
    have handled : (w.wait visit.delay).perform (service.handle visit.inquiry) =
        (service.decision directory visit.inquiry, u) := answered
    rw [handled] at steady
    rw [replies, handled, List.map_cons]
    exact congrArg _ (ih ready' fun contact hmem => steady contact (List.mem_append_right _ hmem))

end Service

/-- The server has just started: nothing is cancelled, and no token is kept. -/
structure IsFresh (w : World) : Prop where
  live : w.cancelled = false
  bare : w.token = none

theorem IsFresh.ready (fresh : IsFresh w) (c : AdminClient) : Ready c w :=
  ⟨fresh.live, fun token stored => by rw [fresh.bare] at stored; cases stored⟩

/-- **Decisions do not depend on what came before them.** With a provider that always issues admin
tokens and tells the same of a realm each time, a server answers each inquiry with its decision; so
in any two runs of a server, one of which may be about a single inquiry, inquiries that are alike
have the same answer, wherever they stand. -/
theorem decisions_are_independent (service : Service) (directory : Directory)
    {visits others : List Visit} (fresh : IsFresh w) (fresh' : IsFresh v)
    (steady : ∀ contact ∈ service.contacts visits w, Steady service.admin directory contact)
    (steady' : ∀ contact ∈ service.contacts others v, Steady service.admin directory contact) :
    (service.replies visits w =
      visits.map fun visit => service.decision directory visit.inquiry) ∧
    ∀ i j : Nat, visits[i]?.map Visit.inquiry = others[j]?.map Visit.inquiry →
      (service.replies visits w)[i]? = (service.replies others v)[j]? := by
  have decided := service.replies_eq_map_decision (fresh.ready _) visits steady
  have decided' := service.replies_eq_map_decision (fresh'.ready _) others steady'
  refine ⟨decided, fun i j alike => ?_⟩
  rw [decided, decided', List.getElem?_map, List.getElem?_map, ← Function.comp_def,
    ← Option.map_map, ← Option.map_map]
  exact congrArg _ alike

/-! ### Two runs -/

section Example

/-- The review of a realm that is to be created. -/
def creationOf (realm : String) : Inquiry where
  method := "POST"
  target := "/validate/realmconfigs"
  contentType := some HeaderValue.json
  body := Text.Utf8.bytes ("\x7b\"apiVersion\":\"v1\",\"kind\":\"R\"," ++
    "\"request\":\x7b\"uid\":\"u\",\"operation\":\"CREATE\"," ++
    "\"object\":\x7b\"spec\":\x7b\"realmName\":\"" ++ realm ++
    "\"\x7d\x7d\x7d\x7d")

/-- A server for the local provider. -/
def localService : Service where
  settings :=
    { certificateBundles := [], requestTimeout := default, port := 8443, userAgent := "registrar"
      baseUrl := localClient.baseUrl, realm := "org", adminRealm := "master"
      adminClientId := "registrar", adminClientSecret := "s3cret", denyList := []
      initialExpiration := default }
  admin := localClient
  agent := HeaderValue.json

/-- A directory with a single realm. -/
def singleRealm : Directory where
  status url := if url = (localClient.realmEndpoint "org").withoutUser then 200 else 404
  body _ := []

/-- The answer that issues the token with the given name for so many seconds. -/
def issue (token seconds : String) : Exchange :=
  ⟨.reply ⟨200, ⟨[.chunk (Text.Utf8.bytes ("\x7b\"access_token\":\"" ++ token ++
    "\",\"expires_in\":" ++ seconds ++ "\x7d"))], true⟩⟩, 1⟩

/-- The answer with a status and no body. -/
def status (status : Nat) : Exchange := ⟨.reply ⟨status, ⟨[], true⟩⟩, 1⟩

/-- A provider that issues a token for a minute, and then tells of two realms. -/
def tellingTwice : World := .start none [issue "t" "60", status 200, status 404] (status 404)

/-- A provider that issues a token which cannot be used again, and then tells of one realm. -/
def tellingOnce : World := .start none [issue "other" "0"] (status 404)

/-- The answer about a realm is the same after another review and alone. -/
theorem decisions_are_independent_second :
    let visits : List Visit := [⟨0, creationOf "org"⟩, ⟨5, creationOf "new"⟩]
    let others : List Visit := [⟨0, creationOf "new"⟩]
    (localService.contacts visits tellingTwice).length = 3 ∧
      (localService.contacts others tellingOnce).length = 2 ∧
      (localService.replies visits tellingTwice)[1]? =
        (localService.replies others tellingOnce)[0]? := by
  intro visits others
  have steady : ∀ contact ∈ localService.contacts visits tellingTwice,
      Steady localClient singleRealm contact := fun contact hmem =>
    steady_of_isSteady (List.all_eq_true.mp
      (by decide +kernel : (localService.contacts visits tellingTwice).all
        (isSteady singleRealm) = true) contact hmem)
  have steady' : ∀ contact ∈ localService.contacts others tellingOnce,
      Steady localClient singleRealm contact := fun contact hmem =>
    steady_of_isSteady (List.all_eq_true.mp
      (by decide +kernel : (localService.contacts others tellingOnce).all
        (isSteady singleRealm) = true) contact hmem)
  have alike : visits[1]?.map Visit.inquiry = others[0]?.map Visit.inquiry := by
    rw [List.getElem?_cons_succ, List.getElem?_cons_zero, List.getElem?_cons_zero]
    rfl
  have both := decisions_are_independent localService singleRealm ⟨rfl, rfl⟩ ⟨rfl, rfl⟩ steady
    steady'
  exact ⟨by decide +kernel, by decide +kernel, both.2 1 0 alike⟩

end Example

end Server

end RealmKeeper
