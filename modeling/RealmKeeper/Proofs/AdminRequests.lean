import RealmKeeper.Proofs.AdminToken

/-!
# Requests with an admin token

An operation of the administrative client whose own request has no body: what the request is, and
how far the operation comes with it.

* `IsAdministrative`: the request of such an operation, and `authorized_eq_ok_iff`, which says that
  there is no other; the request for an admin token can be made where the base URL is one of HTTP;
* `Attempts`: what may have been said when the operation ends anywhere;
* `Answered`: what has been said when the provider has answered its request;
* `asking_runs`: every operation attempts, and one that gives a value was answered.
-/

namespace RealmKeeper

/-- The URL without user name and password. -/
def Url.withoutUser (u : Url) : Url :=
  { u with username := [], password := none }

namespace Admin

open RealmKeeper.Http

/-- **A request with an admin token**, to a place of the administrative interface. A user name and a
password of the base URL are presented before the token. -/
structure IsAdministrative (method : String) (url : Url) (token : String) (request : Request) :
    Prop where
  http : url.isHttp = true
  method_eq : request.method = method
  url_eq : request.url = url.withoutUser
  fields_eq : ∃ credential, HeaderValue.ofString? ("Bearer " ++ token) = some credential ∧
    request.fields = AdminClient.basicField url ++
      [("authorization", credential), ("accept", HeaderValue.json)]
  body_eq : request.body = .none

theorem authorized_eq_ok {token method : String} {url : Url} {fields : List (String × HeaderValue)}
    {body : RequestBody} {request : Request}
    (h : AdminClient.authorized token method url fields body = .ok request) :
    url.isHttp = true ∧ ∃ credential, bearer? token = some credential ∧
      request = ⟨method, url.withoutUser, AdminClient.basicField url ++ fields ++
        [("authorization", credential), ("accept", HeaderValue.json)], body⟩ := by
  unfold AdminClient.authorized AdminClient.prepare at h
  by_cases http : url.isHttp = true
  swap
  · rw [if_neg http] at h
    cases h
  rw [if_pos http] at h
  cases legal : bearer? token with
  | none =>
    rw [legal] at h
    cases h
  | some credential =>
    rw [legal] at h
    exact ⟨http, credential, rfl, (Except.ok.inj h).symm⟩

/-- **The request with an admin token** is the one that is made. -/
theorem authorized_eq_ok_iff {token method : String} {url : Url} {request : Request} :
    AdminClient.authorized token method url [] .none = .ok request ↔
      IsAdministrative method url token request := by
  constructor
  · intro h
    obtain ⟨http, credential, legal, rfl⟩ := authorized_eq_ok h
    exact ⟨http, rfl, rfl, ⟨credential, legal, by simp⟩, rfl⟩
  · rintro ⟨http, rfl, hu, ⟨credential, legal, hf⟩, hb⟩
    have legal' : bearer? token = some credential := legal
    obtain ⟨method, url', fields, body⟩ := request
    obtain rfl : url' = url.withoutUser := hu
    obtain rfl : body = .none := hb
    obtain rfl : fields = _ := hf
    simp [AdminClient.authorized, AdminClient.prepare, http, legal', Url.withoutUser]

/-! ### The request for an admin token -/

section Token

variable {c : AdminClient}

theorem isHttp_endpoint (c : AdminClient) (texts : List String) :
    (c.endpoint texts).isHttp = c.baseUrl.isHttp := by
  have made : c.baseUrl.extendPath (texts.map String.toList) = some (c.endpoint texts) :=
    (Option.some_get _).symm
  unfold Url.extendPath at made
  split at made
  · rw [← Option.some.inj made]
    rfl
  · cases made

theorem exists_tokenRequest (http : c.baseUrl.isHttp = true) :
    ∃ request, c.tokenRequest = .ok request := by
  have scheme : c.tokenEndpoint.isHttp = true := (isHttp_endpoint c _).trans http
  unfold AdminClient.tokenRequest AdminClient.prepare
  rw [if_pos scheme]
  exact ⟨_, rfl⟩

theorem tokenRequest_of_not_http (other : c.baseUrl.isHttp = false) :
    c.tokenRequest = .error (.scheme none) := by
  have scheme : c.tokenEndpoint.isHttp = false := (isHttp_endpoint c _).trans other
  rw [AdminClient.tokenRequest, AdminClient.prepare, scheme]
  rfl

end Token

end Admin

namespace Provider

open RealmKeeper.Http RealmKeeper.Admin

variable {c : AdminClient} {watch : Watch} {method : String} {url : Url} {w v : World} {α : Type}

/-- **An operation with its answer**: an admin token is had, the request of the operation presents
it, and the provider answers. -/
inductive Answered (c : AdminClient) (method : String) (url : Url) (w : World) :
    List Contact → Response → World → Prop
  | intro {here : List Contact} {token : String} {request : Request} {response : Response}
      {middle after : World} (obtains : Obtains c w here token middle)
      (administrative : IsAdministrative method url token request)
      (sends : middle.Sends request (.reply response) after) :
      Answered c method url w (here ++ [⟨request, .reply response⟩]) response after

/-- **An operation as far as it comes**: it ends before its own request, or that request is sent,
whatever becomes of it. -/
inductive Attempts (c : AdminClient) (method : String) (url : Url) (w : World) :
    List Contact → Prop
  | early {here : List Contact} {after : World} (ends : EndsEarly c w here after) :
      Attempts c method url w here
  | own {here : List Contact} {token : String} {request : Request} {arrival : Arrival}
      {middle after : World} (obtains : Obtains c w here token middle)
      (administrative : IsAdministrative method url token request)
      (sends : middle.Sends request arrival after) :
      Attempts c method url w (here ++ [⟨request, arrival⟩])

/-- The operation with a request that has no body. -/
def asking (c : AdminClient) (watch : Watch) (operation method : String) (url : Url)
    (take : Response → Except AdminError α) : Admin.Operating α :=
  c.authorizedExchange watch operation (AdminClient.authorized · method url [] .none) take

theorem Answered.runs {here : List Contact} {response : Response}
    (h : Answered c method url w here response v) (admits : w.Admits watch) (operation : String)
    (take : Response → Except AdminError α) :
    w.Runs (asking c watch operation method url take) here (take response) v := by
  obtain ⟨obtains, administrative, sends⟩ := h
  exact obtains.exchange_runs admits (authorized_eq_ok_iff.mpr administrative) sends take

/-- **Every operation attempts its request**, and what it gives is taken from a response to it. -/
theorem asking_runs (c : AdminClient) (watch : Watch) (operation method : String) (url : Url)
    (take : Response → Except AdminError α) (w : World) :
    ∃ here result v, w.Runs (asking c watch operation method url take) here result v ∧
      Attempts c method url w here ∧
      ∀ value, result = .ok value →
        ∃ response, Answered c method url w here response v ∧ take response = .ok value := by
  rcases authorizedExchange_runs c watch operation (AdminClient.authorized · method url [] .none)
    take w with
    ⟨here, e, v, ends, h⟩ | ⟨here, token, v, own, arrival, u, obtains, prepared, sends, h⟩
  · exact ⟨here, _, v, h, .early ends, fun value hv => nomatch hv⟩
  · have administrative := authorized_eq_ok_iff.mp prepared
    refine ⟨_, _, u, h, .own obtains administrative sends, fun value hv => ?_⟩
    cases arrival with
    | reply response => exact ⟨response, .intro obtains administrative sends, hv⟩
    | _ => cases hv

end Provider

/-! ### A client and its provider -/

namespace Admin

/-- A client of a provider without anything before its paths. -/
def localClient : AdminClient where
  baseUrl := ⟨"http".toList, [], none, some (.domain "idp.test".toList), none, .segments [[]], none,
    none⟩
  hierarchical := rfl
  realm := "org"
  credentials := ⟨"master", "registrar", "s3cret"⟩
  initialExpiration := defaultInitialExpiration

end Admin

namespace Provider

/-- A response with a document as its body. -/
def documentResponse (text : String) : Http.Response :=
  ⟨200, ⟨[.chunk (Text.Utf8.bytes text)], true⟩⟩

end Provider

end RealmKeeper
