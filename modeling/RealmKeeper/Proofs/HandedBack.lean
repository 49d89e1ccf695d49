import RealmKeeper.Proofs.RegistrationRequests

/-!
# What the transport hands back

A request about a registration is sent, and once more with a renewed token where that is possible.
At the end there is one response that stands for the request, or there is none.

* `Delivers`: what comes back of a request;
* `HandsBack`: the rules about a request, its renewal and its repetition;
* `handsBack_iff`: an execution ends with the response of the rules, or with an error if they have
  none.
-/

namespace RealmKeeper.Provider

open RealmKeeper.Http RealmKeeper.Admin RealmKeeper.Registration

variable {refresher : Option AdminClient} {context : Context} {request : Request} {w v u : World}
  {result : Option Response}

/-! ### The rules -/

/-- The response of an arrival, if it is one. -/
def Arrival.response? : Arrival → Option Response
  | .reply response => some response
  | _ => none

/-- **What comes back of a request**: a response, or none. -/
inductive Delivers (request : Request) (w : World) : Option Response → World → Prop
  /-- It is not sent: the context is cancelled, or the URL is none of HTTP. -/
  | unsent (barred : w.cancelled = true ∨ request.url.isHttp = false) : Delivers request w none w
  | sent {arrival : Arrival} {after : World} (http : request.url.isHttp = true)
      (sends : w.Sends request arrival after) : Delivers request w arrival.response? after

/-- **A request is refused, and its token can be renewed**: there is somebody to renew it, the
context is for a client, and the response says that the request is not authorised. -/
structure IsRefused (refresher : Option AdminClient) (context : Context) (request : Request)
    (w : World) (renewer : AdminClient) (clientId : String) (first : Response) (after : World) :
    Prop where
  somebody : refresher = some renewer
  named : context.Names clientId
  delivers : Delivers request w (some first) after
  status : first.status = 401

/-- **The response that is handed back for a request**, if there is one. -/
inductive HandsBack (refresher : Option AdminClient) (context : Context) (request : Request)
    (w : World) : Option Response → Prop
  /-- Nobody renews tokens, or the context is for no client: what comes back is handed back. -/
  | plain {result : Option Response} {after : World}
      (nobody : refresher = none ∨ ∀ clientId, ¬ context.Names clientId)
      (delivers : Delivers request w result after) : HandsBack refresher context request w result
  /-- The request is not refused. -/
  | stands {renewer : AdminClient} {clientId : String} {result : Option Response} {after : World}
      (somebody : refresher = some renewer) (named : context.Names clientId)
      (delivers : Delivers request w result after)
      (other : ∀ response, result = some response → response.status ≠ 401) :
      HandsBack refresher context request w result
  /-- The renewal is cancelled. -/
  | cancelled {renewer : AdminClient} {clientId operation : String} {first : Response}
      {here : List Contact} {middle after : World}
      (refused : IsRefused refresher context request w renewer clientId first middle)
      (renewal : middle.Runs (renewer.refreshToken .everywhere clientId) here
        (.error (.cancelled operation)) after) : HandsBack refresher context request w none
  /-- The renewal fails in another way: the first response stands. -/
  | original {renewer : AdminClient} {clientId : String} {first : Response} {e : AdminError}
      {here : List Contact} {middle after : World}
      (refused : IsRefused refresher context request w renewer clientId first middle)
      (renewal : middle.Runs (renewer.refreshToken .everywhere clientId) here (.error e) after)
      (other : ∀ operation, e ≠ .cancelled operation) :
      HandsBack refresher context request w (some first)
  /-- The request cannot be repeated with the new token. -/
  | unusable {renewer : AdminClient} {clientId token : String} {first : Response}
      {here : List Contact} {middle after : World}
      (refused : IsRefused refresher context request w renewer clientId first middle)
      (renewal : middle.Runs (renewer.refreshToken .everywhere clientId) here (.ok token) after)
      (unfit : Renewal.IsStreamed request ∨ HeaderValue.ofString? ("Bearer " ++ token) = none) :
      HandsBack refresher context request w none
  /-- The request is repeated with the new token, and what comes back of that is handed back. -/
  | repeated {renewer : AdminClient} {clientId token : String} {credential : HeaderValue}
      {first : Response} {here : List Contact} {result : Option Response}
      {middle after last : World}
      (refused : IsRefused refresher context request w renewer clientId first middle)
      (renewal : middle.Runs (renewer.refreshToken .everywhere clientId) here (.ok token) after)
      (kept : ¬ Renewal.IsStreamed request)
      (legal : HeaderValue.ofString? ("Bearer " ++ token) = some credential)
      (delivers : Delivers (request.withField "authorization" credential) after result last) :
      HandsBack refresher context request w result

/-! ### One request -/

theorem exists_delivers (request : Request) (w : World) :
    ∃ result v, Delivers request w result v := by
  cases http : request.url.isHttp with
  | false => exact ⟨_, _, .unsent (.inr http)⟩
  | true =>
    cases live : w.cancelled with
    | true => exact ⟨_, _, .unsent (.inl live)⟩
    | false => exact ⟨_, _, .sent http ⟨live, rfl, rfl⟩⟩

theorem Delivers.performs (h : Delivers request w result v) :
    ∃ outcome, w.perform (executeOnce request) = (outcome, v) ∧ outcome.toOption = result := by
  cases h with
  | unsent barred =>
    rcases executeOnce_runs request w with ⟨-, e, runs⟩ | ⟨arrival, u, sends, -⟩
    · exact ⟨_, runs.performs, rfl⟩
    · have live := sends.live
      have other : request.url.isHttp = false := barred.resolve_left (by simp [live])
      refine ⟨.error (.request (.scheme (some request.url))), ?_, rfl⟩
      have hq : World.answer (.send (finished request)) w =
          (.failed (.scheme (some request.url)), w) := by
        rw [finished, if_neg (by simp [other])]
        exact World.send_of_error live
      rw [executeOnce, World.perform_ask, hq]
      rfl
  | @sent arrival _ http sends =>
    have prepared : finished request = .ok request := if_pos http
    refine ⟨received request arrival, ?_, by cases arrival <;> rfl⟩
    rw [executeOnce, prepared]
    refine (sends.runs ?_ : w.Runs _ [⟨request, arrival⟩] _ v).performs
    cases arrival <;> exact World.runs_done _ _

theorem Delivers.performs_some {response : Response} (h : Delivers request w (some response) v) :
    w.perform (executeOnce request) = (.ok response, v) := by
  obtain ⟨outcome, performs, ho⟩ := h.performs
  cases outcome with
  | error e => cases ho
  | ok r =>
    obtain rfl := Option.some.inj ho
    exact performs

/-! ### Executions -/

/-- **What an execution ends with**: its response, if it has one. -/
def ending (refresher : Option AdminClient) (context : Context) (request : Request) (w : World) :
    Option Response :=
  (w.perform ((Renewal.execute refresher context request).through renewalAnswer)).1.toOption

theorem Delivers.ending_eq (h : Delivers request w result v)
    (nobody : refresher = none ∨ ∀ clientId, ¬ context.Names clientId) :
    ending refresher context request w = result := by
  obtain ⟨outcome, performs, ho⟩ := h.performs
  unfold ending
  rw [Renewal.execute_of_nobody request nobody]
  show (w.perform (executeOnce request >>= Dialog.done)).1.toOption = result
  rw [Dialog.bind_done, performs]
  exact ho

theorem perform_through_ask {q : Renewal.Question AdminClient}
    {next : Renewal.Answer q → Dialog (Renewal.Answer (R := AdminClient)) Renewal.Outcome}
    {answer : Renewal.Answer q} (h : w.perform (renewalAnswer q) = (answer, v)) :
    w.perform ((Dialog.ask q next).through renewalAnswer) =
      v.perform ((next answer).through renewalAnswer) := by
  refine (World.perform_bind w (renewalAnswer q) _).trans ?_
  rw [h]
  rfl

theorem perform_execute_of_names {renewer : AdminClient} {clientId : String}
    {outcome : Except TransportError Response} (named : context.Names clientId)
    (h : w.perform (executeOnce request) = (outcome, v)) :
    w.perform ((Renewal.execute (some renewer) context request).through renewalAnswer) =
      v.perform ((Renewal.afterFirst renewer clientId request outcome).through renewalAnswer) := by
  rw [Renewal.execute_of_names request named]
  exact perform_through_ask h

theorem IsRefused.perform_eq {renewer : AdminClient} {clientId : String} {first : Response}
    {here : List Contact} {answer : Except AdminError String}
    (h : IsRefused refresher context request w renewer clientId first v)
    (renewal : v.Runs (renewer.refreshToken .everywhere clientId) here answer u) :
    w.perform ((Renewal.execute refresher context request).through renewalAnswer) =
      u.perform ((Renewal.afterRefresh request first (some answer)).through renewalAnswer) := by
  obtain ⟨rfl, named, delivers, status⟩ := h
  have answered : v.Runs (renewalAnswer (.refresh renewer clientId)) here (some answer) u :=
    renewal.bind_silent (World.runs_done _ u)
  rw [perform_execute_of_names named delivers.performs_some,
    Renewal.afterFirst_of_refused status]
  exact perform_through_ask answered.performs

theorem IsRefused.ending_eq {renewer : AdminClient} {clientId : String} {first : Response}
    {here : List Contact} {answer : Except AdminError String}
    (h : IsRefused refresher context request w renewer clientId first v)
    (renewal : v.Runs (renewer.refreshToken .everywhere clientId) here answer u) :
    ending refresher context request w =
      (u.perform ((Renewal.afterRefresh request first (some answer)).through
        renewalAnswer)).1.toOption := by
  unfold ending
  rw [h.perform_eq renewal]

theorem HandsBack.ending_eq (h : HandsBack refresher context request w result) :
    ending refresher context request w = result := by
  cases h with
  | plain nobody delivers => exact delivers.ending_eq nobody
  | stands somebody named delivers other =>
    obtain ⟨outcome, performs, rfl⟩ := delivers.performs
    subst somebody
    unfold ending
    rw [perform_execute_of_names named performs]
    cases outcome with
    | error e => rfl
    | ok response =>
      rw [Renewal.afterFirst_of_other (other response rfl)]
      rfl
  | cancelled refused renewal => rw [refused.ending_eq renewal]; rfl
  | original refused renewal other =>
    rw [refused.ending_eq renewal, Renewal.afterRefresh, Renewal.isCancelled_eq_false other]
    rfl
  | unusable refused renewal unfit =>
    rw [refused.ending_eq renewal, Renewal.afterRefresh]
    by_cases streamed : Renewal.IsStreamed request
    · rw [Renewal.repeatWith_of_streamed _ streamed]
      rfl
    · rw [Renewal.repeatWith_of_illegal streamed (unfit.resolve_left streamed)]
      rfl
  | repeated refused renewal kept legal delivers =>
    obtain ⟨outcome, performs, rfl⟩ := delivers.performs
    rw [refused.ending_eq renewal, Renewal.afterRefresh, Renewal.repeatWith_of_legal kept legal]
    show (World.perform (executeOnce _ >>= Dialog.done) _).1.toOption = _
    rw [Dialog.bind_done, performs]

theorem IsRefused.exists_handsBack {renewer : AdminClient} {clientId : String} {first : Response}
    (h : IsRefused refresher context request w renewer clientId first v) :
    ∃ result, HandsBack refresher context request w result := by
  obtain ⟨here, answer, u, renewal, -⟩ := refreshToken_runs renewer .everywhere clientId v
  cases answer with
  | error e =>
    by_cases hc : ∃ operation, e = .cancelled operation
    · obtain ⟨operation, rfl⟩ := hc
      exact ⟨_, .cancelled h renewal⟩
    · exact ⟨_, .original h renewal (not_exists.mp hc)⟩
  | ok token =>
    by_cases streamed : Renewal.IsStreamed request
    · exact ⟨_, .unusable h renewal (.inl streamed)⟩
    cases legal : HeaderValue.ofString? ("Bearer " ++ token) with
    | none => exact ⟨_, .unusable h renewal (.inr legal)⟩
    | some credential =>
      obtain ⟨result, x, delivers⟩ :=
        exists_delivers (request.withField "authorization" credential) u
      exact ⟨result, .repeated h renewal streamed legal delivers⟩

theorem exists_handsBack (refresher : Option AdminClient) (context : Context) (request : Request)
    (w : World) : ∃ result, HandsBack refresher context request w result := by
  obtain ⟨result, v, delivers⟩ := exists_delivers request w
  rcases Renewal.somebody_or_nobody refresher context with
    ⟨renewer, clientId, somebody, named⟩ | nobody
  swap
  · exact ⟨result, .plain nobody delivers⟩
  by_cases refused : ∃ first, result = some first ∧ first.status = 401
  · obtain ⟨first, rfl, status⟩ := refused
    exact IsRefused.exists_handsBack ⟨somebody, named, delivers, status⟩
  · exact ⟨result, .stands somebody named delivers
      fun response hs status => refused ⟨response, hs, status⟩⟩

/-- **An execution ends with the response of the rules**, and with an error exactly if they have
none. -/
theorem handsBack_iff :
    HandsBack refresher context request w result ↔
      ending refresher context request w = result := by
  constructor
  · exact HandsBack.ending_eq
  · rintro rfl
    obtain ⟨result, h⟩ := exists_handsBack refresher context request w
    rwa [h.ending_eq]

end RealmKeeper.Provider
