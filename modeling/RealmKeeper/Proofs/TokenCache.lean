import RealmKeeper.Proofs.RealmLookup
import RealmKeeper.Proofs.TokenSearch

/-!
# The admin token over whole runs

The administrative client keeps an admin token from one operation to the next.

* `Call`: an operation that is called after some time, and `moments`: the moments of many calls;
* `Authorised`: dialogues that search for a token before each of their requests, and
  `Action.authorised`: all administrative operations are such;
* `SearchIsRight`: when a search asks for a token, when it reuses one, and what becomes of the
  operation if it fails;
* `CacheIsRight`: what holds in an operation, given what happened before it, and
  `Authorised.cacheIsRight`: it holds whenever what is kept at first is the last token issued;
* `cache_is_right`: it holds in every operation of every run.
-/

namespace RealmKeeper

namespace Http

open Admin

/-- **The request presents the token**, after what else it presents. -/
def Request.Bears (token : String) (request : Request) : Prop :=
  ∃ credential others, bearer? token = some credential ∧
    request.fields = others ++ [("authorization", credential), ("accept", HeaderValue.json)]

theorem bears_of_authorized {token method : String} {url : Url}
    {fields : List (String × HeaderValue)} {body : RequestBody} {request : Request}
    (h : AdminClient.authorized token method url fields body = .ok request) :
    request.Bears token := by
  obtain ⟨-, credential, legal, rfl⟩ := authorized_eq_ok h
  exact ⟨credential, _, legal, rfl⟩

/-- A request that presents a token is not the one that asks for an admin token. -/
theorem Request.Bears.ne_tokenRequest {token : String} {request : Request}
    (h : request.Bears token) (c : AdminClient) : c.tokenRequest ≠ .ok request := by
  obtain ⟨credential, others, -, fields⟩ := h
  intro same
  unfold AdminClient.tokenRequest AdminClient.prepare at same
  by_cases http : c.tokenEndpoint.isHttp = true
  · rw [if_pos http] at same
    have last := congrArg (fun r => r.fields.getLast?) (Except.ok.inj same)
    rw [fields] at last
    simp at last
  · rw [if_neg http] at same
    cases same

end Http

namespace Provider

open RealmKeeper.Http RealmKeeper.Admin

/-! ### Calls -/

/-- What the administrative client is called for. -/
inductive Action where
  | realmExists (realm : String)
  | tokenForRegistration
  | findClient (clientId : String)
  | refreshToken (clientId : String)

namespace Action

/-- What is given. -/
abbrev Value : Action → Type
  | .realmExists _ => Bool
  | .tokenForRegistration => String
  | .findClient _ => ClientEntry
  | .refreshToken _ => String

/-- The operation. -/
def dialog (c : AdminClient) (watch : Watch) : (a : Action) → Admin.Operating a.Value
  | .realmExists realm => c.realmExists watch realm
  | .tokenForRegistration => c.tokenForRegistration watch
  | .findClient clientId => c.findClient watch clientId
  | .refreshToken clientId => c.refreshToken watch clientId

end Action

/-- **A call**, some nanoseconds after the one before it, under a context that may be cancelled
already. -/
structure Call where
  action : Action
  watch : Watch
  delay : Nat
  cancelled : Bool

namespace Call

/-- The operation of a call. -/
def dialog (c : AdminClient) (call : Call) : Admin.Operating call.action.Value :=
  call.action.dialog c call.watch

/-- The world in which a call begins. -/
def start (call : Call) (w : World) : World :=
  { w.wait call.delay with cancelled := call.cancelled }

end Call

/-- The world after some calls. -/
def afterCalls (c : AdminClient) : List Call → World → World
  | [], w => w
  | call :: rest, w => afterCalls c rest ((call.start w).perform (call.dialog c)).2

/-- **The moments of some calls**, one call after the other. -/
def moments (c : AdminClient) : List Call → World → List Moment
  | [], _ => []
  | call :: rest, w => (call.dialog c).history World.answer (call.start w) ++
      moments c rest ((call.start w).perform (call.dialog c)).2

/-! ### Operations that authorise their requests -/

/-- **Each request presents the token of a search** right before it. -/
inductive Authorised (c : AdminClient) (watch : Watch) : {α : Type} → Admin.Operating α → Prop
  | done {α : Type} (result : Except AdminError α) : Authorised c watch (.done result)
  | step {α β : Type} {operation : String} {request : String → AdminClient.Prepared}
      {take : Response → Except AdminError β} {next : β → Admin.Operating α}
      (bears : ∀ token own, request token = .ok own → own.Bears token)
      (rest : ∀ b, Authorised c watch (next b)) :
      Authorised c watch ((c.authorizedExchange watch operation request take).andThen next)

theorem andThen_done {α : Type} (d : Admin.Operating α) :
    d.andThen (fun a => .done (.ok a)) = d := by
  unfold Operating.andThen
  induction d with
  | done result => cases result <;> rfl
  | ask q next ih =>
    rw [Dialog.bind]
    exact congrArg (Dialog.ask q) (funext ih)

theorem andThen_assoc {α β γ : Type} (d : Admin.Operating α) (f : α → Admin.Operating β)
    (g : β → Admin.Operating γ) :
    (d.andThen f).andThen g = d.andThen fun a => (f a).andThen g := by
  unfold Operating.andThen
  induction d with
  | done result => cases result <;> rfl
  | ask q next ih =>
    rw [Dialog.bind, Dialog.bind, Dialog.bind]
    exact congrArg (Dialog.ask q) (funext ih)

theorem Authorised.single {α : Type} {c : AdminClient} {watch : Watch} {operation : String}
    {request : String → AdminClient.Prepared} {take : Response → Except AdminError α}
    (bears : ∀ token own, request token = .ok own → own.Bears token) :
    Authorised c watch (c.authorizedExchange watch operation request take) := by
  rw [← andThen_done (c.authorizedExchange watch operation request take)]
  exact .step bears fun a => .done (.ok a)

/-- **Every administrative operation authorises its requests.** -/
theorem Action.authorised (c : AdminClient) (watch : Watch) (a : Action) :
    Authorised c watch (a.dialog c watch) := by
  cases a with
  | realmExists realm => exact .single fun _ _ => bears_of_authorized
  | tokenForRegistration => exact .single fun _ _ => bears_of_authorized
  | findClient clientId => exact .single fun _ _ => bears_of_authorized
  | refreshToken clientId =>
    exact .step (fun _ _ => bears_of_authorized) fun _ => .single fun _ _ => bears_of_authorized

/-! ### What holds in an operation -/

/-- **A search for a token in an operation**, before which the moments of `past` have passed and
after which those of `rest` follow. -/
structure SearchIsRight {α : Type} (c : AdminClient) (past : List Moment) (watch : Watch)
    (u : World) (rest : List Moment) (outcome : Except AdminError α × World) : Prop where
  /-- What is kept is the last token issued. -/
  kept : IsKept c past u
  /-- The search sends nothing but requests for an admin token. -/
  sends : ∀ prepared v,
    (.send prepared, v) ∈ (c.accessToken watch).history World.answer u → prepared = c.tokenRequest
  /-- The provider is asked for a token exactly when none is kept or the kept one has expired. -/
  asks : u.cancelled = false →
    ((.send c.tokenRequest, u) ∈ (c.accessToken watch).history World.answer u ↔
      u.token = none ∨ ∃ t, u.token = some t ∧ t.expiresAt.nanoseconds ≤ u.clock.nanoseconds)
  /-- Over a base address of HTTP this question is a contact: the request can be made and is sent to
  the provider, and nothing else is. -/
  reaches : c.baseUrl.isHttp = true → u.cancelled = false →
    ∃ request, c.tokenRequest = .ok request ∧
      ∀ contact, contact ∈ u.contacts (c.accessToken watch) ↔
        (.send c.tokenRequest, u) ∈ (c.accessToken watch).history World.answer u ∧
          contact = ⟨request, u.next.arrival⟩
  /-- A token that is given without asking is the last one issued, and within the lifetime that was
  stated for it, with thirty seconds to spare. -/
  reuses : ∀ token, (u.perform (c.accessToken watch)).1 = .ok token →
    (.send c.tokenRequest, u) ∉ (c.accessToken watch).history World.answer u →
      ∃ i, latest c past = some i ∧ i.token.token = token ∧
        u.clock.nanoseconds < i.time.nanoseconds + (i.stated - 30) * 1000000000
  /-- The search fails exactly if a cancelled context turns it away, or the provider is asked and
  issues nothing. -/
  fails : (∃ e, (u.perform (c.accessToken watch)).1 = .error e) ↔ ¬ u.Admits watch ∨
    (.send c.tokenRequest, u) ∈ (c.accessToken watch).history World.answer u ∧
      issue? c (.send c.tokenRequest, u) = none
  /-- If the search fails, the operation is over with the same error, and what was kept is still
  kept. -/
  ends : ∀ e, (u.perform (c.accessToken watch)).1 = .error e →
    rest = [] ∧ outcome.1 = .error e ∧ outcome.2.token = u.token

/-- **A search has just given a token**, which is the last one issued. -/
structure Found (c : AdminClient) (past : List Moment) (token : String) (u : World) : Prop where
  search : ∃ before watch v, past = before ++ (c.accessToken watch).history World.answer v ∧
    v.perform (c.accessToken watch) = (.ok token, u)
  last : ∃ i, latest c past = some i ∧ i.token.token = token

/-- **What holds in an operation**, before which the moments of `past` have passed. -/
structure CacheIsRight {α : Type} (c : AdminClient) (past : List Moment) (d : Admin.Operating α)
    (w : World) : Prop where
  /-- Each turn begins a search, which is right. -/
  searches : ∀ before watch u others,
    d.history World.answer w = before ++ (.turn watch, u) :: others →
      ∃ rest, (.turn watch, u) :: others = (c.accessToken watch).history World.answer u ++ rest ∧
        SearchIsRight c (past ++ before) watch u rest (w.perform d)
  /-- A request presents what a search has just given, the last token issued, which stays kept
  whatever becomes of the request. -/
  requests : ∀ before request u others,
    d.history World.answer w = before ++ (.send (.ok request), u) :: others →
      c.tokenRequest ≠ .ok request →
        (∃ token, Found c (past ++ before) token u ∧ request.Bears token) ∧
          IsKept c (past ++ before) u ∧ (World.answer (.send (.ok request)) u).2.token = u.token
  /-- After the operation what is kept is the last token issued. -/
  after : IsKept c (past ++ d.history World.answer w) (w.perform d).2

/-! ### Putting operations together -/

variable {α β : Type} {c : AdminClient} {watch : Watch} {past here : List Moment} {w v : World}

/-- How an operation goes on after a result. -/
def goOn (f : α → Admin.Operating β) : Except AdminError α → Admin.Operating β
  | .ok a => f a
  | .error e => .done (.error e)

theorem history_andThen (d : Admin.Operating α) (f : α → Admin.Operating β) (w : World) :
    (d.andThen f).history World.answer w =
      d.history World.answer w ++ (goOn f (w.perform d).1).history World.answer (w.perform d).2 :=
  Dialog.history_bind World.answer d (goOn f) w

theorem perform_andThen (d : Admin.Operating α) (f : α → Admin.Operating β) (w : World) :
    w.perform (d.andThen f) = (w.perform d).2.perform (goOn f (w.perform d).1) :=
  World.perform_bind w d (goOn f)

theorem append_eq_append_cons {τ : Type} {xs ys before rest : List τ} {m : τ}
    (h : xs ++ ys = before ++ m :: rest) :
    (∃ more, xs = before ++ m :: more ∧ rest = more ++ ys) ∨
      ∃ more, before = xs ++ more ∧ ys = more ++ m :: rest := by
  rcases List.append_eq_append_iff.mp h with ⟨more, hb, hy⟩ | ⟨more, hx, hm⟩
  · exact .inr ⟨more, hb, hy⟩
  · cases more with
    | nil => exact .inr ⟨[], by simpa using hx.symm, by simpa using hm.symm⟩
    | cons m' more =>
      obtain ⟨rfl, rfl⟩ := List.cons.inj hm
      exact .inl ⟨more, hx, rfl⟩

theorem issue?_of_bears {token : String} {prepared : AdminClient.Prepared}
    (bears : ∀ own, prepared = .ok own → own.Bears token) (w : World) :
    issue? c (.send prepared, w) = none := by
  cases prepared with
  | ok own => exact if_neg ((bears own rfl).ne_tokenRequest c).symm
  | error cause =>
    cases cancelled : w.cancelled <;> simp [issue?, World.send, cancelled]

theorem CacheIsRight.done (kept : IsKept c past w) (result : Except AdminError α) :
    CacheIsRight c past (.done result) w := by
  refine ⟨fun before watch u rest h => ?_, fun before request u rest h => ?_, ?_⟩
  · cases before <;> cases h
  · cases before <;> cases h
  · rw [Dialog.history_done, List.append_nil]
    exact kept

/-- **A search is right** where what is kept is the last token issued. -/
theorem Searches.isRight {rest : List Moment} {outcome : Except AdminError α × World}
    (h : Searches c watch w ((c.accessToken watch).history World.answer w)
      (w.perform (c.accessToken watch)).1 (w.perform (c.accessToken watch)).2)
    (kept : IsKept c past w)
    (ends : ∀ e, (w.perform (c.accessToken watch)).1 = .error e →
      rest = [] ∧ outcome = (.error e, (w.perform (c.accessToken watch)).2)) :
    SearchIsRight c past watch w rest outcome where
  kept := kept
  sends := fun _ _ hm => (h.eq_tokenRequest hm).1
  asks := h.asks_iff
  reaches := by
    intro http live
    obtain ⟨request, made⟩ := exists_tokenRequest http
    exact ⟨request, made, h.mem_contacts_iff made live⟩
  reuses := by
    intro token gives silent
    obtain ⟨t, stored, value, usable⟩ := h.usable_of_ok gives silent
    obtain ⟨i, last, asKept⟩ := exists_latest_of_kept kept stored
    have within := Issue.lt_of_usable asKept (kept.before i last) usable
    exact ⟨i, last, asKept.value.symm.trans value, within⟩
  fails := h.error_iff
  ends := by
    intro e he
    obtain ⟨nothing, rfl⟩ := ends e he
    exact ⟨nothing, rfl, h.token_of_error he⟩

/-- What holds in the rest of an operation, and at the moments before it, holds in the whole. -/
theorem CacheIsRight.append {d others : Admin.Operating α}
    (history : d.history World.answer w = here ++ others.history World.answer v)
    (run : w.perform d = v.perform others) (tail : CacheIsRight c (past ++ here) others v)
    (searches : ∀ before watch u more, here = before ++ (.turn watch, u) :: more →
      ∃ rest, (.turn watch, u) :: (more ++ others.history World.answer v) =
          (c.accessToken watch).history World.answer u ++ rest ∧
        SearchIsRight c (past ++ before) watch u rest (v.perform others))
    (requests : ∀ before request u more, here = before ++ (.send (.ok request), u) :: more →
      c.tokenRequest ≠ .ok request →
        (∃ token, Found c (past ++ before) token u ∧ request.Bears token) ∧
          IsKept c (past ++ before) u ∧ (World.answer (.send (.ok request)) u).2.token = u.token) :
    CacheIsRight c past d w := by
  refine ⟨fun before watch u rest h => ?_, fun before request u rest h other => ?_, ?_⟩
  · rw [history] at h
    rw [run]
    rcases append_eq_append_cons h with ⟨more, inside, rfl⟩ | ⟨more, rfl, later⟩
    · exact searches before watch u more inside
    · rw [← List.append_assoc]
      exact tail.searches more watch u rest later
  · rw [history] at h
    rcases append_eq_append_cons h with ⟨more, inside, -⟩ | ⟨more, rfl, later⟩
    · exact requests before request u more inside other
    · rw [← List.append_assoc]
      exact tail.requests more request u rest later other
  · rw [history, run, ← List.append_assoc]
    exact tail.after

/-- **An operation that begins with a search.** -/
theorem CacheIsRight.search {f : String → Admin.Operating α} (kept : IsKept c past w)
    (next : ∀ token here u, IsKept c (past ++ here) u → Found c (past ++ here) token u →
      CacheIsRight c (past ++ here) (f token) u) :
    CacheIsRight c past ((c.accessToken watch).andThen f) w := by
  have search := accessToken_searches c watch w
  have tail : CacheIsRight c (past ++ (c.accessToken watch).history World.answer w)
      (goOn f (w.perform (c.accessToken watch)).1) (w.perform (c.accessToken watch)).2 := by
    have keptAfter := search.isKept kept
    cases hr : (w.perform (c.accessToken watch)).1 with
    | error e => exact .done keptAfter _
    | ok token =>
      have found : Found c (past ++ (c.accessToken watch).history World.answer w) token
          (w.perform (c.accessToken watch)).2 :=
        ⟨⟨past, watch, w, rfl, Prod.ext hr rfl⟩, search.latest_of_ok kept hr⟩
      exact next token _ _ keptAfter found
  refine .append (history_andThen _ f w) (perform_andThen _ f w) tail
    (fun before watch' u more inside => ?_) (fun before request u more inside other => ?_)
  · -- the search has no other turn than the one with which it begins
    obtain ⟨own, starts, no_turn⟩ := search.exists_turn
    obtain ⟨rfl, same⟩ : before = [] ∧ (.turn watch, w) = (Question.turn watch', u) := by
      rw [starts] at inside
      cases before with
      | nil => exact ⟨rfl, (List.cons.inj inside).1⟩
      | cons m before =>
        have later := (List.cons.inj inside).2
        exact absurd (later ▸ List.mem_append_cons_self) (no_turn watch' u)
    cases same
    refine ⟨_, by rw [inside]; rfl, ?_⟩
    rw [List.append_nil]
    refine search.isRight kept fun e he => ?_
    rw [he]
    exact ⟨rfl, rfl⟩
  · have sent := search.eq_tokenRequest (inside ▸ List.mem_append_cons_self)
    exact absurd sent.1.symm other

/-- **An operation that begins with a request**, which presents the token that was just found. -/
theorem CacheIsRight.request {operation token : String} {prepared : AdminClient.Prepared}
    {take : Response → Except AdminError β} {next : β → Admin.Operating α}
    (kept : IsKept c past w) (found : Found c past token w)
    (bears : ∀ own, prepared = .ok own → own.Bears token)
    (rest : ∀ b here u, IsKept c (past ++ here) u → CacheIsRight c (past ++ here) (next b) u) :
    CacheIsRight c past ((exchange operation prepared take).andThen next) w := by
  obtain ⟨reply, v, asked⟩ : ∃ reply v, World.answer (.send prepared) w = (reply, v) := ⟨_, _, rfl⟩
  have keptAfter : IsKept c (past ++ [(.send prepared, w)]) v := by
    have sent := kept.send prepared
    rw [show w.send prepared = (reply, v) from asked] at sent
    exact sent.append (by simpa using issue?_of_bears bears w)
  obtain ⟨others, tail, history, run⟩ : ∃ others : Admin.Operating α,
      CacheIsRight c (past ++ [(.send prepared, w)]) others v ∧
        ((exchange operation prepared take).andThen next).history World.answer w =
          [(.send prepared, w)] ++ others.history World.answer v ∧
        w.perform ((exchange operation prepared take).andThen next) = v.perform others := by
    unfold exchange Operating.andThen Dialog.bind World.perform
    rw [Dialog.history_ask_of_eq _ asked, Dialog.run_ask_of_eq _ asked]
    refine ⟨_, ?_, rfl, rfl⟩
    cases reply with
    | answered response =>
      rw [Dialog.bind]
      cases take response with
      | error e => exact .done keptAfter _
      | ok b => exact rest b _ v keptAfter
    | failed cause => exact .done keptAfter _
    | cancelled => exact .done keptAfter _
  refine .append history run tail (fun before watch u more inside => ?_)
    (fun before request u more inside other => ?_)
  · cases before with
    | nil => cases inside
    | cons m before => simp at inside
  · cases before with
    | nil =>
      cases inside
      rw [List.append_nil]
      exact ⟨⟨token, found, bears request rfl⟩, kept, (World.send_keeps _ w).1⟩
    | cons m before => simp at inside

/-- **The cache is right in every operation that authorises its requests**, if what is kept at first
is the last token issued. -/
theorem Authorised.cacheIsRight {d : Admin.Operating α} (h : Authorised c watch d)
    (kept : IsKept c past w) : CacheIsRight c past d w := by
  induction h generalizing past w with
  | done result => exact .done kept result
  | step bears _ ih =>
    rw [AdminClient.authorizedExchange, andThen_assoc]
    refine .search kept fun token here u keptHere found => ?_
    exact .request keptHere found (bears token) fun b there v keptThere => ih b keptThere

/-! ### Runs -/

theorem IsKept.start (h : IsKept c past w) (call : Call) : IsKept c past (call.start w) :=
  h.of_le rfl (le_clock_advance w.clock call.delay)

/-- **After some calls what is kept is still the last token issued.** -/
theorem IsKept.afterCalls (calls : List Call) (h : IsKept c past w) :
    IsKept c (past ++ moments c calls w) (afterCalls c calls w) := by
  induction calls generalizing past w with
  | nil =>
    rw [moments, List.append_nil]
    exact h
  | cons call calls ih =>
    have right := (call.action.authorised c call.watch).cacheIsRight (h.start call)
    rw [moments, ← List.append_assoc]
    exact ih right.after

theorem IsKept.of_none (fresh : w.token = none) : IsKept c [] w := by
  refine ⟨?_, fun i hi => absurd hi (Option.not_mem_none i)⟩
  rw [fresh]
  exact .none

/-- **The cache is right in every call of every run**: whatever the provider does, after any calls
what is kept is the last token issued, and the next call searches for its tokens and presents them
as it should. -/
theorem cache_is_right (c : AdminClient) (calls : List Call) (call : Call) {w : World}
    (fresh : w.token = none) :
    IsKept c (moments c calls w) (afterCalls c calls w) ∧
      CacheIsRight c (moments c calls w) (call.dialog c) (call.start (afterCalls c calls w)) := by
  have kept : IsKept c (moments c calls w) (afterCalls c calls w) :=
    (IsKept.of_none fresh).afterCalls calls
  exact ⟨kept, (call.action.authorised c call.watch).cacheIsRight (kept.start call)⟩

/-- A provider that first issues a token for a minute, and then knows no realm. -/
def issuing : World :=
  .start none [⟨.reply ⟨200, ⟨[.chunk (Text.Utf8.encode
    "\x7b\"access_token\":\"t\",\"expires_in\":60\x7d".toList)], true⟩⟩, 0⟩]
    ⟨.reply ⟨404, ⟨[], true⟩⟩, 0⟩

/-- A lookup so many nanoseconds after what was before. -/
def lookupAfter (delay : Nat) (realm : String) : Call :=
  ⟨.realmExists realm, .atRequests, delay, false⟩

/-- The token of a lookup is kept, and a second lookup thirty seconds later is right about it. -/
theorem cache_is_right_thirtySeconds :
    issuing.token = none ∧
      (afterCalls localClient [lookupAfter 0 "org"] issuing).token =
        some ⟨"t", ⟨30000000000, by decide⟩⟩ ∧
      IsKept localClient (moments localClient [lookupAfter 0 "org"] issuing)
          (afterCalls localClient [lookupAfter 0 "org"] issuing) ∧
        CacheIsRight localClient (moments localClient [lookupAfter 0 "org"] issuing)
          ((lookupAfter 30000000000 "other").dialog localClient)
          ((lookupAfter 30000000000 "other").start
            (afterCalls localClient [lookupAfter 0 "org"] issuing)) := by
  refine ⟨rfl, by decide +kernel, ?_⟩
  exact cache_is_right localClient [lookupAfter 0 "org"] (lookupAfter 30000000000 "other") rfl

end Provider

end RealmKeeper
