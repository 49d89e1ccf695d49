import RealmKeeper.Proofs.Contacts

/-!
# Having an admin token

What an operation does before its own request: it has an admin token, the one that is kept or a new
one, or it fails.

* `Response.Holds`: the body of a response is a document of a value, and arrives whole;
* `Obtains`: how an admin token is had, `Misses`: how none is;
* `accessToken_runs`: the search for a token is one of the two, and `Obtains.runs`: a token that can
  be had is had;
* `authorizedExchange_runs`, `Obtains.exchange_runs`: the same for an operation with a request of
  its own.
-/

namespace RealmKeeper.Http

open RealmKeeper.Json RealmKeeper.Admin

/-- **The body of the response is a document of the value**, and arrives whole before its context
is cancelled. -/
def Response.Holds {α : Type} (read : ValueTree Fault → Decoded α) (response : Response)
    (value : α) : Prop :=
  response.body.complete = true ∧ .cancellation ∉ response.body.events ∧
    readBytes read response.body.octets = .ok value

variable {α : Type} {read : ValueTree Fault → Decoded α} {response : Response} {value : α}

theorem document_eq_ok_iff (operation : String) :
    document read operation response = .ok value ↔ response.Holds read value := by
  unfold document Delivery.guarded Response.Holds
  by_cases hc : Event.cancellation ∈ response.body.events
  · simp [hc]
  · cases hw : response.body.complete with
    | false => simp [hc]
    | true =>
      cases hr : readBytes read response.body.octets <;> simp [hc, hr, Except.mapError]

theorem successDocument_eq_ok_iff (watch : Watch) (operation : String) :
    successDocument watch read operation response = .ok value ↔
      response.isSuccess = true ∧ response.Holds read value := by
  unfold successDocument
  cases hs : response.isSuccess with
  | false => simp [succeeded, hs, Except.bind]
  | true => simp [succeeded, hs, Except.bind, document_eq_ok_iff]

end RealmKeeper.Http

namespace RealmKeeper.Provider

open RealmKeeper.Http RealmKeeper.Admin

variable {c : AdminClient} {watch : Watch} {w v u : World} {α : Type}

/-! ### One exchange -/

/-- What an exchange makes of what becomes of its request. -/
def taken (operation : String) (request : Request) (take : Response → Except AdminError α) :
    Arrival → Except AdminError α
  | .reply response => take response
  | .dropped => .error (.request operation (.sending request.url))
  | .cancelling => .error (.cancelled operation)
  | .unreachable => .error (.request operation (.sending request.url))

theorem World.Sends.exchange_runs {request : Request} {arrival : Arrival}
    (h : w.Sends request arrival v) (operation : String) (take : Response → Except AdminError α) :
    w.Runs (exchange operation (.ok request) take) [⟨request, arrival⟩]
      (taken operation request take arrival) v := by
  refine h.runs ?_
  cases arrival <;> exact World.runs_done _ _

theorem exchange_runs (operation : String) (prepared : AdminClient.Prepared)
    (take : Response → Except AdminError α) (w : World) :
    (∃ e, w.Runs (exchange operation prepared take) [] (.error e) w) ∨
      ∃ request arrival v, prepared = .ok request ∧ w.Sends request arrival v ∧
        w.Runs (exchange operation prepared take) [⟨request, arrival⟩]
          (taken operation request take arrival) v := by
  rcases World.sends_or_silent prepared w with
    ⟨request, arrival, v, rfl, sends⟩ | ⟨reply, unanswered, hq, silent, -⟩
  · exact .inr ⟨request, arrival, v, rfl, sends, sends.exchange_runs operation take⟩
  · refine .inl ?_
    cases reply with
    | answered response => exact absurd rfl (unanswered response)
    | failed cause =>
      exact ⟨.request operation cause, World.Runs.ask_silent hq silent (World.runs_done _ _)⟩
    | cancelled =>
      exact ⟨.cancelled operation, World.Runs.ask_silent hq silent (World.runs_done _ _)⟩

/-! ### The admin token -/

/-- The world in which an issued token is kept. -/
def World.keeping (w : World) (issued : IssuedToken) : World :=
  { w with token := some ⟨issued.token, tokenExpiry w.clock issued.expiresIn⟩ }

/-- No token is kept that can be used now. -/
def World.IsWithoutToken (w : World) : Prop :=
  ∀ token, w.token = some token → token.isUsableAt w.clock = false

/-- **An admin token is had**: one is kept that can be used now, and nothing is said, or none is,
and the provider issues one. -/
inductive Obtains (c : AdminClient) (w : World) : List Contact → String → World → Prop
  | kept {token : StoredToken} (stored : w.token = some token)
      (usable : token.isUsableAt w.clock = true) : Obtains c w [] token.value w
  | issued {request : Request} {response : Response} {issued : IssuedToken} {after : World}
      (without : w.IsWithoutToken) (prepared : c.tokenRequest = .ok request)
      (sends : w.Sends request (.reply response) after) (success : response.isSuccess = true)
      (holds : response.Holds IssuedToken.read issued) :
      Obtains c w [⟨request, .reply response⟩] issued.token (after.keeping issued)

/-- **No admin token is had**: nothing is said, or the provider is asked and issues none. -/
inductive Misses (c : AdminClient) (w : World) : List Contact → World → Prop
  | silent : Misses c w [] w
  | refused {request : Request} {arrival : Arrival} {after : World}
      (without : w.IsWithoutToken) (prepared : c.tokenRequest = .ok request)
      (sends : w.Sends request arrival after)
      (nothing : ∀ response issued, arrival = .reply response →
        ¬ (response.isSuccess = true ∧ response.Holds IssuedToken.read issued)) :
      Misses c w [⟨request, arrival⟩] after

/-- The search of an operation for an admin token may begin: a context that is watched everywhere
is not cancelled. -/
def World.Admits (w : World) (watch : Watch) : Prop :=
  watch = .everywhere → w.cancelled = false

theorem keeping_runs (issued : IssuedToken) (w : World) :
    w.Runs (.ask .now fun now => .ask (.keep ⟨issued.token, tokenExpiry now issued.expiresIn⟩)
      fun _ => .done (.ok issued.token)) [] (.ok issued.token : Except AdminError String)
      (w.keeping issued) :=
  World.Runs.ask_silent rfl rfl (World.Runs.ask_silent rfl rfl (World.runs_done _ _))

/-- **Asking the provider for a token**: the answer issues one, or none is had. -/
theorem fetchToken_runs (c : AdminClient) (watch : Watch) (without : w.IsWithoutToken) :
    (∃ here token v, Obtains c w here token v ∧ w.Runs (c.fetchToken watch) here (.ok token) v) ∨
      ∃ here e v, Misses c w here v ∧ w.Runs (c.fetchToken watch) here (.error e) v := by
  rcases exchange_runs AdminClient.tokenOperation c.tokenRequest
    (successDocument watch IssuedToken.read AdminClient.tokenOperation) w with
    ⟨e, h⟩ | ⟨request, arrival, v, prepared, hs, h⟩
  · exact .inr ⟨[], e, w, .silent, h.andThen_error⟩
  · cases ht : taken AdminClient.tokenOperation request
      (successDocument watch IssuedToken.read AdminClient.tokenOperation) arrival with
    | ok issued =>
      rw [ht] at h
      cases arrival with
      | reply response =>
        obtain ⟨success, holds⟩ := (successDocument_eq_ok_iff watch _).mp ht
        exact .inl ⟨_, _, _, .issued without prepared hs success holds,
          h.andThen (keeping_runs issued v)⟩
      | _ => cases ht
    | error e =>
      rw [ht] at h
      refine .inr ⟨_, e, v, .refused without prepared hs ?_, h.andThen_error⟩
      rintro response issued rfl hr
      rw [taken, (successDocument_eq_ok_iff watch _).mpr hr] at ht
      cases ht

theorem currentToken_of_without {here : List Contact} {result : Except AdminError String}
    (without : w.IsWithoutToken) (h : w.Runs (c.fetchToken watch) here result v) :
    w.Runs (c.currentToken watch) here result v := by
  have hq : World.answer .stored w = (w.token, w) := rfl
  refine World.Runs.ask_silent hq rfl ?_
  cases hk : w.token with
  | none => exact h
  | some token =>
    have hu := without token hk
    refine World.Runs.ask_silent (rfl : World.answer .now w = (w.clock, w)) rfl ?_
    show w.Runs (ite (token.isUsableAt w.clock = true) _ _) _ _ _
    rw [hu]
    exact h

theorem currentToken_of_usable {token : StoredToken} (stored : w.token = some token)
    (usable : token.isUsableAt w.clock = true) :
    w.Runs (c.currentToken watch) [] (.ok token.value) w := by
  have hq : World.answer .stored w = (some token, w) := by rw [← stored]; rfl
  refine World.Runs.ask_silent hq rfl ?_
  refine World.Runs.ask_silent (rfl : World.answer .now w = (w.clock, w)) rfl ?_
  show w.Runs (ite (token.isUsableAt w.clock = true) _ _) _ _ _
  rw [if_pos usable]
  exact World.runs_done _ _

theorem accessToken_of_currentToken {here : List Contact} {result : Except AdminError String}
    (admits : w.Admits watch) (h : w.Runs (c.currentToken watch) here result v) :
    w.Runs (c.accessToken watch) here result v := by
  have hq : World.answer (.turn watch) w = (true, w) := by
    cases watch with
    | atRequests => rfl
    | everywhere => simp [World.answer, admits rfl]
  refine World.Runs.ask_silent hq rfl ?_
  have hend : v.Runs (.ask .endTurn fun _ => .done result) [] result v :=
    World.Runs.ask_silent rfl rfl (World.runs_done _ _)
  exact World.Runs.bind_silent h hend

theorem accessToken_of_not_admits (h : ¬ w.Admits watch) :
    w.Runs (c.accessToken watch) [] (.error (.cancelled AdminClient.tokenOperation)) w := by
  obtain ⟨rfl, hc⟩ := Classical.not_imp.mp h
  rw [Bool.not_eq_false] at hc
  have hq : World.answer (.turn .everywhere) w = (false, w) := by simp [World.answer, hc]
  exact World.Runs.ask_silent hq rfl (World.runs_done _ _)

theorem World.usable_or_without (w : World) :
    (∃ token, w.token = some token ∧ token.isUsableAt w.clock = true) ∨ w.IsWithoutToken := by
  by_cases h : ∃ token, w.token = some token ∧ token.isUsableAt w.clock = true
  · exact .inl h
  · refine .inr fun token stored => ?_
    rw [← Bool.not_eq_true]
    exact fun usable => h ⟨token, stored, usable⟩

/-- **The search for an admin token** has one, or it fails for want of one. -/
theorem accessToken_runs (c : AdminClient) (watch : Watch) (w : World) :
    (∃ here token v, Obtains c w here token v ∧ w.Runs (c.accessToken watch) here (.ok token) v) ∨
      ∃ here e v, Misses c w here v ∧ w.Runs (c.accessToken watch) here (.error e) v := by
  by_cases admits : w.Admits watch
  swap
  · exact .inr ⟨[], _, w, .silent, accessToken_of_not_admits admits⟩
  rcases w.usable_or_without with ⟨token, stored, usable⟩ | without
  · exact .inl ⟨[], token.value, w, .kept stored usable,
      accessToken_of_currentToken admits (currentToken_of_usable stored usable)⟩
  · rcases fetchToken_runs c watch without with ⟨here, token, v, ho, h⟩ | ⟨here, e, v, hm, h⟩
    · exact .inl ⟨here, token, v, ho,
        accessToken_of_currentToken admits (currentToken_of_without without h)⟩
    · exact .inr ⟨here, e, v, hm,
        accessToken_of_currentToken admits (currentToken_of_without without h)⟩

theorem Obtains.runs {here : List Contact} {token : String} (h : Obtains c w here token v)
    (admits : w.Admits watch) : w.Runs (c.accessToken watch) here (.ok token) v := by
  refine accessToken_of_currentToken admits ?_
  cases h with
  | kept stored usable => exact currentToken_of_usable stored usable
  | issued without prepared sends success holds =>
    have hs := sends.exchange_runs AdminClient.tokenOperation
      (successDocument watch IssuedToken.read AdminClient.tokenOperation)
    rw [taken, (successDocument_eq_ok_iff watch _).mpr ⟨success, holds⟩] at hs
    refine currentToken_of_without without ?_
    unfold AdminClient.fetchToken
    rw [prepared]
    exact hs.andThen (keeping_runs _ _)

/-! ### Operations with a request of their own -/

/-- **An operation ends before its own request**: no admin token is had, or one is, and the request
is not sent. -/
def EndsEarly (c : AdminClient) (w : World) (here : List Contact) (v : World) : Prop :=
  Misses c w here v ∨ ∃ token, Obtains c w here token v

theorem Obtains.live {here : List Contact} {token : String} {own : Request} {arrival : Arrival}
    (h : Obtains c w here token v) (sends : v.Sends own arrival u) : w.cancelled = false := by
  cases h with
  | kept stored usable => exact sends.live
  | issued without prepared asks success holds => exact asks.live

/-- **A token that can be had is presented** in the request of the operation. -/
theorem Obtains.exchange_runs {here : List Contact} {token operation : String}
    {request : String → AdminClient.Prepared} {own : Request} {arrival : Arrival}
    (h : Obtains c w here token v) (admits : w.Admits watch) (prepared : request token = .ok own)
    (sends : v.Sends own arrival u) (take : Response → Except AdminError α) :
    w.Runs (c.authorizedExchange watch operation request take) (here ++ [⟨own, arrival⟩])
      (taken operation own take arrival) u := by
  refine (h.runs admits).andThen ?_
  rw [prepared]
  exact sends.exchange_runs operation take

/-- **An operation with a request of its own** ends before that request, or it is the last
contact. -/
theorem authorizedExchange_runs (c : AdminClient) (watch : Watch) (operation : String)
    (request : String → AdminClient.Prepared) (take : Response → Except AdminError α) (w : World) :
    (∃ here e v, EndsEarly c w here v ∧
        w.Runs (c.authorizedExchange watch operation request take) here (.error e) v) ∨
      ∃ here token v own arrival u, Obtains c w here token v ∧ request token = .ok own ∧
        v.Sends own arrival u ∧
        w.Runs (c.authorizedExchange watch operation request take) (here ++ [⟨own, arrival⟩])
          (taken operation own take arrival) u := by
  rcases accessToken_runs c watch w with ⟨here, token, v, ho, h⟩ | ⟨here, e, v, hm, h⟩
  swap
  · exact .inl ⟨here, e, v, .inl hm, h.andThen_error⟩
  rcases exchange_runs operation (request token) take v with
    ⟨e, h'⟩ | ⟨own, arrival, u, prepared, sends, h'⟩
  · exact .inl ⟨here, e, v, .inr ⟨token, ho⟩, World.Runs.bind_silent h h'⟩
  · exact .inr ⟨here, token, v, own, arrival, u, ho, prepared, sends, h.andThen h'⟩

theorem asks_of_without {operation : String} {own : String → AdminClient.Prepared}
    {take : Response → Except AdminError α} {request : Request} (without : w.IsWithoutToken)
    (live : w.cancelled = false) (prepared : c.tokenRequest = .ok request) :
    ⟨request, w.next.arrival⟩ ∈ w.contacts (c.authorizedExchange watch operation own take) := by
  have sends : w.Sends request w.next.arrival (w.after request) := ⟨live, rfl, rfl⟩
  have asking := sends.exchange_runs AdminClient.tokenOperation
    (successDocument watch IssuedToken.read AdminClient.tokenOperation)
  have fetching : ⟨request, w.next.arrival⟩ ∈ w.contacts (c.fetchToken watch) := by
    unfold AdminClient.fetchToken
    rw [prepared]
    refine (World.contacts_bind w _ _).symm ▸ List.mem_append_left _ ?_
    rw [asking.contacts_eq]
    exact List.mem_singleton_self _
  have search : w.contacts (c.accessToken watch) = w.contacts (c.fetchToken watch) :=
    (accessToken_of_currentToken (fun _ => live)
      (currentToken_of_without without ⟨rfl, rfl⟩)).contacts_eq
  refine (World.contacts_bind w (c.accessToken watch) _).symm ▸ List.mem_append_left _ ?_
  rw [search]
  exact fetching

end RealmKeeper.Provider
