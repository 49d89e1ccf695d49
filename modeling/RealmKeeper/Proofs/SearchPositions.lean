import RealmKeeper.Proofs.Interleaving

/-!
# Where an operation is in its searches

An operation searches for a token, sends a request that presents it, and begins again or ends.

* `Continues`: what may come after a search;
* `Position`: the places between the questions of an operation, and `Describes`: which of them it is
  at;
* `Moves`: the steps from place to place, with what they need and change;
* `Describes.acts`: every step of an operation is one of these.
-/

namespace RealmKeeper.Provider.Concurrent

open RealmKeeper.Http RealmKeeper.Admin

variable {ι : Type} {α : Type} {c : AdminClient} {watch : Watch}

/-- **The reply issues a token**: it says success and holds one. -/
def Issues (reply : Reply) (issued : IssuedToken) : Prop :=
  ∃ response, reply = .answered response ∧ response.isSuccess = true ∧
    response.Holds IssuedToken.read issued

/-! ### The rest of a search

What is still to be asked in a search after each of its answers, where `go` goes on after it: the
same questions as in `AdminClient.accessToken`, with every one of them in the first place. -/

section rest

variable (c : AdminClient) (watch : Watch) (go : Except AdminError String → Admin.Operating α)

def giveBack (outcome : Except AdminError String) : Admin.Operating α :=
  .ask .endTurn fun _ => go outcome

def afterDate (issued : IssuedToken) (now : Instant) : Admin.Operating α :=
  .ask (.keep ⟨issued.token, tokenExpiry now issued.expiresIn⟩) fun _ =>
    giveBack go (.ok issued.token)

def afterReply : Reply → Admin.Operating α
  | .answered response =>
    match successDocument watch IssuedToken.read AdminClient.tokenOperation response with
    | .ok issued => .ask .now (afterDate go issued)
    | .error e => giveBack go (.error e)
  | .failed cause => giveBack go (.error (.request AdminClient.tokenOperation cause))
  | .cancelled => giveBack go (.error (.cancelled AdminClient.tokenOperation))

def askFor : Admin.Operating α :=
  .ask (.send c.tokenRequest) (afterReply watch go)

def afterNow (token : StoredToken) (now : Instant) : Admin.Operating α :=
  if token.isUsableAt now then giveBack go (.ok token.value) else askFor c watch go

def afterStored : Option StoredToken → Admin.Operating α
  | none => askFor c watch go
  | some token => .ask .now (afterNow c watch go token)

def afterTurn (given : Bool) : Admin.Operating α :=
  if given then .ask .stored (afterStored c watch go)
  else go (.error (.cancelled AdminClient.tokenOperation))

end rest

variable {go : Except AdminError String → Admin.Operating α}

theorem accessToken_bind (c : AdminClient) (watch : Watch)
    (go : Except AdminError String → Admin.Operating α) :
    Dialog.bind (c.accessToken watch) go = .ask (.turn watch) (afterTurn c watch go) := by
  have fetched : Dialog.bind (Dialog.bind (c.fetchToken watch)
      fun outcome => .ask .endTurn fun _ => .done outcome) go = askFor c watch go := by
    refine congrArg (Dialog.ask (Question.send c.tokenRequest)) (funext fun reply => ?_)
    cases reply with
    | answered response =>
      unfold afterReply
      cases hd : successDocument watch IssuedToken.read AdminClient.tokenOperation response with
      | ok issued => simp only [Dialog.bind, hd]; rfl
      | error e => simp only [Dialog.bind, hd]; rfl
    | failed cause => rfl
    | cancelled => rfl
  refine congrArg (Dialog.ask (Question.turn watch)) (funext fun given => ?_)
  cases given with
  | false => rfl
  | true =>
    refine congrArg (Dialog.ask Question.stored) (funext fun stored => ?_)
    cases stored with
    | none => exact fetched
    | some token =>
      refine congrArg (Dialog.ask Question.now) (funext fun now => ?_)
      unfold afterNow
      by_cases usable : token.isUsableAt now = true
      · simp only [if_pos usable]
        rfl
      · simp only [if_neg usable]
        exact fetched

/-! ### Places -/

/-- **What comes after a search** ends the operation, or sends a request that bears the token. -/
structure Continues (c : AdminClient) (watch : Watch)
    (go : Except AdminError String → Admin.Operating α) : Prop where
  fails : ∀ e, go (.error e) = .done (.error e)
  presents : ∀ token, ∃ prepared next, go (.ok token) = .ask (.send prepared) next ∧
    (∀ request, prepared = .ok request → request.Bears token) ∧
      ∀ reply, Authorised c watch (next reply)

/-- **Where an operation is.** -/
inductive Position where
  /-- It is done or given up. -/
  | ended
  /-- It waits for the turn. -/
  | waiting
  | looking
  /-- It has found a token, and looks at the time. -/
  | weighing (kept : StoredToken)
  /-- It needs a new token, and sends its request. -/
  | asking
  /-- Its request for a token is in flight. -/
  | fetching
  /-- A token is issued to it, and it looks at the time. -/
  | dating (issued : IssuedToken)
  | keeping (token : StoredToken)
  /-- It gives the turn back. -/
  | leaving (outcome : Except AdminError String)
  /-- It sends a request that presents the token. -/
  | presenting (token : String)
  /-- Its own request is in flight. -/
  | pending

/-- The turn is had at this place. -/
def Position.HasTurn : Position → Prop
  | .looking | .weighing _ | .asking | .fetching | .dating _ | .keeping _ | .leaving _ => True
  | .ended | .waiting | .presenting _ | .pending => False

/-- **An operation is at a place.** -/
inductive Describes (c : AdminClient) (watch : Watch) : Position → Stage α → Prop
  | abandoned : Describes c watch .ended .abandoned
  | ended (result : Except AdminError α) : Describes c watch .ended (.doing (.done result))
  | waiting {go : Except AdminError String → Admin.Operating α} (goes : Continues c watch go) :
      Describes c watch .waiting (.doing (.ask (.turn watch) (afterTurn c watch go)))
  | looking {go : Except AdminError String → Admin.Operating α} (goes : Continues c watch go) :
      Describes c watch .looking (.doing (.ask .stored (afterStored c watch go)))
  | weighing {go : Except AdminError String → Admin.Operating α} (goes : Continues c watch go)
      (kept : StoredToken) :
      Describes c watch (.weighing kept) (.doing (.ask .now (afterNow c watch go kept)))
  | asking {go : Except AdminError String → Admin.Operating α} (goes : Continues c watch go) :
      Describes c watch .asking (.doing (.ask (.send c.tokenRequest) (afterReply watch go)))
  | fetching {go : Except AdminError String → Admin.Operating α} (goes : Continues c watch go)
      {request : Request} (prepared : c.tokenRequest = .ok request) :
      Describes c watch .fetching (.awaiting request (afterReply watch go))
  | dating {go : Except AdminError String → Admin.Operating α} (goes : Continues c watch go)
      (issued : IssuedToken) :
      Describes c watch (.dating issued) (.doing (.ask .now (afterDate go issued)))
  | keeping {go : Except AdminError String → Admin.Operating α} (goes : Continues c watch go)
      (token : StoredToken) :
      Describes c watch (.keeping token)
        (.doing (.ask (.keep token) fun _ => giveBack go (.ok token.value)))
  | leaving {go : Except AdminError String → Admin.Operating α} (goes : Continues c watch go)
      (outcome : Except AdminError String) :
      Describes c watch (.leaving outcome) (.doing (.ask .endTurn fun _ => go outcome))
  | presenting {prepared : AdminClient.Prepared} {next : Reply → Admin.Operating α} {token : String}
      (bears : ∀ request, prepared = .ok request → request.Bears token)
      (goes : ∀ reply, Authorised c watch (next reply)) :
      Describes c watch (.presenting token) (.doing (.ask (.send prepared) next))
  | pending {request : Request} {next : Reply → Admin.Operating α} {token : String}
      (bears : request.Bears token) (goes : ∀ reply, Authorised c watch (next reply)) :
      Describes c watch .pending (.awaiting request next)

/-- **A step from place to place.** -/
inductive Moves (c : AdminClient) (i : ι) [DecidableEq ι] (s : Shared ι) :
    Position → Event ι → Position → Shared ι → Prop
  | enters (watch : Watch) (free : s.holder = none) :
      Moves c i s .waiting (.asks i (.turn watch) true) .looking { s with holder := some i }
  | turnedAway : Moves c i s .waiting (.asks i (.turn .everywhere) false) .ended s
  | finds {kept : StoredToken} (stored : s.token = some kept) :
      Moves c i s .looking (.asks i .stored s.token) (.weighing kept) s
  | lacks (nothing : s.token = none) : Moves c i s .looking (.asks i .stored s.token) .asking s
  | uses {kept : StoredToken} (usable : kept.isUsableAt s.clock = true) :
      Moves c i s (.weighing kept) (.asks i .now s.clock) (.leaving (.ok kept.value)) s
  | expires {kept : StoredToken} (expired : kept.isUsableAt s.clock = false) :
      Moves c i s (.weighing kept) (.asks i .now s.clock) .asking s
  | gets (reply : Reply) (e : AdminError) :
      Moves c i s .asking (.asks i (.send c.tokenRequest) reply) (.leaving (.error e)) s
  | requests {request : Request} (prepared : c.tokenRequest = .ok request) :
      Moves c i s .asking (.sends i request) .fetching s
  | obtains {request : Request} {reply : Reply} {issued : IssuedToken}
      (prepared : c.tokenRequest = .ok request) (issues : Issues reply issued) :
      Moves c i s .fetching (.receives i request reply) (.dating issued) s
  | misses {request : Request} {reply : Reply} (prepared : c.tokenRequest = .ok request)
      (nothing : ∀ issued, ¬ Issues reply issued) (e : AdminError) :
      Moves c i s .fetching (.receives i request reply) (.leaving (.error e)) s
  | dates (issued : IssuedToken) :
      Moves c i s (.dating issued) (.asks i .now s.clock)
        (.keeping ⟨issued.token, tokenExpiry s.clock issued.expiresIn⟩) s
  | keeps (token : StoredToken) :
      Moves c i s (.keeping token) (.asks i (.keep token) ()) (.leaving (.ok token.value))
        { s with token := some token }
  | leaves (token : String) :
      Moves c i s (.leaving (.ok token)) (.asks i .endTurn ()) (.presenting token)
        { s with holder := none }
  | fails (e : AdminError) :
      Moves c i s (.leaving (.error e)) (.asks i .endTurn ()) .ended { s with holder := none }
  | presents {token : String} {request : Request} (bears : request.Bears token) :
      Moves c i s (.presenting token) (.sends i request) .pending s
  | hears {token : String} (prepared : AdminClient.Prepared) (reply : Reply) {next : Position}
      (further : next = .ended ∨ next = .waiting) :
      Moves c i s (.presenting token) (.asks i (.send prepared) reply) next s
  | receives {token : String} {request : Request} (bears : request.Bears token) (reply : Reply)
      {next : Position} (further : next = .ended ∨ next = .waiting) :
      Moves c i s .pending (.receives i request reply) next s
  | abandons {here : Position} (waits : here = .waiting ∨ here = .fetching ∨ here = .pending) :
      Moves c i s here (.abandons i) .ended (s.release i)

/-! ### Every step is one of these -/

/-- **What authorises its requests is over, or begins a search.** -/
theorem Authorised.describes {d : Admin.Operating α} (h : Authorised c watch d) :
    ∃ p, (p = .ended ∨ p = .waiting) ∧ Describes c watch p (.doing d) := by
  cases h with
  | done result => exact ⟨.ended, .inl rfl, .ended result⟩
  | @step β operation request take next bears rest =>
    refine ⟨.waiting, .inr rfl, ?_⟩
    rw [AdminClient.authorizedExchange, andThen_assoc]
    unfold Operating.andThen
    rw [accessToken_bind]
    -- after the search comes the request, and after its reply what is authorised again
    refine .waiting ⟨fun e => rfl, fun token => ⟨request token, _, rfl, bears token, ?_⟩⟩
    intro reply
    cases reply with
    | answered response =>
      cases hb : take response with
      | ok b => simpa only [Dialog.bind, hb] using rest b
      | error e => simpa only [Dialog.bind, hb] using Authorised.done (.error e)
    | failed cause => exact .done _
    | cancelled => exact .done _

variable [DecidableEq ι] {i : ι} {s t : Shared ι} {e : Event ι} {here next : Stage α}

theorem Acts.of_send {prepared : AdminClient.Prepared} {go : Reply → Admin.Operating α}
    (h : Acts i s (.doing (.ask (.send prepared) go)) e next t) :
    t = s ∧ ((∃ request, prepared = .ok request ∧ e = .sends i request ∧
        next = .awaiting request go) ∨
      ∃ reply, e = .asks i (.send prepared) reply ∧ next = .doing (go reply) ∧
        (reply = .cancelled ∨ ∃ cause, reply = .failed cause)) := by
  cases h with
  | asks gives =>
    cases gives with
    | cancelled => exact ⟨rfl, .inr ⟨_, rfl, rfl, .inl rfl⟩⟩
    | impossible cause => exact ⟨rfl, .inr ⟨_, rfl, rfl, .inr ⟨cause, rfl⟩⟩⟩
  | sends request => exact ⟨rfl, .inl ⟨request, rfl, rfl, rfl⟩⟩
  | abandons waits => cases waits

theorem Acts.of_awaiting {request : Request} {go : Reply → Admin.Operating α}
    (h : Acts i s (.awaiting request go) e next t) :
    (∃ reply, e = .receives i request reply ∧ next = .doing (go reply) ∧ t = s) ∨
      e = .abandons i ∧ next = .abandoned ∧ t = s.release i := by
  cases h with
  | receives _ _ reply => exact .inl ⟨reply, rfl, rfl, rfl⟩
  | abandons waits => exact .inr ⟨rfl, rfl, rfl⟩

theorem Acts.of_askFor {request : Request} (prepared : c.tokenRequest = .ok request) (i : ι)
    (s : Shared ι) (go : Except AdminError String → Admin.Operating α) :
    Acts i s (.doing (askFor c watch go)) (.sends i request)
      (.awaiting request (afterReply watch go)) s := by
  rw [askFor, prepared]
  exact .sends request _

theorem afterReply_of_issues {reply : Reply} {issued : IssuedToken} (h : Issues reply issued)
    (watch : Watch) (go : Except AdminError String → Admin.Operating α) :
    afterReply watch go reply = .ask .now (afterDate go issued) := by
  obtain ⟨response, rfl, issues⟩ := h
  have read := (successDocument_eq_ok_iff watch AdminClient.tokenOperation).mpr issues
  simp only [afterReply, read]

theorem afterReply_cases (watch : Watch) (go : Except AdminError String → Admin.Operating α)
    (reply : Reply) :
    (∃ issued, Issues reply issued ∧ afterReply watch go reply = .ask .now (afterDate go issued)) ∨
      (∀ issued, ¬ Issues reply issued) ∧
        ∃ e, afterReply watch go reply = giveBack go (.error e) := by
  cases reply with
  | answered response =>
    cases hd : successDocument watch IssuedToken.read AdminClient.tokenOperation response with
    | ok issued =>
      have issues : Issues (.answered response) issued :=
        ⟨response, rfl, (successDocument_eq_ok_iff watch _).mp hd⟩
      exact .inl ⟨issued, issues, afterReply_of_issues issues watch go⟩
    | error e =>
      refine .inr ⟨?_, e, by simp only [afterReply, hd]⟩
      rintro issued ⟨_, same, issues⟩
      obtain rfl := Reply.answered.inj same
      cases hd.symm.trans ((successDocument_eq_ok_iff watch _).mpr issues)
  | failed cause =>
    refine .inr ⟨?_, _, rfl⟩
    rintro issued ⟨_, same, -⟩
    cases same
  | cancelled =>
    refine .inr ⟨?_, _, rfl⟩
    rintro issued ⟨_, same, -⟩
    cases same

/-- **Every step of an operation goes from place to place.** -/
theorem Describes.acts {p : Position} (place : Describes c watch p here)
    (h : Acts i s here e next t) :
    ∃ p', Moves c i s p e p' t ∧ Describes c watch p' next := by
  cases place with
  | abandoned =>
    cases h with
    | abandons waits => cases waits
  | ended result =>
    cases h with
    | abandons waits => cases waits
  | waiting goes =>
    cases h with
    | asks gives =>
      cases gives with
      | turn _ free => exact ⟨.looking, .enters watch free, .looking goes⟩
      | turnedAway =>
        refine ⟨.ended, .turnedAway, ?_⟩
        rw [afterTurn, if_neg Bool.false_ne_true, goes.fails]
        exact .ended _
    | abandons waits => exact ⟨.ended, .abandons (.inl rfl), .abandoned⟩
  | looking goes =>
    cases h with
    | asks gives =>
      cases gives
      cases stored : s.token with
      | none => exact ⟨.asking, stored ▸ .lacks stored, .asking goes⟩
      | some kept => exact ⟨.weighing kept, stored ▸ .finds stored, .weighing goes kept⟩
    | abandons waits => cases waits
  | weighing goes kept =>
    cases h with
    | asks gives =>
      cases gives
      by_cases usable : kept.isUsableAt s.clock = true
      · refine ⟨.leaving (.ok kept.value), .uses usable, ?_⟩
        rw [afterNow, if_pos usable]
        exact .leaving goes _
      · refine ⟨.asking, .expires (Bool.not_eq_true _ ▸ usable), ?_⟩
        rw [afterNow, if_neg usable]
        exact .asking goes
    | abandons waits => cases waits
  | asking goes =>
    -- the request is not a term of either form, so its two ways are told apart by `of_send`
    obtain ⟨rfl, ⟨request, prepared, rfl, rfl⟩ | ⟨reply, rfl, rfl, unsent⟩⟩ := h.of_send
    · exact ⟨.fetching, .requests prepared, .fetching goes prepared⟩
    · rcases unsent with rfl | ⟨cause, rfl⟩
      · exact ⟨_, .gets _ _, .leaving goes _⟩
      · exact ⟨_, .gets _ _, .leaving goes _⟩
  | fetching goes prepared =>
    rcases h.of_awaiting with ⟨reply, rfl, rfl, rfl⟩ | ⟨rfl, rfl, rfl⟩
    · rcases afterReply_cases watch _ reply with ⟨issued, issues, rest⟩ | ⟨nothing, e, rest⟩
      · exact ⟨_, .obtains prepared issues, rest ▸ .dating goes issued⟩
      · exact ⟨_, .misses prepared nothing e, rest ▸ .leaving goes _⟩
    · exact ⟨.ended, .abandons (.inr (.inl rfl)), .abandoned⟩
  | dating goes issued =>
    cases h with
    | asks gives =>
      cases gives
      exact ⟨_, .dates issued, .keeping goes _⟩
    | abandons waits => cases waits
  | keeping goes token =>
    cases h with
    | asks gives =>
      cases gives
      exact ⟨_, .keeps token, .leaving goes _⟩
    | abandons waits => cases waits
  | leaving goes outcome =>
    cases h with
    | asks gives =>
      cases gives
      cases outcome with
      | ok token =>
        obtain ⟨prepared, go, rest, bears, further⟩ := goes.presents token
        exact ⟨_, .leaves token, rest ▸ .presenting bears further⟩
      | error e => exact ⟨_, .fails e, goes.fails e ▸ .ended _⟩
    | abandons waits => cases waits
  | presenting bears goes =>
    obtain ⟨rfl, ⟨request, rfl, rfl, rfl⟩ | ⟨reply, rfl, rfl, -⟩⟩ := h.of_send
    · have presented := bears request rfl
      exact ⟨_, .presents presented, .pending presented goes⟩
    · obtain ⟨p, further, rest⟩ := Authorised.describes (goes reply)
      exact ⟨p, .hears _ reply further, rest⟩
  | pending bears goes =>
    rcases h.of_awaiting with ⟨reply, rfl, rfl, rfl⟩ | ⟨rfl, rfl, rfl⟩
    · obtain ⟨p, further, rest⟩ := Authorised.describes (goes reply)
      exact ⟨p, .receives bears reply further, rest⟩
    · exact ⟨.ended, .abandons (.inr (.inr rfl)), .abandoned⟩

end RealmKeeper.Provider.Concurrent
