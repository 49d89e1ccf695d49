import RealmKeeper.Proofs.Awaiting
import RealmKeeper.Proofs.History
import RealmKeeper.Registration.Renewal

/-!
# Renewing a token: at most one repetition

The algorithm of one execution, told as rules about what the parties do and what follows from it.

* `Renews`: how a renewal ends, and `StaysPending`: it never ends;
* `SingleRetry`: the rules of one execution, and `NeverEnds`: it has no outcome;
* `Parties.executed`, `Parties.renewed`: the requests executed and the renewals begun in one
  execution;
* `perform_eq_iff_singleRetry`: an execution follows the rules, with no other outcome, unless it
  never ends; two requests and one renewal are the most.
-/

namespace RealmKeeper.Context

/-- The context is for the client: its identity is given and not blank. -/
def Names (context : Context) (clientId : String) : Prop :=
  context.identity = some clientId ∧ Text.isAllBlank clientId.toList = false

theorem clientId?_eq_some_iff {context : Context} {clientId : String} :
    context.clientId? = some clientId ↔ context.Names clientId := by
  simp [clientId?, Names, Option.filter_eq_some_iff]

theorem clientId?_eq_none_iff {context : Context} :
    context.clientId? = none ↔ ∀ clientId, ¬ context.Names clientId := by
  simp only [← clientId?_eq_some_iff, Option.eq_none_iff_forall_ne_some, ne_eq]

end RealmKeeper.Context

namespace RealmKeeper.Registration.Renewal

open RealmKeeper.Http RealmKeeper.Admin

variable {R σ : Type} {parties : Parties R σ} {refresher : Option R} {context : Context}
  {request : Request}

/-! ### The rules -/

/-- The parties execute a request, with an outcome and with what is the case after it. -/
def Parties.Executes (parties : Parties R σ) (request : Request) (start : σ × Cancellations)
    (outcome : Outcome) (finish : σ × Cancellations) : Prop :=
  ∃ cancels state, parties.execute request start.1 = ((outcome, cancels), state) ∧
    finish = (state, cancels.foldl .add start.2)

/-- How a renewal ends. -/
inductive Ending where
  | cancelled
  | failed
  | token (text : String)

/-- **The end of a renewal** under a context: the clients for which one is begun, how it ends, and
what is the case after it. -/
inductive Renews (parties : Parties R σ) (renewer : R) (clientId : String) (context : Context) :
    σ × Cancellations → List String → Ending → σ × Cancellations → Prop
  /-- The context is cancelled when the renewal would begin. -/
  | before {start : σ × Cancellations} (covered : start.2.covers context.domain = true) :
      Renews parties renewer clientId context start [] .cancelled start
  /-- It is cancelled while the renewal is pending. -/
  | meanwhile {start : σ × Cancellations}
      {polls : List (Context.Poll (Except AdminError String))} {state : σ} {after : Cancellations}
      (begun : parties.refresh renewer clientId start.1 = (polls, state))
      (cut : context.CutShort polls start.2 after) :
      Renews parties renewer clientId context start [clientId] .cancelled (state, after)
  /-- Those who renew tokens say that they were cancelled. -/
  | inside {start : σ × Cancellations}
      {polls : List (Context.Poll (Except AdminError String))} {state : σ} {after : Cancellations}
      {operation : String}
      (begun : parties.refresh renewer clientId start.1 = (polls, state))
      (finishes : context.Finishes polls start.2 (.error (.cancelled operation)) after) :
      Renews parties renewer clientId context start [clientId] .cancelled (state, after)
  /-- They fail in another way. -/
  | failed {start : σ × Cancellations}
      {polls : List (Context.Poll (Except AdminError String))} {state : σ} {after : Cancellations}
      {cause : AdminError}
      (begun : parties.refresh renewer clientId start.1 = (polls, state))
      (finishes : context.Finishes polls start.2 (.error cause) after)
      (other : ∀ operation, cause ≠ .cancelled operation) :
      Renews parties renewer clientId context start [clientId] .failed (state, after)
  /-- They give a token. -/
  | token {start : σ × Cancellations}
      {polls : List (Context.Poll (Except AdminError String))} {state : σ} {after : Cancellations}
      {text : String}
      (begun : parties.refresh renewer clientId start.1 = (polls, state))
      (finishes : context.Finishes polls start.2 (.ok text) after) :
      Renews parties renewer clientId context start [clientId] (.token text) (state, after)

/-- **The renewal stays pending for ever**: it has no result, and nobody cancels the context. -/
def StaysPending (parties : Parties R σ) (renewer : R) (clientId : String) (context : Context)
    (start finish : σ × Cancellations) : Prop :=
  ∃ polls state, parties.refresh renewer clientId start.1 = (polls, state) ∧
    context.Pending polls start.2 ∧ finish = (state, Context.cancelledBy polls start.2)

/-- **A request is refused, and the token can be renewed**: there is somebody to renew it, the
context is for a client, and the response says that the request is not authorised. -/
structure Refused (parties : Parties R σ) (refresher : Option R) (context : Context)
    (request : Request) (start : σ × Cancellations) (renewer : R) (clientId : String)
    (first : Response) (middle : σ × Cancellations) : Prop where
  somebody : refresher = some renewer
  named : context.Names clientId
  execution : parties.Executes request start (.ok first) middle
  status : first.status = 401

/-- The body of a request is produced while it is sent. -/
def IsStreamed (request : Request) : Prop :=
  ∃ bs, request.body = .stream bs

/-- **The rules of one execution**: the requests that are executed, the clients for which a renewal
is begun, the outcome, and what is the case after it. -/
inductive SingleRetry (parties : Parties R σ) (refresher : Option R) (context : Context)
    (request : Request) :
    σ × Cancellations → List Request → List String → Outcome → σ × Cancellations → Prop
  /-- Nobody renews tokens, or the context is for no client. -/
  | plain {start finish : σ × Cancellations} {outcome : Outcome}
      (nobody : refresher = none ∨ ∀ clientId, ¬ context.Names clientId)
      (execution : parties.Executes request start outcome finish) :
      SingleRetry parties refresher context request start [request] [] outcome finish
  /-- The request fails. -/
  | failed {start finish : σ × Cancellations} {cause : TransportError}
      (execution : parties.Executes request start (.error cause) finish) :
      SingleRetry parties refresher context request start [request] [] (.error cause) finish
  /-- The response has another status than that of a refusal. -/
  | answered {start finish : σ × Cancellations} {first : Response}
      (execution : parties.Executes request start (.ok first) finish)
      (other : first.status ≠ 401) :
      SingleRetry parties refresher context request start [request] [] (.ok first) finish
  /-- The renewal is cancelled, and so is the execution. -/
  | cancelled {start middle finish : σ × Cancellations} {renewer : R} {clientId : String}
      {first : Response} {renewed : List String}
      (refused : Refused parties refresher context request start renewer clientId first middle)
      (renewal : Renews parties renewer clientId context middle renewed .cancelled finish) :
      SingleRetry parties refresher context request start [request] renewed
        (.error .cancelled) finish
  /-- The renewal fails: the first response stands. -/
  | original {start middle finish : σ × Cancellations} {renewer : R} {clientId : String}
      {first : Response} {renewed : List String}
      (refused : Refused parties refresher context request start renewer clientId first middle)
      (renewal : Renews parties renewer clientId context middle renewed .failed finish) :
      SingleRetry parties refresher context request start [request] renewed (.ok first) finish
  /-- There is a token, but the body of the request is gone. -/
  | notReplayable {start middle finish : σ × Cancellations} {renewer : R} {clientId : String}
      {first : Response} {renewed : List String} {token : String}
      (refused : Refused parties refresher context request start renewer clientId first middle)
      (renewal : Renews parties renewer clientId context middle renewed (.token token) finish)
      (streamed : IsStreamed request) :
      SingleRetry parties refresher context request start [request] renewed
        (.error .bodyNotReplayable) finish
  /-- There is a token, but no header field can hold it. -/
  | invalidCredential {start middle finish : σ × Cancellations} {renewer : R} {clientId : String}
      {first : Response} {renewed : List String} {token : String}
      (refused : Refused parties refresher context request start renewer clientId first middle)
      (renewal : Renews parties renewer clientId context middle renewed (.token token) finish)
      (kept : ¬ IsStreamed request)
      (illegal : HeaderValue.ofString? ("Bearer " ++ token) = none) :
      SingleRetry parties refresher context request start [request] renewed
        (.error .invalidCredential) finish
  /-- There is a token: the request is executed once more with it, and what comes of that is the
  outcome, whatever it is. -/
  | repeated {start middle next finish : σ × Cancellations} {renewer : R} {clientId : String}
      {first : Response} {renewed : List String} {token : String} {credential : HeaderValue}
      {outcome : Outcome}
      (refused : Refused parties refresher context request start renewer clientId first middle)
      (renewal : Renews parties renewer clientId context middle renewed (.token token) next)
      (kept : ¬ IsStreamed request)
      (legal : HeaderValue.ofString? ("Bearer " ++ token) = some credential)
      (execution : parties.Executes (request.withField "authorization" credential) next outcome
        finish) :
      SingleRetry parties refresher context request start
        [request, request.withField "authorization" credential] renewed outcome finish

/-- **An execution that never ends**: the request is refused, and the renewal for the client of the
context stays pending for ever. -/
def NeverEnds (parties : Parties R σ) (refresher : Option R) (context : Context)
    (request : Request) (start : σ × Cancellations) (clientId : String)
    (finish : σ × Cancellations) : Prop :=
  ∃ renewer first middle,
    Refused parties refresher context request start renewer clientId first middle ∧
      StaysPending parties renewer clientId context middle finish

/-! ### What is seen of an execution -/

/-- The request that a question asks to execute. -/
def executed? : Question R × σ × Cancellations → Option Request
  | (.execute request, _) => some request
  | (.refresh _ _, _) => none

/-- The client for which a question makes the parties begin a renewal; none is begun under a
cancelled context. -/
def renewed? (context : Context) : Question R × σ × Cancellations → Option String
  | (.execute _, _) => none
  | (.refresh _ clientId, _, cancellations) =>
    if cancellations.covers context.domain then none else some clientId

/-- **The requests that are executed** in one execution, in order. -/
def Parties.executed (parties : Parties R σ) (refresher : Option R) (context : Context)
    (request : Request) (start : σ × Cancellations) : List Request :=
  ((Renewal.execute refresher context request).orNothing.history (parties.answer context)
    start).filterMap executed?

/-- **The clients for which a renewal is begun** in one execution, in order. -/
def Parties.renewed (parties : Parties R σ) (refresher : Option R) (context : Context)
    (request : Request) (start : σ × Cancellations) : List String :=
  ((Renewal.execute refresher context request).orNothing.history (parties.answer context)
    start).filterMap (renewed? context)

/-- What is seen of a dialogue: the requests executed, the renewals begun, and its outcome, if there
is one. -/
structure Parties.Shows (parties : Parties R σ) (context : Context)
    (d : Dialog (Answer (R := R)) Outcome) (start : σ × Cancellations) (executed : List Request)
    (renewed : List String) (outcome : Option Outcome) (finish : σ × Cancellations) : Prop where
  ending : d.orNothing.run (parties.answer context) start = (outcome, finish)
  executed_eq :
    (d.orNothing.history (parties.answer context) start).filterMap executed? = executed
  renewed_eq :
    (d.orNothing.history (parties.answer context) start).filterMap (renewed? context) = renewed

theorem Parties.shows_done (outcome : Outcome) (start : σ × Cancellations) :
    parties.Shows context (.done outcome) start [] [] (some outcome) start :=
  ⟨rfl, rfl, rfl⟩

theorem Parties.Executes.answer_eq {start finish : σ × Cancellations} {outcome : Outcome}
    (h : parties.Executes request start outcome finish) (context : Context) :
    parties.answer context (.execute request) start = (some outcome, finish) := by
  obtain ⟨cancels, state, he, rfl⟩ := h
  simp only [Parties.answer, he]

theorem Parties.Executes.shows {start middle finish : σ × Cancellations} {first : Outcome}
    {next : Answer (R := R) (.execute request) → Dialog (Answer (R := R)) Outcome}
    {executed : List Request} {renewed : List String} {outcome : Option Outcome}
    (h : parties.Executes request start first middle)
    (hn : parties.Shows context (next first) middle executed renewed outcome finish) :
    parties.Shows context (.ask (.execute request) next) start (request :: executed) renewed
      outcome finish := by
  have ha := h.answer_eq context
  refine ⟨?_, ?_, ?_⟩
  · rw [Dialog.run_orNothing_of_some _ ha]
    exact hn.ending
  · rw [Dialog.history_orNothing_of_some _ ha]
    exact congrArg (request :: ·) hn.executed_eq
  · rw [Dialog.history_orNothing_of_some _ ha]
    exact hn.renewed_eq

/-! ### Renewals -/

/-- What an answer about a token says of the end of the renewal. -/
def Ending.ofAnswer : Option (Except AdminError String) → Ending
  | none => .cancelled
  | some (.error cause) => if cause.isCancelled then .cancelled else .failed
  | some (.ok text) => .token text

/-- How the execution goes on after a renewal. -/
def Ending.goOn (request : Request) (first : Response) :
    Ending → Dialog (Answer (R := R)) Outcome
  | .cancelled => .done (.error .cancelled)
  | .failed => .done (.ok first)
  | .token text => repeatWith request text

theorem afterRefresh_eq_goOn (request : Request) (first : Response)
    (answer : Option (Except AdminError String)) :
    afterRefresh (R := R) request first answer = (Ending.ofAnswer answer).goOn request first := by
  match answer with
  | none => rfl
  | some (.error cause) =>
    cases h : cause.isCancelled <;> simp [afterRefresh, Ending.ofAnswer, h, Ending.goOn]
  | some (.ok text) => rfl

theorem isCancelled_eq_false {cause : AdminError} (h : ∀ operation, cause ≠ .cancelled operation) :
    cause.isCancelled = false := by
  cases cause with
  | cancelled operation => exact absurd rfl (h operation)
  | _ => rfl

theorem renewed?_of_live {renewer : R} {clientId : String} {start : σ × Cancellations}
    (h : start.2.covers context.domain = false) :
    renewed? context (.refresh renewer clientId, start) = some clientId := by
  simp [renewed?, h]

theorem Parties.answer_of_finishes {renewer : R} {clientId : String}
    {start : σ × Cancellations} {polls : List (Context.Poll (Except AdminError String))} {state : σ}
    {result : Except AdminError String} {after : Cancellations}
    (begun : parties.refresh renewer clientId start.1 = (polls, state))
    (finishes : context.Finishes polls start.2 result after) :
    parties.answer context (.refresh renewer clientId) start =
      (some (some result), state, after) := by
  simp [Parties.answer, finishes.live, begun, Context.run_of_finishes finishes]

/-- **A renewal as it is answered**: what is answered says how it ends, and the renewals begun are
those that are seen. -/
theorem Renews.answer_eq {renewer : R} {clientId : String} {start finish : σ × Cancellations}
    {renewed : List String} {ending : Ending}
    (h : Renews parties renewer clientId context start renewed ending finish) :
    ∃ answer, parties.answer context (.refresh renewer clientId) start = (some answer, finish) ∧
      Ending.ofAnswer answer = ending ∧
      (renewed? context (.refresh renewer clientId, start)).toList = renewed := by
  cases h with
  | before covered =>
    exact ⟨none, by simp [Parties.answer, covered], rfl, by simp [renewed?, covered]⟩
  | meanwhile begun cut =>
    refine ⟨none, ?_, rfl, by rw [renewed?_of_live cut.live]; rfl⟩
    simp [Parties.answer, cut.live, begun, Context.run_of_cutShort cut]
  | inside begun finishes =>
    exact ⟨_, Parties.answer_of_finishes begun finishes, rfl,
      by rw [renewed?_of_live finishes.live]; rfl⟩
  | failed begun finishes other =>
    refine ⟨_, Parties.answer_of_finishes begun finishes, ?_,
      by rw [renewed?_of_live finishes.live]; rfl⟩
    simp [Ending.ofAnswer, isCancelled_eq_false other]
  | token begun finishes =>
    exact ⟨_, Parties.answer_of_finishes begun finishes, rfl,
      by rw [renewed?_of_live finishes.live]; rfl⟩

/-- A renewal that stays pending is begun, and never answered. -/
theorem StaysPending.answer_eq {renewer : R} {clientId : String} {start finish : σ × Cancellations}
    (h : StaysPending parties renewer clientId context start finish) :
    parties.answer context (.refresh renewer clientId) start = (none, finish) ∧
      renewed? context (.refresh renewer clientId, start) = some clientId := by
  obtain ⟨polls, state, begun, pending, rfl⟩ := h
  refine ⟨?_, renewed?_of_live pending.live⟩
  simp [Parties.answer, pending.live, begun, Context.run_of_pending pending]

/-- Every renewal has an end, or it stays pending for ever. -/
theorem renews_or_staysPending (parties : Parties R σ) (renewer : R) (clientId : String)
    (context : Context) (start : σ × Cancellations) :
    (∃ renewed ending finish,
        Renews parties renewer clientId context start renewed ending finish) ∨
      ∃ finish, StaysPending parties renewer clientId context start finish := by
  cases hlive : start.2.covers context.domain with
  | true => exact .inl ⟨_, _, _, .before hlive⟩
  | false =>
    obtain ⟨polls, state, begun⟩ : ∃ polls state,
        parties.refresh renewer clientId start.1 = (polls, state) := ⟨_, _, rfl⟩
    rcases Context.ends polls hlive with ⟨result, after, h⟩ | ⟨after, h⟩ | h
    · cases result with
      | ok text => exact .inl ⟨_, _, _, .token begun h⟩
      | error cause =>
        by_cases hc : ∃ operation, cause = .cancelled operation
        · obtain ⟨operation, rfl⟩ := hc
          exact .inl ⟨_, _, _, .inside begun h⟩
        · exact .inl ⟨_, _, _, .failed begun h (not_exists.mp hc)⟩
    · exact .inl ⟨_, _, _, .meanwhile begun h⟩
    · exact .inr ⟨_, polls, state, begun, h, rfl⟩

theorem Renews.shows {renewer : R} {clientId : String} {start middle finish : σ × Cancellations}
    {first : Response} {executed : List Request} {begun renewed : List String} {ending : Ending}
    {outcome : Option Outcome}
    (h : Renews parties renewer clientId context start begun ending middle)
    (hn : parties.Shows context (ending.goOn request first) middle executed renewed outcome
      finish) :
    parties.Shows context (.ask (.refresh renewer clientId) (afterRefresh request first)) start
      executed (begun ++ renewed) outcome finish := by
  obtain ⟨answer, ha, rfl, rfl⟩ := h.answer_eq
  rw [← afterRefresh_eq_goOn] at hn
  refine ⟨?_, ?_, ?_⟩
  · rw [Dialog.run_orNothing_of_some _ ha]
    exact hn.ending
  · rw [Dialog.history_orNothing_of_some _ ha]
    exact hn.executed_eq
  · rw [Dialog.history_orNothing_of_some _ ha, ← hn.renewed_eq]
    cases hb : renewed? context (.refresh renewer clientId, start) with
    | none => exact List.filterMap_cons_none hb
    | some begun => exact List.filterMap_cons_some hb

theorem StaysPending.shows {renewer : R} {clientId : String} {start finish : σ × Cancellations}
    (h : StaysPending parties renewer clientId context start finish) (first : Response) :
    parties.Shows context (.ask (.refresh renewer clientId) (afterRefresh request first)) start
      [] [clientId] none finish := by
  obtain ⟨ha, hb⟩ := h.answer_eq
  refine ⟨Dialog.run_orNothing_of_none _ ha, ?_, ?_⟩
  · rw [Dialog.history_orNothing_of_none _ ha]
    rfl
  · rw [Dialog.history_orNothing_of_none _ ha, List.filterMap_cons_some hb]
    rfl

/-! ### The request with the new token -/

theorem replayable_iff {request : Request} : request.replayable = true ↔ ¬ IsStreamed request := by
  unfold Request.replayable IsStreamed
  cases request.body <;> simp

theorem repeatWith_of_streamed (token : String) (h : IsStreamed request) :
    repeatWith (R := R) request token = .done (.error .bodyNotReplayable) := by
  have hr : request.replayable = false := by
    rw [← Bool.not_eq_true, replayable_iff, not_not]
    exact h
  rw [repeatWith, hr]
  rfl

theorem repeatWith_of_illegal {token : String} (h : ¬ IsStreamed request)
    (illegal : HeaderValue.ofString? ("Bearer " ++ token) = none) :
    repeatWith (R := R) request token = .done (.error .invalidCredential) := by
  rw [repeatWith, if_pos (replayable_iff.mpr h), bearer?, illegal]

theorem repeatWith_of_legal {token : String} {credential : HeaderValue} (h : ¬ IsStreamed request)
    (legal : HeaderValue.ofString? ("Bearer " ++ token) = some credential) :
    repeatWith (R := R) request token =
      .ask (.execute (request.withField "authorization" credential)) .done := by
  rw [repeatWith, if_pos (replayable_iff.mpr h), bearer?, legal]

/-! ### Executions -/

theorem somebody_or_nobody (refresher : Option R) (context : Context) :
    (∃ renewer clientId, refresher = some renewer ∧ context.Names clientId) ∨
      (refresher = none ∨ ∀ clientId, ¬ context.Names clientId) := by
  cases refresher with
  | none => exact .inr (.inl rfl)
  | some renewer =>
    by_cases named : ∃ clientId, context.Names clientId
    · obtain ⟨clientId, named⟩ := named
      exact .inl ⟨renewer, clientId, rfl, named⟩
    · exact .inr (.inr (not_exists.mp named))

theorem execute_of_nobody (request : Request)
    (h : refresher = none ∨ ∀ clientId, ¬ context.Names clientId) :
    execute refresher context request = .ask (.execute request) .done := by
  rcases h with rfl | h
  · rfl
  · unfold execute
    rw [Context.clientId?_eq_none_iff.mpr h]
    cases refresher <;> rfl

/-- How an execution goes on after the first outcome, where a token can be renewed. -/
def afterFirst (renewer : R) (clientId : String) (request : Request) :
    Outcome → Dialog (Answer (R := R)) Outcome
  | .error cause => .done (.error cause)
  | .ok first =>
    if first.status = unauthorized then
      .ask (.refresh renewer clientId) (afterRefresh request first)
    else .done (.ok first)

theorem execute_of_names {renewer : R} {clientId : String} (request : Request)
    (h : context.Names clientId) :
    execute (some renewer) context request =
      .ask (.execute request) (afterFirst renewer clientId request) := by
  unfold execute
  rw [Context.clientId?_eq_some_iff.mpr h]
  show Dialog.ask _ _ = _
  congr 1
  funext outcome
  cases outcome <;> rfl

theorem afterFirst_of_refused {renewer : R} {clientId : String} {first : Response}
    (h : first.status = 401) :
    afterFirst renewer clientId request (.ok first) =
      .ask (.refresh renewer clientId) (afterRefresh request first) :=
  if_pos h

theorem afterFirst_of_other {renewer : R} {clientId : String} {first : Response}
    (h : first.status ≠ 401) :
    afterFirst renewer clientId request (.ok first) = .done (.ok first) :=
  if_neg h

theorem Refused.shows_ask {start middle finish : σ × Cancellations} {renewer : R}
    {clientId : String} {first : Response} {executed : List Request} {renewed : List String}
    {outcome : Option Outcome}
    (refused : Refused parties refresher context request start renewer clientId first middle)
    (hn : parties.Shows context (.ask (.refresh renewer clientId) (afterRefresh request first))
      middle executed renewed outcome finish) :
    parties.Shows context (execute refresher context request) start (request :: executed) renewed
      outcome finish := by
  rw [refused.somebody, execute_of_names request refused.named]
  refine refused.execution.shows ?_
  rw [afterFirst_of_refused refused.status]
  exact hn

theorem Refused.shows {start middle next finish : σ × Cancellations} {renewer : R}
    {clientId : String} {first : Response} {executed : List Request} {begun renewed : List String}
    {ending : Ending} {outcome : Option Outcome}
    (refused : Refused parties refresher context request start renewer clientId first middle)
    (renewal : Renews parties renewer clientId context middle begun ending next)
    (hn : parties.Shows context (ending.goOn request first) next executed renewed outcome finish) :
    parties.Shows context (execute refresher context request) start (request :: executed)
      (begun ++ renewed) outcome finish :=
  refused.shows_ask (renewal.shows hn)

theorem NeverEnds.shows {start finish : σ × Cancellations} {clientId : String}
    (h : NeverEnds parties refresher context request start clientId finish) :
    parties.Shows context (execute refresher context request) start [request] [clientId] none
      finish := by
  obtain ⟨renewer, first, middle, refused, pending⟩ := h
  exact refused.shows_ask (pending.shows first)

theorem Refused.shows_done {start middle finish : σ × Cancellations} {renewer : R}
    {clientId : String} {first : Response} {begun : List String} {ending : Ending}
    {outcome : Outcome}
    (refused : Refused parties refresher context request start renewer clientId first middle)
    (renewal : Renews parties renewer clientId context middle begun ending finish)
    (ends : ending.goOn (R := R) request first = .done outcome) :
    parties.Shows context (execute refresher context request) start [request] begun
      (some outcome) finish := by
  have h := refused.shows renewal (ends ▸ Parties.shows_done outcome finish)
  rwa [List.append_nil] at h

theorem Parties.Executes.shows_execute {start finish : σ × Cancellations} {outcome : Outcome}
    (h : parties.Executes request start outcome finish)
    (stands : ∀ first, outcome = .ok first → first.status ≠ 401) :
    parties.Shows context (Renewal.execute refresher context request) start [request] []
      (some outcome) finish := by
  rcases somebody_or_nobody refresher context with ⟨renewer, clientId, rfl, named⟩ | nobody
  · rw [execute_of_names request named]
    refine h.shows ?_
    cases outcome with
    | error cause => exact Parties.shows_done _ finish
    | ok first =>
      rw [afterFirst_of_other (stands first rfl)]
      exact Parties.shows_done _ finish
  · rw [execute_of_nobody request nobody]
    exact h.shows (Parties.shows_done outcome finish)

/-- **An execution shows what the rules say.** -/
theorem SingleRetry.shows {start finish : σ × Cancellations} {executed : List Request}
    {renewed : List String} {outcome : Outcome}
    (h : SingleRetry parties refresher context request start executed renewed outcome finish) :
    parties.Shows context (execute refresher context request) start executed renewed
      (some outcome) finish := by
  cases h with
  | plain nobody execution =>
    rw [execute_of_nobody request nobody]
    exact execution.shows (Parties.shows_done outcome finish)
  | failed execution => exact execution.shows_execute (by simp)
  | answered execution other => exact execution.shows_execute (by rintro _ ⟨⟩; exact other)
  | cancelled refused renewal => exact refused.shows_done renewal rfl
  | original refused renewal => exact refused.shows_done renewal rfl
  | notReplayable refused renewal streamed =>
    exact refused.shows_done renewal (repeatWith_of_streamed _ streamed)
  | invalidCredential refused renewal kept illegal =>
    exact refused.shows_done renewal (repeatWith_of_illegal kept illegal)
  | repeated refused renewal kept legal execution =>
    have h := refused.shows renewal (by
      rw [Ending.goOn, repeatWith_of_legal kept legal]
      exact execution.shows (Parties.shows_done _ finish))
    rwa [List.append_nil] at h

/-- **Every execution has its rule**, unless it never ends. -/
theorem singleRetry_or_neverEnds (parties : Parties R σ) (refresher : Option R) (context : Context)
    (request : Request) (start : σ × Cancellations) :
    (∃ executed renewed outcome finish,
        SingleRetry parties refresher context request start executed renewed outcome finish) ∨
      ∃ clientId finish, NeverEnds parties refresher context request start clientId finish := by
  obtain ⟨outcome, middle, execution⟩ : ∃ outcome middle,
      parties.Executes request start outcome middle := ⟨_, _, _, _, rfl, rfl⟩
  -- the questions in the order in which they are put, up to the one that settles the rule
  rcases somebody_or_nobody refresher context with
    ⟨renewer, clientId, somebody, named⟩ | nobody
  swap
  · exact .inl ⟨_, _, _, _, .plain nobody execution⟩
  cases outcome with
  | error cause => exact .inl ⟨_, _, _, _, .failed execution⟩
  | ok first =>
    by_cases status : first.status = 401
    swap
    · exact .inl ⟨_, _, _, _, .answered execution status⟩
    have refused : Refused parties refresher context request start renewer clientId first middle :=
      ⟨somebody, named, execution, status⟩
    rcases renews_or_staysPending parties renewer clientId context middle with
      ⟨renewed, ending, next, renewal⟩ | ⟨finish, pending⟩
    swap
    · exact .inr ⟨clientId, finish, renewer, first, middle, refused, pending⟩
    cases ending with
    | cancelled => exact .inl ⟨_, _, _, _, .cancelled refused renewal⟩
    | failed => exact .inl ⟨_, _, _, _, .original refused renewal⟩
    | token text =>
      by_cases streamed : IsStreamed request
      · exact .inl ⟨_, _, _, _, .notReplayable refused renewal streamed⟩
      cases legal : HeaderValue.ofString? ("Bearer " ++ text) with
      | none => exact .inl ⟨_, _, _, _, .invalidCredential refused renewal streamed legal⟩
      | some credential =>
        obtain ⟨second, finish, again⟩ : ∃ second finish,
            parties.Executes (request.withField "authorization" credential) next second finish :=
          ⟨_, _, _, _, rfl, rfl⟩
        exact .inl ⟨_, _, _, _, .repeated refused renewal streamed legal again⟩

/-! ### Bounds -/

theorem Renews.length_le {renewer : R} {clientId : String} {start finish : σ × Cancellations}
    {renewed : List String} {ending : Ending}
    (h : Renews parties renewer clientId context start renewed ending finish) :
    renewed.length ≤ 1 := by
  cases h <;> simp

theorem SingleRetry.length_le {start finish : σ × Cancellations} {executed : List Request}
    {renewed : List String} {outcome : Outcome}
    (h : SingleRetry parties refresher context request start executed renewed outcome finish) :
    executed.length ≤ 2 ∧ renewed.length ≤ 1 := by
  cases h with
  | plain | failed | answered => simp
  | cancelled _ renewal | original _ renewal | notReplayable _ renewal | invalidCredential _ renewal
  | repeated _ renewal => exact ⟨by simp, renewal.length_le⟩

theorem exists_shows (parties : Parties R σ) (refresher : Option R) (context : Context)
    (request : Request) (start : σ × Cancellations) :
    (∃ outcome finish, SingleRetry parties refresher context request start
        (parties.executed refresher context request start)
        (parties.renewed refresher context request start) outcome finish) ∨
      ∃ clientId finish, parties.executed refresher context request start = [request] ∧
        parties.renewed refresher context request start = [clientId] ∧
          NeverEnds parties refresher context request start clientId finish := by
  rcases singleRetry_or_neverEnds parties refresher context request start with
    ⟨executed, renewed, outcome, finish, h⟩ | ⟨clientId, finish, h⟩
  · obtain ⟨-, rfl, rfl⟩ := h.shows
    exact .inl ⟨outcome, finish, h⟩
  · exact .inr ⟨clientId, finish, h.shows.executed_eq, h.shows.renewed_eq, h⟩

theorem length_seen_le (parties : Parties R σ) (refresher : Option R) (context : Context)
    (request : Request) (start : σ × Cancellations) :
    (parties.executed refresher context request start).length ≤ 2 ∧
      (parties.renewed refresher context request start).length ≤ 1 := by
  rcases exists_shows parties refresher context request start with
    ⟨_, _, h⟩ | ⟨_, _, executed, renewed, -⟩
  · exact h.length_le
  · simp [executed, renewed]

theorem perform_eq_some_iff {start finish : σ × Cancellations} {outcome : Outcome} :
    parties.perform refresher context request start = (some outcome, finish) ↔
      SingleRetry parties refresher context request start
        (parties.executed refresher context request start)
        (parties.renewed refresher context request start) outcome finish := by
  refine ⟨fun performed => ?_, fun h => h.shows.ending⟩
  rcases exists_shows parties refresher context request start with
    ⟨outcome', finish', h⟩ | ⟨_, _, -, -, h⟩
  · obtain ⟨⟩ := performed.symm.trans h.shows.ending
    exact h
  · cases performed.symm.trans h.shows.ending

theorem perform_eq_none_iff {start finish : σ × Cancellations} :
    parties.perform refresher context request start = (none, finish) ↔
      ∃ clientId, parties.executed refresher context request start = [request] ∧
        parties.renewed refresher context request start = [clientId] ∧
          NeverEnds parties refresher context request start clientId finish := by
  refine ⟨fun performed => ?_, fun ⟨_, _, _, h⟩ => h.shows.ending⟩
  rcases exists_shows parties refresher context request start with
    ⟨_, _, h⟩ | ⟨clientId, finish', executed, renewed, h⟩
  · cases performed.symm.trans h.shows.ending
  · obtain ⟨⟩ := performed.symm.trans h.shows.ending
    exact ⟨clientId, executed, renewed, h⟩

/-- **An execution follows the rules of a single repetition**: at most two requests are executed
and at most one renewal is begun, and the outcome, with what is the case after it, is the one that
the rules give, and no other. There is no outcome exactly if the renewal of a refused token stays
pending for ever; then one request is executed. -/
theorem perform_eq_iff_singleRetry (parties : Parties R σ) (refresher : Option R)
    (context : Context) (request : Request) (start : σ × Cancellations) :
    (parties.executed refresher context request start).length ≤ 2 ∧
      (parties.renewed refresher context request start).length ≤ 1 ∧
      (∀ outcome finish,
        parties.perform refresher context request start = (some outcome, finish) ↔
          SingleRetry parties refresher context request start
            (parties.executed refresher context request start)
            (parties.renewed refresher context request start) outcome finish) ∧
      ∀ finish, parties.perform refresher context request start = (none, finish) ↔
        ∃ clientId, parties.executed refresher context request start = [request] ∧
          parties.renewed refresher context request start = [clientId] ∧
            NeverEnds parties refresher context request start clientId finish := by
  obtain ⟨executions, renewals⟩ := length_seen_le parties refresher context request start
  exact ⟨executions, renewals, fun _ _ => perform_eq_some_iff, fun _ => perform_eq_none_iff⟩

end RealmKeeper.Registration.Renewal
