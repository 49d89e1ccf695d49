import RealmKeeper.Proofs.SingleRetry

/-!
# The course of an execution

How far an execution can have come that is taken step by step, whatever goes on beside it.

* `Stage` and `Moves`: where an execution is, and its steps; between them its context may be
  cancelled at any time;
* `Course`: what it has done and what was answered to it at each place, and `Course.moves`: its
  steps lead from place to place;
* `Parties.replaying`: parties that answer what was answered to it;
* `Course.shows` and `Course.acts_eq`: an execution that is done has done, and has come to, what the
  algorithm does and comes to with these parties, in the same order.
-/

namespace RealmKeeper.Registration.Renewal

open RealmKeeper.Http RealmKeeper.Admin

variable {R : Type}

/-! ### Steps -/

/-- What an execution does. -/
inductive Act where
  | executes (request : Request)
  | renews (clientId : String)

/-- **What is answered to an execution.** -/
inductive Received where
  | outcome (request : Request) (outcome : Outcome)
  | result (result : Except AdminError String)
  /-- The context is cancelled when a renewal would begin. -/
  | turnedAway
  /-- The context is cancelled while a renewal is pending. -/
  | cutOff

/-- What happens in an execution. -/
inductive Happening where
  | begins (act : Act)
  | receives (received : Received)

namespace Happening

def act? : Happening → Option Act
  | .begins act => some act
  | .receives _ => none

def received? : Happening → Option Received
  | .begins _ => none
  | .receives received => some received

end Happening

/-- **Where an execution is.** -/
inductive Stage (R : Type) where
  /-- It asks its next question, or it is done. -/
  | doing (rest : Dialog (Answer (R := R)) Outcome)
  | executing (request : Request) (next : Outcome → Dialog (Answer (R := R)) Outcome)
  | renewing (clientId : String)
      (next : Option (Except AdminError String) → Dialog (Answer (R := R)) Outcome)

/-- **A step of an execution**, whose context is cancelled or not. A renewal is looked at only as
long as it is not. -/
inductive Moves (covered : Bool) : Stage R → Happening → Stage R → Prop
  | executes (request : Request) (next : Outcome → Dialog (Answer (R := R)) Outcome) :
      Moves covered (.doing (.ask (.execute request) next)) (.begins (.executes request))
        (.executing request next)
  | answered (request : Request) (next : Outcome → Dialog (Answer (R := R)) Outcome)
      (outcome : Outcome) :
      Moves covered (.executing request next) (.receives (.outcome request outcome))
        (.doing (next outcome))
  | renews (renewer : R) (clientId : String)
      (next : Option (Except AdminError String) → Dialog (Answer (R := R)) Outcome)
      (live : covered = false) :
      Moves covered (.doing (.ask (.refresh renewer clientId) next)) (.begins (.renews clientId))
        (.renewing clientId next)
  | turnedAway (renewer : R) (clientId : String)
      (next : Option (Except AdminError String) → Dialog (Answer (R := R)) Outcome)
      (cancelled : covered = true) :
      Moves covered (.doing (.ask (.refresh renewer clientId) next)) (.receives .turnedAway)
        (.doing (next none))
  | renewed (clientId : String)
      (next : Option (Except AdminError String) → Dialog (Answer (R := R)) Outcome)
      (result : Except AdminError String) (live : covered = false) :
      Moves covered (.renewing clientId next) (.receives (.result result))
        (.doing (next (some result)))
  | cutOff (clientId : String)
      (next : Option (Except AdminError String) → Dialog (Answer (R := R)) Outcome)
      (cancelled : covered = true) :
      Moves covered (.renewing clientId next) (.receives .cutOff) (.doing (next none))

/-! ### Places -/

section Places

variable {refresher : Option R} {context : Context} {request : Request}

/-- **A response is refused**, and the token can be renewed. -/
structure Refusal (refresher : Option R) (context : Context) (renewer : R) (clientId : String)
    (first : Response) : Prop where
  somebody : refresher = some renewer
  named : context.Names clientId
  status : first.status = 401

/-- How an execution goes on after its first outcome. -/
def following (refresher : Option R) (context : Context) (request : Request) :
    Outcome → Dialog (Answer (R := R)) Outcome :=
  match refresher, context.clientId? with
  | some renewer, some clientId => afterFirst renewer clientId request
  | _, _ => .done

theorem following_of_names {renewer : R} {clientId : String} (request : Request)
    (named : context.Names clientId) :
    following (some renewer) context request = afterFirst renewer clientId request := by
  unfold following
  rw [Context.clientId?_eq_some_iff.mpr named]

theorem following_of_nobody (request : Request)
    (nobody : refresher = none ∨ ∀ clientId, ¬ context.Names clientId) :
    following refresher context request = .done := by
  rcases nobody with rfl | nobody
  · rfl
  · unfold following
    rw [Context.clientId?_eq_none_iff.mpr nobody]
    cases refresher <;> rfl

theorem execute_eq (refresher : Option R) (context : Context) (request : Request) :
    execute refresher context request =
      .ask (.execute request) (following refresher context request) := by
  rcases somebody_or_nobody refresher context with ⟨renewer, clientId, rfl, named⟩ | nobody
  · rw [execute_of_names request named, following_of_names request named]
  · rw [execute_of_nobody request nobody, following_of_nobody request nobody]

theorem following_cases (refresher : Option R) (context : Context) (request : Request)
    (outcome : Outcome) :
    ((refresher = none ∨ ∀ clientId, ¬ context.Names clientId) ∨
        ∀ first, outcome = .ok first → first.status ≠ 401) ∧
        following refresher context request outcome = .done outcome ∨
      ∃ renewer clientId first, Refusal refresher context renewer clientId first ∧
        outcome = .ok first ∧ following refresher context request outcome =
          .ask (.refresh renewer clientId) (afterRefresh request first) := by
  rcases somebody_or_nobody refresher context with ⟨renewer, clientId, rfl, named⟩ | nobody
  · rw [following_of_names request named]
    cases outcome with
    | error cause => exact .inl ⟨.inr nofun, rfl⟩
    | ok first =>
      by_cases status : first.status = 401
      · exact .inr ⟨renewer, clientId, first, ⟨rfl, named, status⟩, rfl, if_pos status⟩
      · refine .inl ⟨.inr ?_, if_neg status⟩
        rintro _ ⟨⟩
        exact status
  · exact .inl ⟨.inl nobody, by rw [following_of_nobody request nobody]⟩

/-- **The places of an execution**: what it has done, what was answered to it, and where it is. -/
inductive Course (refresher : Option R) (context : Context) (request : Request) :
    List Act → List Received → Stage R → Prop
  | ready : Course refresher context request [] [] (.doing (execute refresher context request))
  | first : Course refresher context request [.executes request] []
      (.executing request (following refresher context request))
  | ended {outcome : Outcome}
      (stands : (refresher = none ∨ ∀ clientId, ¬ context.Names clientId) ∨
        ∀ first, outcome = .ok first → first.status ≠ 401) :
      Course refresher context request [.executes request] [.outcome request outcome]
        (.doing (.done outcome))
  | refused {renewer : R} {clientId : String} {first : Response}
      (refusal : Refusal refresher context renewer clientId first) :
      Course refresher context request [.executes request] [.outcome request (.ok first)]
        (.doing (.ask (.refresh renewer clientId) (afterRefresh request first)))
  | turnedAway {renewer : R} {clientId : String} {first : Response}
      (refusal : Refusal refresher context renewer clientId first) :
      Course refresher context request [.executes request]
        [.outcome request (.ok first), .turnedAway] (.doing (.done (.error .cancelled)))
  | renewing {renewer : R} {clientId : String} {first : Response}
      (refusal : Refusal refresher context renewer clientId first) :
      Course refresher context request [.executes request, .renews clientId]
        [.outcome request (.ok first)] (.renewing clientId (afterRefresh request first))
  | cutOff {renewer : R} {clientId : String} {first : Response}
      (refusal : Refusal refresher context renewer clientId first) :
      Course refresher context request [.executes request, .renews clientId]
        [.outcome request (.ok first), .cutOff] (.doing (.done (.error .cancelled)))
  | unrenewed {renewer : R} {clientId : String} {first : Response} {cause : AdminError}
      (refusal : Refusal refresher context renewer clientId first) :
      Course refresher context request [.executes request, .renews clientId]
        [.outcome request (.ok first), .result (.error cause)]
        (.doing (.done (if cause.isCancelled then .error .cancelled else .ok first)))
  | notReplayable {renewer : R} {clientId : String} {first : Response} {token : String}
      (refusal : Refusal refresher context renewer clientId first)
      (streamed : IsStreamed request) :
      Course refresher context request [.executes request, .renews clientId]
        [.outcome request (.ok first), .result (.ok token)]
        (.doing (.done (.error .bodyNotReplayable)))
  | invalidCredential {renewer : R} {clientId : String} {first : Response} {token : String}
      (refusal : Refusal refresher context renewer clientId first)
      (kept : ¬ IsStreamed request) (illegal : bearer? token = none) :
      Course refresher context request [.executes request, .renews clientId]
        [.outcome request (.ok first), .result (.ok token)]
        (.doing (.done (.error .invalidCredential)))
  | again {renewer : R} {clientId : String} {first : Response} {token : String}
      {credential : HeaderValue} (refusal : Refusal refresher context renewer clientId first)
      (kept : ¬ IsStreamed request) (legal : bearer? token = some credential) :
      Course refresher context request [.executes request, .renews clientId]
        [.outcome request (.ok first), .result (.ok token)]
        (.doing (.ask (.execute (request.withField "authorization" credential)) .done))
  | second {renewer : R} {clientId : String} {first : Response} {token : String}
      {credential : HeaderValue} (refusal : Refusal refresher context renewer clientId first)
      (kept : ¬ IsStreamed request) (legal : bearer? token = some credential) :
      Course refresher context request
        [.executes request, .renews clientId,
          .executes (request.withField "authorization" credential)]
        [.outcome request (.ok first), .result (.ok token)]
        (.executing (request.withField "authorization" credential) .done)
  | repeated {renewer : R} {clientId : String} {first : Response} {token : String}
      {credential : HeaderValue} {outcome : Outcome}
      (refusal : Refusal refresher context renewer clientId first)
      (kept : ¬ IsStreamed request) (legal : bearer? token = some credential) :
      Course refresher context request
        [.executes request, .renews clientId,
          .executes (request.withField "authorization" credential)]
        [.outcome request (.ok first), .result (.ok token),
          .outcome (request.withField "authorization" credential) outcome]
        (.doing (.done outcome))

/-- **Each step leads from one place to another.** -/
theorem Course.moves {acts : List Act} {received : List Received} {here next : Stage R}
    {happening : Happening} {covered : Bool}
    (course : Course refresher context request acts received here)
    (moves : Moves covered here happening next) :
    Course refresher context request (acts ++ happening.act?.toList)
      (received ++ happening.received?.toList) next := by
  cases course with
  | ready =>
    rw [execute_eq] at moves
    cases moves with
    | executes => exact .first
  | first =>
    cases moves with
    | answered _ _ outcome =>
      rcases following_cases refresher context request outcome with
        ⟨stands, ends⟩ | ⟨renewer, clientId, first, refusal, rfl, goesOn⟩
      · rw [ends]
        exact .ended stands
      · rw [goesOn]
        exact .refused refusal
  | refused refusal =>
    cases moves with
    | renews => exact .renewing refusal
    | turnedAway => exact .turnedAway refusal
  | renewing refusal =>
    cases moves with
    | cutOff => exact .cutOff refusal
    | renewed _ _ result =>
      cases result with
      | error cause => exact .unrenewed refusal
      | ok token =>
        show Course _ _ _ _ _ (.doing (repeatWith request token))
        by_cases streamed : IsStreamed request
        · rw [repeatWith_of_streamed token streamed]
          exact .notReplayable refusal streamed
        · cases legal : bearer? token with
          | none =>
            rw [repeatWith_of_illegal streamed legal]
            exact .invalidCredential refusal streamed legal
          | some credential =>
            rw [repeatWith_of_legal streamed legal]
            exact .again refusal streamed legal
  | again refusal kept legal =>
    cases moves with
    | executes => exact .second refusal kept legal
  | second refusal kept legal =>
    cases moves with
    | answered => exact .repeated refusal kept legal
  -- where an execution is over there is no step
  | ended | turnedAway | cutOff | unrenewed | notReplayable | invalidCredential | repeated =>
    cases moves

/-! ### What is done -/

section Done

variable {acts : List Act} {received : List Received} {here : Stage R}

/-- The requests that are executed. -/
def executedIn (acts : List Act) : List Request :=
  acts.filterMap fun
    | .executes request => some request
    | .renews _ => none

/-- The clients for which a renewal is begun. -/
def renewedIn (acts : List Act) : List String :=
  acts.filterMap fun
    | .executes _ => none
    | .renews clientId => some clientId

/-- Two requests and one renewal are the most. -/
theorem Course.length_le (course : Course refresher context request acts received here) :
    (executedIn acts).length ≤ 2 ∧ (renewedIn acts).length ≤ 1 := by
  cases course <;> simp [executedIn, renewedIn]

/-- An execution sends its own request, and once more with a token that was given to it. -/
theorem Course.own (course : Course refresher context request acts received here)
    {sent : Request} (h : sent ∈ executedIn acts) :
    sent = request ∨ ∃ token credential, .result (.ok token) ∈ received ∧
      bearer? token = some credential ∧ sent = request.withField "authorization" credential := by
  cases course with
  | ready => cases h
  | second refusal kept legal | repeated refusal kept legal =>
    rcases List.mem_cons.mp h with rfl | h
    · exact .inl rfl
    · exact .inr ⟨_, _, by simp, legal, List.mem_singleton.mp h⟩
  | _ => exact .inl (List.mem_singleton.mp h)

theorem Course.named (course : Course refresher context request acts received here)
    {clientId : String} (h : clientId ∈ renewedIn acts) : context.Names clientId := by
  cases course with
  | ready | first | ended _ | refused _ | turnedAway _ => cases h
  | renewing refusal | cutOff refusal | unrenewed refusal | notReplayable refusal
  | invalidCredential refusal | again refusal | second refusal | repeated refusal =>
    rw [List.mem_singleton.mp h]
    exact refusal.named

end Done

/-! ### The algorithm with the same answers -/

/-- What is cancelled before the next answer. -/
def cancelledBefore (domain : Domain) : List Received → List Domain
  | .turnedAway :: _ => [domain]
  | _ => []

/-- **Parties that answer what was received**, one after the other; where a renewal was turned away
or cut off they cancel the context. -/
def Parties.replaying (R : Type) (domain : Domain) : Parties R (List Received) where
  execute _ := fun
    | .outcome _ outcome :: rest => ((outcome, cancelledBefore domain rest), rest)
    | rest => ((.error .cancelled, []), rest)
  refresh _ _ := fun
    | .result result :: rest => ([⟨[], some result⟩], rest)
    | .cutOff :: rest => ([⟨[domain], none⟩], rest)
    | rest => ([], rest)

theorem covers_self (domain : Domain) : Cancellations.covers ⟨[domain]⟩ domain = true := by
  simp [Cancellations.covers, Domain.isWithin]

theorem finishes_at_once (context : Context) (result : Except AdminError String) :
    context.Finishes [⟨[], some result⟩] ⟨[]⟩ result ⟨[]⟩ :=
  ⟨[], _, [], rfl, Context.pending_nil rfl, rfl, rfl⟩

theorem Refusal.refused {renewer : R} {clientId : String} {first : Response}
    (refusal : Refusal refresher context renewer clientId first) (rest : List Received) :
    Refused (Parties.replaying R context.domain) refresher context request
      (.outcome request (.ok first) :: rest, ⟨[]⟩) renewer clientId first
      (rest, (cancelledBefore context.domain rest).foldl .add ⟨[]⟩) :=
  ⟨refusal.somebody, refusal.named, ⟨_, _, rfl, rfl⟩, refusal.status⟩

/-- **What an execution that is done has done**, and has come to, is what the algorithm does and
comes to with the answers that it received. -/
theorem Course.shows {acts : List Act} {received : List Received} {outcome : Outcome}
    (course : Course refresher context request acts received (.doing (.done outcome))) :
    ∃ finish, (Parties.replaying R context.domain).Shows context
      (execute refresher context request) (received, ⟨[]⟩) (executedIn acts) (renewedIn acts)
      (some outcome) finish := by
  generalize stage : Stage.doing (.done outcome) = here at course
  cases course with
  | ready => rw [execute_eq] at stage; cases stage
  | first | refused | renewing | again | second => cases stage
  | ended stands =>
    cases stage
    rcases stands with nobody | stands
    · exact ⟨_, (SingleRetry.plain nobody ⟨[], [], rfl, rfl⟩).shows⟩
    · exact ⟨_, Parties.Executes.shows_execute ⟨[], [], rfl, rfl⟩ stands⟩
  | turnedAway refusal =>
    cases stage
    exact ⟨_, (SingleRetry.cancelled (refusal.refused [.turnedAway])
      (.before (covers_self context.domain))).shows⟩
  | cutOff refusal =>
    cases stage
    exact ⟨_, (SingleRetry.cancelled (refusal.refused [.cutOff]) (.meanwhile rfl
      ⟨[], _, [], rfl, Context.pending_nil rfl, rfl, rfl, covers_self context.domain⟩)).shows⟩
  | @unrenewed renewer clientId first cause refusal =>
    have refused :
        Refused (Parties.replaying R context.domain) refresher context request _ _ _ _ _ :=
      refusal.refused [.result (.error cause)]
    -- a cancellation inside the renewal is passed on; another failure leaves the response
    by_cases inside : ∃ operation, cause = .cancelled operation
    · obtain ⟨operation, rfl⟩ := inside
      cases stage
      exact ⟨_, (SingleRetry.cancelled refused (.inside rfl (finishes_at_once context _))).shows⟩
    · rw [isCancelled_eq_false (not_exists.mp inside)] at stage
      cases stage
      exact ⟨_, (SingleRetry.original refused (.failed rfl (finishes_at_once context _)
        (not_exists.mp inside))).shows⟩
  | @notReplayable _ _ _ token refusal streamed =>
    cases stage
    exact ⟨_, (SingleRetry.notReplayable (refusal.refused [.result (.ok token)])
      (.token rfl (finishes_at_once context _)) streamed).shows⟩
  | @invalidCredential _ _ _ token refusal kept illegal =>
    cases stage
    exact ⟨_, (SingleRetry.invalidCredential (refusal.refused [.result (.ok token)])
      (.token rfl (finishes_at_once context _)) kept illegal).shows⟩
  | @repeated _ _ _ token credential _ refusal kept legal =>
    cases stage
    exact ⟨_, (SingleRetry.repeated (refusal.refused [.result (.ok token), .outcome _ outcome])
      (.token rfl (finishes_at_once context _)) kept legal ⟨[], [], rfl, rfl⟩).shows⟩

/-! ### The order -/

section Order

variable {σ : Type}

/-- What a question makes the parties do; no renewal is begun under a cancelled context. -/
def act? (context : Context) : Question R × σ × Cancellations → Option Act
  | (.execute request, _) => some (.executes request)
  | (.refresh _ clientId, _, cancellations) =>
    if cancellations.covers context.domain then none else some (.renews clientId)

/-- **What the parties do** in one execution, in order. -/
def Parties.acts (parties : Parties R σ) (refresher : Option R) (context : Context)
    (request : Request) (start : σ × Cancellations) : List Act :=
  ((Renewal.execute refresher context request).orNothing.history (parties.answer context)
    start).filterMap (act? context)

theorem executedIn_acts (parties : Parties R σ) (refresher : Option R) (context : Context)
    (request : Request) (start : σ × Cancellations) :
    executedIn (parties.acts refresher context request start) =
      parties.executed refresher context request start := by
  rw [executedIn, Parties.acts, List.filterMap_filterMap, Parties.executed]
  congr 1
  funext ⟨question, state, cancellations⟩
  cases question with
  | execute => rfl
  | refresh =>
    show (if cancellations.covers context.domain then none else _ : Option Act).bind _ = none
    split <;> rfl

theorem renewedIn_acts (parties : Parties R σ) (refresher : Option R) (context : Context)
    (request : Request) (start : σ × Cancellations) :
    renewedIn (parties.acts refresher context request start) =
      parties.renewed refresher context request start := by
  rw [renewedIn, Parties.acts, List.filterMap_filterMap, Parties.renewed]
  congr 1
  funext ⟨question, state, cancellations⟩
  cases question with
  | execute => rfl
  | refresh =>
    show (if cancellations.covers context.domain then none else _ : Option Act).bind _ =
      if cancellations.covers context.domain then none else _
    split <;> rfl

/-- **In order**: the renewals come after the first request and before the others. -/
def IsOrdered (acts : List Act) : Prop :=
  acts = ((executedIn acts).take 1).map .executes ++ (renewedIn acts).map .renews ++
    ((executedIn acts).drop 1).map .executes

/-- What is done in order is known from the requests and the renewals. -/
theorem IsOrdered.eq {acts acts' : List Act} (h : IsOrdered acts) (h' : IsOrdered acts')
    (executed : executedIn acts = executedIn acts') (renewed : renewedIn acts = renewedIn acts') :
    acts = acts' := by
  unfold IsOrdered at h
  rw [executed, renewed, ← h'] at h
  exact h

theorem Course.isOrdered {acts : List Act} {received : List Received} {here : Stage R}
    (course : Course refresher context request acts received here) : IsOrdered acts := by
  cases course <;> rfl

theorem afterRefresh_cases (request : Request) (first : Response)
    (answer : Option (Except AdminError String)) :
    (∃ outcome, afterRefresh (R := R) request first answer = .done outcome) ∨
      ∃ again, afterRefresh (R := R) request first answer = .ask (.execute again) .done := by
  rw [afterRefresh_eq_goOn]
  cases Ending.ofAnswer answer with
  | cancelled | failed => exact .inl ⟨_, rfl⟩
  | token text =>
    show (∃ outcome, repeatWith request text = _) ∨ ∃ again, repeatWith request text = _
    by_cases streamed : IsStreamed request
    · exact .inl ⟨_, repeatWith_of_streamed text streamed⟩
    · cases legal : bearer? text with
      | none => exact .inl ⟨_, repeatWith_of_illegal streamed legal⟩
      | some credential => exact .inr ⟨_, repeatWith_of_legal streamed legal⟩

theorem exists_act?_refresh (context : Context) (renewer : R) (clientId : String)
    (s : σ × Cancellations) :
    ∃ renewal : Option String,
      act? context (.refresh renewer clientId, s) = renewal.map .renews := by
  show ∃ renewal : Option String, (if s.2.covers context.domain then none else _) = _
  split
  · exact ⟨none, rfl⟩
  · exact ⟨some clientId, rfl⟩

theorem isOrdered_of (request : Request) (renewal : Option String) (again : Option Request) :
    IsOrdered
      (.executes request :: ((renewal.map .renews).toList ++ (again.map .executes).toList)) := by
  cases renewal <;> cases again <;> rfl

theorem acts_afterRefresh (parties : Parties R σ) (context : Context) (request : Request)
    (first : Response) (answer : Option (Except AdminError String)) (s : σ × Cancellations) :
    ∃ again : Option Request, ((afterRefresh request first answer).orNothing.history
      (parties.answer context) s).filterMap (act? context) = (again.map .executes).toList := by
  rcases afterRefresh_cases request first answer with ⟨outcome, ends⟩ | ⟨again, goesOn⟩
  · rw [ends]
    exact ⟨none, rfl⟩
  · obtain ⟨outcome, middle, execution⟩ : ∃ outcome middle,
        parties.Executes again s outcome middle := ⟨_, _, _, _, rfl, rfl⟩
    rw [goesOn, Dialog.history_orNothing_of_some _ (execution.answer_eq context)]
    exact ⟨some again, rfl⟩

theorem Parties.isOrdered (parties : Parties R σ) (refresher : Option R) (context : Context)
    (request : Request) (start : σ × Cancellations) :
    IsOrdered (parties.acts refresher context request start) := by
  obtain ⟨outcome, middle, execution⟩ : ∃ outcome middle,
      parties.Executes request start outcome middle := ⟨_, _, _, _, rfl, rfl⟩
  unfold Parties.acts
  rw [execute_eq, Dialog.history_orNothing_of_some _ (execution.answer_eq context),
    List.filterMap_cons_some (by rfl)]
  rcases following_cases refresher context request outcome with
    ⟨-, ends⟩ | ⟨renewer, clientId, first, -, -, goesOn⟩
  · rw [ends]
    exact isOrdered_of request none none
  rw [goesOn]
  obtain ⟨renewal, begun⟩ := exists_act?_refresh context renewer clientId middle
  rcases answered : parties.answer context (.refresh renewer clientId) middle with ⟨answer, next⟩
  cases answer with
  | none =>
    rw [Dialog.history_orNothing_of_none _ answered, List.filterMap_cons, begun]
    cases renewal with
    | none => exact isOrdered_of request none none
    | some clientId => exact isOrdered_of request (some clientId) none
  | some answer =>
    rw [Dialog.history_orNothing_of_some _ answered, List.filterMap_cons, begun]
    obtain ⟨again, after⟩ := acts_afterRefresh parties context request first answer next
    rw [after]
    cases renewal with
    | none => exact isOrdered_of request none again
    | some clientId => exact isOrdered_of request (some clientId) again

/-- **What an execution that is done has done**, step by step, is what the algorithm does with the
answers that it received. -/
theorem Course.acts_eq {acts : List Act} {received : List Received} {outcome : Outcome}
    (course : Course refresher context request acts received (.doing (.done outcome))) :
    (Parties.replaying R context.domain).acts refresher context request (received, ⟨[]⟩) =
      acts := by
  obtain ⟨finish, shows⟩ := course.shows
  exact (Parties.isOrdered _ _ _ _ _).eq course.isOrdered
    ((executedIn_acts _ _ _ _ _).trans shows.executed_eq)
    ((renewedIn_acts _ _ _ _ _).trans shows.renewed_eq)

end Order

end Places

end RealmKeeper.Registration.Renewal
