import RealmKeeper.Proofs.RegistrationRequests
import RealmKeeper.Proofs.RetryCourses
import RealmKeeper.Proofs.Utf8
import Mathlib.Algebra.Order.BigOperators.Group.Finset
import Mathlib.Data.Fintype.BigOperators

/-!
# Executions that go on at once

Many executions with one renewal of tokens, the steps of which come in any order.

* `Calls`, `Scene`, `Step` and `Run`: the executions, where they are, a step of one of them or a
  cancellation, and many steps;
* `Run.course`: each execution keeps to its course, whatever the others do;
* `GoesAlone`: what an execution does, and what it comes to, is what the algorithm does with the
  answers that it received;
* `Event.IsObliging` and `AllRetried`: where a stale token is refused and renewed, every execution
  comes to its second response;
* `retries_do_not_interact`: both, in every run.
-/

namespace RealmKeeper.Registration.Renewal

open RealmKeeper.Http RealmKeeper.Admin

variable {ι R : Type}

/-! ### Runs -/

/-- **Executions that may go on at once**, for the same client or for others. -/
structure Calls (ι R : Type) where
  refresher : Option R
  context : ι → Context
  request : ι → Request

/-- What happens among the executions. -/
inductive Event (ι : Type) where
  | happens (i : ι) (happening : Happening)
  | cancels (domain : Domain)

/-- **All executions at a moment**, and what has been cancelled. -/
structure Scene (ι R : Type) where
  cancellations : Cancellations
  stage : ι → Stage R

/-- No execution has begun. -/
def Scene.IsFresh (calls : Calls ι R) (s : Scene ι R) : Prop :=
  ∀ i, s.stage i = .doing (execute calls.refresher (calls.context i) (calls.request i))

/-- **A step**: one of the executions moves, or something is cancelled. -/
inductive Step [DecidableEq ι] (calls : Calls ι R) (s : Scene ι R) : Event ι → Scene ι R → Prop
  | moves {i : ι} {happening : Happening} {next : Stage R}
      (h : Moves (s.cancellations.covers (calls.context i).domain) (s.stage i) happening next) :
      Step calls s (.happens i happening) ⟨s.cancellations, Function.update s.stage i next⟩
  | cancels (domain : Domain) : Step calls s (.cancels domain) ⟨s.cancellations.add domain, s.stage⟩

/-- **A run** of the executions, one step after another. -/
inductive Run [DecidableEq ι] (calls : Calls ι R) (s : Scene ι R) :
    List (Event ι) → Scene ι R → Prop
  | nil : Run calls s [] s
  | snoc {events : List (Event ι)} {e : Event ι} {t u : Scene ι R} (run : Run calls s events t)
      (step : Step calls t e u) : Run calls s (events ++ [e]) u

section Own

variable [DecidableEq ι]

/-- **What happens in one of the executions.** -/
def own (i : ι) (events : List (Event ι)) : List Happening :=
  events.filterMap fun
    | .happens j happening => if j = i then some happening else none
    | .cancels _ => none

/-- What one of the executions does. -/
def acts (i : ι) (events : List (Event ι)) : List Act :=
  (own i events).filterMap Happening.act?

/-- What is answered to one of the executions. -/
def received (i : ι) (events : List (Event ι)) : List Received :=
  (own i events).filterMap Happening.received?

theorem own_append_self (i : ι) (events : List (Event ι)) (happening : Happening) :
    own i (events ++ [.happens i happening]) = own i events ++ [happening] := by
  simp [own]

theorem own_append_other {i : ι} (events : List (Event ι)) {e : Event ι}
    (other : ∀ happening, e ≠ .happens i happening) : own i (events ++ [e]) = own i events := by
  cases e with
  | cancels domain => simp [own]
  | happens j happening =>
    have different : j ≠ i := by
      rintro rfl
      exact other happening rfl
    simp [own, different]

/-- **Each execution keeps to its course**, whatever the others do. -/
theorem Run.course {calls : Calls ι R} {s t : Scene ι R} {events : List (Event ι)}
    (run : Run calls s events t) (fresh : s.IsFresh calls) (i : ι) :
    Course calls.refresher (calls.context i) (calls.request i) (acts i events) (received i events)
      (t.stage i) := by
  induction run with
  | nil =>
    rw [fresh i]
    exact .ready
  | @snoc events e t u run step ih =>
    cases step with
    | cancels domain =>
      have other : ∀ h, Event.cancels domain ≠ .happens i h := fun h same => by cases same
      rw [acts, received, own_append_other events other]
      exact ih
    | @moves j happening next h =>
      by_cases same : j = i
      · subst same
        have moved := ih.moves h
        show Course _ _ _ _ _ (Function.update t.stage j next j)
        rw [Function.update_self, acts, received, own_append_self, List.filterMap_append,
          List.filterMap_append]
        cases happening <;> exact moved
      · have other : ∀ h, Event.happens j happening ≠ .happens i h := by
          rintro h ⟨⟩
          exact same rfl
        show Course _ _ _ _ _ (Function.update t.stage j next i)
        rw [Function.update_of_ne (Ne.symm same), acts, received, own_append_other events other]
        exact ih

/-! ### Each on its own -/

/-- **An execution goes alone**: what it does, and what it comes to, is what the algorithm does and
comes to with the answers that this execution received. -/
structure GoesAlone (calls : Calls ι R) (i : ι) (events : List (Event ι)) (stage : Stage R) :
    Prop where
  /-- Two requests and one renewal are the most, at every moment. -/
  length_le : (executedIn (acts i events)).length ≤ 2 ∧ (renewedIn (acts i events)).length ≤ 1
  /-- A token is renewed for the client of the execution only. -/
  named : ∀ clientId ∈ renewedIn (acts i events), (calls.context i).Names clientId
  /-- No request presents a token that was obtained for another execution. -/
  own : ∀ sent ∈ executedIn (acts i events), sent = calls.request i ∨
    ∃ token credential, .result (.ok token) ∈ received i events ∧
      bearer? token = some credential ∧
        sent = (calls.request i).withField "authorization" credential
  /-- When it is done, it has done, in this order, what the algorithm does, and its outcome is the
  outcome of the algorithm. -/
  ending : ∀ outcome, stage = .doing (.done outcome) →
    let parties := Parties.replaying R (calls.context i).domain
    let start : List Received × Cancellations := (received i events, ⟨[]⟩)
    parties.acts calls.refresher (calls.context i) (calls.request i) start = acts i events ∧
      (parties.perform calls.refresher (calls.context i) (calls.request i) start).1 = some outcome

theorem Run.goesAlone {calls : Calls ι R} {s t : Scene ι R} {events : List (Event ι)}
    (run : Run calls s events t) (fresh : s.IsFresh calls) (i : ι) :
    GoesAlone calls i events (t.stage i) := by
  have course := run.course fresh i
  refine ⟨course.length_le, fun _ => course.named, fun _ => course.own, fun outcome stage => ?_⟩
  rw [stage] at course
  obtain ⟨finish, shows⟩ := course.shows
  exact ⟨course.acts_eq, congrArg Prod.fst shows.ending⟩

end Own

/-! ### A stale token -/

theorem bearer?_injective {token token' : String} {credential : HeaderValue}
    (h : bearer? token = some credential) (h' : bearer? token' = some credential) :
    token = token' := by
  have octets : ∀ text : String, bearer? text = some credential →
      credential.octets = Text.Utf8.encode ("Bearer " ++ text).toList := by
    intro text made
    unfold bearer? HeaderValue.ofString? HeaderValue.ofOctets? at made
    split at made
    · rw [← Option.some.inj made]
      rfl
    · cases made
  have same := Text.Utf8.encode_injective ((octets token h).symm.trans (octets token' h'))
  rw [String.toList_append, String.toList_append] at same
  exact String.toList_inj.mp (List.append_cancel_left same)

theorem not_presentsOnly_withField {stale token : String} {credential : HeaderValue}
    (request : Request) (other : token ≠ stale) (legal : bearer? token = some credential) :
    ¬ (request.withField "authorization" credential).PresentsOnly stale := by
  rintro ⟨credential', made, fields⟩
  rw [show (request.withField "authorization" credential).fields.filter (·.1 = "authorization") =
    [("authorization", credential)] from filter_setField_self _ _ _] at fields
  obtain rfl : credential = credential' := congrArg Prod.snd (List.cons.inj fields).1
  exact other (bearer?_injective legal made)

/-- **What is answered obligingly**: a request is refused exactly if it presents the stale token,
and a renewal gives another token, which can be presented. -/
def Received.IsObliging (stale : String) : Received → Prop
  | .outcome request answer =>
    ∃ response, answer = .ok response ∧ (response.status = 401 ↔ request.PresentsOnly stale)
  | .result answer =>
    ∃ token credential, answer = .ok token ∧ token ≠ stale ∧ bearer? token = some credential
  | .turnedAway | .cutOff => False

/-- Nothing is cancelled, and what is answered is answered obligingly. -/
def Event.IsObliging (stale : String) : Event ι → Prop
  | .happens _ (.begins _) => True
  | .happens _ (.receives received) => received.IsObliging stale
  | .cancels _ => False

/-- **Each execution can renew the stale token that it presents**: there is somebody to renew it, it
is for a client, and its body can be sent again. -/
structure Calls.PresentStale (calls : Calls ι R) (stale : String) : Prop where
  somebody : ∃ renewer, calls.refresher = some renewer
  named : ∀ i, ∃ clientId, (calls.context i).Names clientId
  kept : ∀ i, ¬ IsStreamed (calls.request i)
  presents : ∀ i, (calls.request i).PresentsOnly stale

section Stale

variable {refresher : Option R} {context : Context} {request : Request} {acts : List Act}
  {received : List Received} {stale : String}

/-- **An execution comes to its second response**, which is not a refusal. -/
structure ComesToSecond (request : Request) (received : List Received) (outcome : Outcome) :
    Prop where
  received_eq : ∃ first token second,
    received = [.outcome request (.ok first), .result (.ok token), .outcome second outcome]
  response : ∃ response, outcome = .ok response ∧ response.status ≠ 401

/-- **An execution that is done has come to its second response.** -/
theorem Course.retried {outcome : Outcome}
    (course : Course refresher context request acts received (.doing (.done outcome)))
    (somebody : ∃ renewer, refresher = some renewer) (named : ∃ clientId, context.Names clientId)
    (kept : ¬ IsStreamed request) (presents : request.PresentsOnly stale)
    (obliging : ∀ answer ∈ received, answer.IsObliging stale) :
    (executedIn acts).length = 2 ∧ (renewedIn acts).length = 1 ∧
      ComesToSecond request received outcome := by
  generalize stage : Stage.doing (.done outcome) = here at course
  -- obliging answers leave open only the place behind the second response
  cases course with
  | ready => rw [execute_eq] at stage; cases stage
  | first | refused | renewing | again | second => cases stage
  | ended stands =>
    cases stage
    obtain ⟨response, rfl, refused⟩ := obliging _ (List.mem_singleton_self _)
    obtain ⟨renewer, rfl⟩ := somebody
    obtain ⟨clientId, named⟩ := named
    rcases stands with (missing | nobody) | stands
    · cases missing
    · exact absurd named (nobody clientId)
    · exact absurd (refused.mpr presents) (stands response rfl)
  | turnedAway => exact (obliging .turnedAway (by simp)).elim
  | cutOff => exact (obliging .cutOff (by simp)).elim
  | @unrenewed _ _ _ cause =>
    obtain ⟨token, credential, given, -⟩ := obliging (.result (.error cause)) (by simp)
    cases given
  | notReplayable refusal streamed => exact absurd streamed kept
  | @invalidCredential _ _ _ token _ _ illegal =>
    obtain ⟨_, credential, ⟨⟩, -, legal⟩ := obliging (.result (.ok token)) (by simp)
    rw [illegal] at legal
    cases legal
  | @repeated _ _ first token credential _ refusal kept legal =>
    cases stage
    obtain ⟨_, _, ⟨⟩, other, -⟩ := obliging (.result (.ok token)) (by simp)
    obtain ⟨response, rfl, refused⟩ :=
      obliging (.outcome (request.withField "authorization" credential) outcome) (by simp)
    exact ⟨rfl, rfl, ⟨first, token, _, rfl⟩, response, rfl,
      fun status => not_presentsOnly_withField request other legal (refused.mp status)⟩

theorem exists_obliging_outcome (stale : String) (request : Request) :
    ∃ outcome, (Received.outcome request outcome).IsObliging stale := by
  by_cases presents : request.PresentsOnly stale
  · exact ⟨.ok ⟨401, ⟨[], true⟩⟩, _, rfl, iff_of_true rfl presents⟩
  · exact ⟨.ok ⟨200, ⟨[], true⟩⟩, _, rfl, iff_of_false (by decide) presents⟩

theorem exists_obliging_result (stale : String) :
    ∃ result, (Received.result result).IsObliging stale := by
  by_cases taken : "a" = stale
  · subst taken
    exact ⟨.ok "b", "b", _, rfl, by decide, rfl⟩
  · exact ⟨.ok "a", "a", _, rfl, taken, rfl⟩

/-- **An execution that is not done can go on.** -/
theorem Course.goesOn {here : Stage R}
    (course : Course refresher context request acts received here)
    (unfinished : ∀ outcome, here ≠ .doing (.done outcome)) (stale : String) (i : ι) :
    ∃ happening next, Moves false here happening next ∧
      (Event.happens i happening).IsObliging stale := by
  cases course with
  | ready =>
    rw [execute_eq]
    exact ⟨_, _, .executes _ _, trivial⟩
  | first | second =>
    obtain ⟨outcome, obliging⟩ := exists_obliging_outcome stale _
    exact ⟨_, _, .answered _ _ outcome, obliging⟩
  | refused refusal => exact ⟨_, _, .renews _ _ _ rfl, trivial⟩
  | renewing refusal =>
    obtain ⟨result, obliging⟩ := exists_obliging_result stale
    exact ⟨_, _, .renewed _ _ result rfl, obliging⟩
  | again => exact ⟨_, _, .executes _ _, trivial⟩
  | ended | turnedAway | cutOff | unrenewed | notReplayable | invalidCredential | repeated =>
    exact absurd rfl (unfinished _)

theorem Course.length_le_six {here : Stage R}
    (course : Course refresher context request acts received here) :
    acts.length + received.length ≤ 6 := by
  cases course <;> simp

end Stale

/-! ### All of them -/

section All

variable [DecidableEq ι]

/-- What happens in any of the executions. -/
def happenings (events : List (Event ι)) : List Happening :=
  events.filterMap fun
    | .happens _ happening => some happening
    | .cancels _ => none

/-- What all of the executions do. -/
def allActs (events : List (Event ι)) : List Act :=
  (happenings events).filterMap Happening.act?

/-- **What happens in any of them happens in one of them**, and is counted there. -/
theorem sum_length_own [Fintype ι] {β : Type} (f : Happening → Option β)
    (events : List (Event ι)) :
    ∑ i, ((own i events).filterMap f).length = ((happenings events).filterMap f).length := by
  induction events with
  | nil => simp [own, happenings]
  | cons e rest ih =>
    cases e with
    | cancels domain => exact ih
    | happens j happening =>
      have split : ∀ i, ((own i (.happens j happening :: rest)).filterMap f).length =
          (if j = i then (f happening).toList.length else 0) +
            ((own i rest).filterMap f).length := by
        intro i
        by_cases same : j = i
        · cases value : f happening <;> simp [own, same, value, add_comm]
        · simp [own, same]
      rw [Finset.sum_congr rfl fun i _ => split i, Finset.sum_add_distrib, ih, Finset.sum_ite_eq,
        if_pos (Finset.mem_univ j)]
      cases value : f happening <;> simp [happenings, value, add_comm]

theorem sum_length_executedIn [Fintype ι] (events : List (Event ι)) :
    ∑ i, (executedIn (acts i events)).length = (executedIn (allActs events)).length := by
  simp only [executedIn, acts, allActs, List.filterMap_filterMap]
  exact sum_length_own _ events

theorem sum_length_renewedIn [Fintype ι] (events : List (Event ι)) :
    ∑ i, (renewedIn (acts i events)).length = (renewedIn (allActs events)).length := by
  simp only [renewedIn, acts, allActs, List.filterMap_filterMap]
  exact sum_length_own _ events

theorem length_own (i : ι) (events : List (Event ι)) :
    (own i events).length = (acts i events).length + (received i events).length := by
  unfold acts received
  induction own i events with
  | nil => rfl
  | cons happening rest ih =>
    cases happening with
    | begins act =>
      rw [List.filterMap_cons_some (by rfl), List.filterMap_cons_none (by rfl), List.length_cons,
        List.length_cons, ih]
      omega
    | receives received =>
      rw [List.filterMap_cons_none (by rfl), List.filterMap_cons_some (by rfl), List.length_cons,
        List.length_cons, ih]
      omega

section Obliging

variable {stale : String} {events : List (Event ι)}

omit [DecidableEq ι] in
theorem length_happenings (obliging : ∀ e ∈ events, e.IsObliging stale) :
    (happenings events).length = events.length := by
  induction events with
  | nil => rfl
  | cons e rest ih =>
    obtain ⟨here, there⟩ := List.forall_mem_cons.mp obliging
    cases e with
    | cancels domain => exact here.elim
    | happens i happening => simpa [happenings] using ih there

theorem isObliging_received (obliging : ∀ e ∈ events, e.IsObliging stale) (i : ι) :
    ∀ answer ∈ received i events, answer.IsObliging stale := by
  intro answer h
  obtain ⟨happening, inside, answered⟩ := List.mem_filterMap.mp h
  obtain ⟨e, among, happened⟩ := List.mem_filterMap.mp inside
  cases e with
  | cancels domain => cases happened
  | happens j happening' =>
    by_cases same : j = i
    · obtain rfl : happening' = happening := by simpa [same] using happened
      cases happening' with
      | begins act => cases answered
      | receives answer' =>
        obtain rfl : answer' = answer := Option.some.inj answered
        exact obliging _ among
    · simp [same] at happened

theorem Run.cancellations_eq {calls : Calls ι R} {s t : Scene ι R} (run : Run calls s events t)
    (obliging : ∀ e ∈ events, e.IsObliging stale) : t.cancellations = s.cancellations := by
  induction run with
  | nil => rfl
  | @snoc events e t u run step ih =>
    obtain ⟨before, now⟩ := List.forall_mem_append.mp obliging
    have same := ih before
    cases step with
    | cancels domain => exact (now _ (List.mem_singleton_self _)).elim
    | moves h => exact same

end Obliging

/-- **All executions are retried**, and each comes to its second response. -/
structure AllRetried [Fintype ι] (calls : Calls ι R) (stale : String) (events : List (Event ι))
    (finish : Scene ι R) : Prop where
  /-- There are six steps for each execution at most. -/
  length_le : events.length ≤ 6 * Fintype.card ι
  /-- An execution that is not done can go on. -/
  goesOn : ∀ i, (∀ outcome, finish.stage i ≠ .doing (.done outcome)) →
    ∃ happening next, Step calls finish (.happens i happening) next ∧
      (Event.happens i happening).IsObliging stale
  /-- An execution that is done has come to its second response. -/
  second : ∀ i outcome, finish.stage i = .doing (.done outcome) →
    ComesToSecond (calls.request i) (received i events) outcome
  /-- When all are done, there were two requests and one renewal for each. -/
  totals : (∀ i, ∃ outcome, finish.stage i = .doing (.done outcome)) →
    (executedIn (allActs events)).length = 2 * Fintype.card ι ∧
      (renewedIn (allActs events)).length = Fintype.card ι

theorem Run.allRetried [Fintype ι] {calls : Calls ι R} {start finish : Scene ι R} {stale : String}
    {events : List (Event ι)} (run : Run calls start events finish) (fresh : start.IsFresh calls)
    (present : calls.PresentStale stale)
    (live : ∀ i, start.cancellations.covers (calls.context i).domain = false)
    (obliging : ∀ e ∈ events, e.IsObliging stale) : AllRetried calls stale events finish := by
  have course := run.course fresh
  have retried : ∀ i outcome, finish.stage i = .doing (.done outcome) →
      (executedIn (acts i events)).length = 2 ∧ (renewedIn (acts i events)).length = 1 ∧
        ComesToSecond (calls.request i) (received i events) outcome := by
    intro i outcome stage
    have done := course i
    rw [stage] at done
    exact done.retried present.somebody (present.named i) (present.kept i) (present.presents i)
      (isObliging_received obliging i)
  refine ⟨?_, fun i unfinished => ?_, fun i outcome stage => (retried i outcome stage).2.2, ?_⟩
  · have each : ∀ i ∈ Finset.univ, (own i events).length ≤ 6 := fun i _ => by
      rw [length_own]
      exact (course i).length_le_six
    -- every happening belongs to one execution, and each of these has six at most
    calc events.length = ∑ i, (own i events).length := by
          have total := sum_length_own some events
          simp only [List.filterMap_some] at total
          rw [total, length_happenings obliging]
      _ ≤ ∑ _ : ι, 6 := Finset.sum_le_sum each
      _ = 6 * Fintype.card ι := by simp [mul_comm]
  · obtain ⟨happening, next, moves, obliging'⟩ := (course i).goesOn unfinished stale i
    have uncovered : finish.cancellations.covers (calls.context i).domain = false := by
      rw [run.cancellations_eq obliging]
      exact live i
    rw [← uncovered] at moves
    exact ⟨happening, _, .moves moves, obliging'⟩
  · intro done
    choose outcome done using done
    rw [← sum_length_executedIn, ← sum_length_renewedIn,
      Finset.sum_congr rfl fun i _ => (retried i _ (done i)).1,
      Finset.sum_congr rfl fun i _ => (retried i _ (done i)).2.1]
    simp [mul_comm]

/-- **Executions that go on at once do not interact.** In every run each execution does, and comes
to, what the algorithm does and comes to with the answers that it received. Where a stale token is
refused and renewed, and nothing is cancelled, all of them come to their second response. -/
theorem retries_do_not_interact [Fintype ι] (calls : Calls ι R) {start finish : Scene ι R}
    {events : List (Event ι)} (fresh : start.IsFresh calls) (run : Run calls start events finish) :
    (∀ i, GoesAlone calls i events (finish.stage i)) ∧
      ∀ stale, calls.PresentStale stale →
        (∀ i, start.cancellations.covers (calls.context i).domain = false) →
        (∀ e ∈ events, e.IsObliging stale) → AllRetried calls stale events finish :=
  ⟨run.goesAlone fresh, fun _ present live obliging =>
    run.allRetried fresh present live obliging⟩

end All

section Example

/-- A request with a credential. -/
def requestWith (credential : HeaderValue) : Request :=
  ⟨"DELETE", ⟨"http".toList, [], none, some (.domain "idp.test".toList), none, .segments [[]], none,
    none⟩, [("authorization", credential)], .none⟩

/-- Two executions, for two clients, with the same stale token. -/
def pair : Calls Bool Unit where
  refresher := some ()
  context i := ⟨some (if i then "a" else "b"), ⟨[]⟩⟩
  request _ := requestWith ⟨Text.Utf8.bytes "Bearer stale", rfl⟩

/-- They go on in turn: each is refused, and is repeated with a token of its own. -/
def inTurn : List (Event Bool) :=
  let token (i : Bool) : String := if i then "new" else "newer"
  let again (i : Bool) : Request := (pair.request i).withField "authorization"
    (if i then ⟨Text.Utf8.bytes "Bearer new", rfl⟩ else ⟨Text.Utf8.bytes "Bearer newer", rfl⟩)
  let steps : List (Bool → Happening) :=
    [fun i => .begins (.executes (pair.request i)),
      fun i => .receives (.outcome (pair.request i) (.ok ⟨401, ⟨[], true⟩⟩)),
      fun i => .begins (.renews (if i then "a" else "b")),
      fun i => .receives (.result (.ok (token i))),
      fun i => .begins (.executes (again i)),
      fun i => .receives (.outcome (again i) (.ok ⟨204, ⟨[], true⟩⟩))]
  steps.flatMap fun step => [.happens true (step true), .happens false (step false)]

/-- Both come to their second response, after four requests and two renewals. -/
theorem retries_do_not_interact_in_turn :
    let start : Scene Bool Unit :=
      ⟨⟨[]⟩, fun i => .doing (execute pair.refresher (pair.context i) (pair.request i))⟩
    ∃ finish, Run pair start inTurn finish ∧ (∀ i, GoesAlone pair i inTurn (finish.stage i)) ∧
      (∀ i, ComesToSecond (pair.request i) (received i inTurn) (.ok ⟨204, ⟨[], true⟩⟩)) ∧
        (executedIn (allActs inTurn)).length = 4 ∧ (renewedIn (allActs inTurn)).length = 2 := by
  intro start
  obtain ⟨finish, run, done⟩ : ∃ finish, Run pair start inTurn finish ∧
      ∀ i, finish.stage i = .doing (.done (.ok ⟨204, ⟨[], true⟩⟩)) := by
    have ready : Run pair start [] start := .nil
    have sent := (ready.snoc (.moves (i := true) (.executes _ _))).snoc
      (.moves (i := false) (.executes _ _))
    have refused := (sent.snoc (.moves (i := true) (.answered _ _ (.ok ⟨401, ⟨[], true⟩⟩)))).snoc
      (.moves (i := false) (.answered _ _ (.ok ⟨401, ⟨[], true⟩⟩)))
    have asked := (refused.snoc (.moves (i := true) (.renews _ _ _ rfl))).snoc
      (.moves (i := false) (.renews _ _ _ rfl))
    have renewed := (asked.snoc (.moves (i := true) (.renewed _ _ (.ok "new") rfl))).snoc
      (.moves (i := false) (.renewed _ _ (.ok "newer") rfl))
    have again := (renewed.snoc (.moves (i := true) (.executes _ _))).snoc
      (.moves (i := false) (.executes _ _))
    have answered := (again.snoc (.moves (i := true) (.answered _ _ (.ok ⟨204, ⟨[], true⟩⟩)))).snoc
      (.moves (i := false) (.answered _ _ (.ok ⟨204, ⟨[], true⟩⟩)))
    refine ⟨_, answered, fun i => ?_⟩
    cases i <;> rfl
  have presents : (pair.request true).PresentsOnly "stale" := ⟨_, rfl, rfl⟩
  have present : pair.PresentStale "stale" :=
    { somebody := ⟨(), rfl⟩
      named := fun i => by cases i <;> exact ⟨_, rfl, rfl⟩
      kept := fun i => by rintro ⟨bs, ⟨⟩⟩
      presents := fun _ => presents }
  have obliging : ∀ e ∈ inTurn, e.IsObliging "stale" := by
    have refused : (Received.outcome (pair.request true) (.ok ⟨401, ⟨[], true⟩⟩)).IsObliging
        "stale" := ⟨_, rfl, iff_of_true rfl presents⟩
    have new : (Received.result (.ok "new")).IsObliging "stale" :=
      ⟨"new", _, rfl, by decide, rfl⟩
    have newer : (Received.result (.ok "newer")).IsObliging "stale" :=
      ⟨"newer", _, rfl, by decide, rfl⟩
    have accepted (token : String) {credential : HeaderValue} (other : token ≠ "stale")
        (legal : bearer? token = some credential) :
        (Received.outcome ((pair.request true).withField "authorization" credential)
          (.ok ⟨204, ⟨[], true⟩⟩)).IsObliging "stale" :=
      ⟨_, rfl, iff_of_false (by decide) (not_presentsOnly_withField _ other legal)⟩
    have each : inTurn.Forall (Event.IsObliging "stale") :=
      ⟨trivial, trivial, refused, refused, trivial, trivial, new, newer, trivial, trivial,
        accepted "new" (by decide) rfl, accepted "newer" (by decide) rfl⟩
    exact List.forall_iff_forall_mem.mp each
  have fresh : start.IsFresh pair := fun _ => rfl
  have both := retries_do_not_interact pair fresh run
  have retried := both.2 "stale" present (fun _ => rfl) obliging
  have totals := retried.totals fun i => ⟨_, done i⟩
  exact ⟨finish, run, both.1, fun i => retried.second i _ (done i), totals⟩

end Example

end RealmKeeper.Registration.Renewal
