import RealmKeeper.Proofs.FailedSearch

/-!
# One request for a token at a time

What holds whenever many operations of one administrative client go on at once, and whatever the
order of their steps.

* `Task`: an operation that is called, and `Scene.IsFresh`: none has begun;
* `FailsAlone`: a search that fails fails its own operation only;
* `AsksNext`: who takes the turn next asks the provider itself;
* `SingleFlight`: all that is promised, and `single_flight`: it holds in every run.
-/

namespace RealmKeeper.Provider.Concurrent

open RealmKeeper.Http RealmKeeper.Admin

variable {ι : Type} {c : AdminClient} {i j : ι} {e : Event ι}
  {events before after : List (Event ι)}

/-! ### What is promised -/

/-- **An operation that is called.** -/
structure Task where
  action : Action
  watch : Watch

/-- **No operation has begun**, and nobody has the turn. -/
structure Scene.IsFresh {tasks : ι → Task} (c : AdminClient)
    (u : Scene ι fun i => (tasks i).action.Value) : Prop where
  free : u.shared.holder = none
  begins : ∀ i, u.stage i = .doing ((tasks i).action.dialog c (tasks i).watch)

section promises

variable {α : ι → Type}

/-- Whatever the moment. -/
def Scene.Any (_ : Scene ι α) : Prop := True

/-- **No kept token has expired.** -/
def Scene.NothingExpired (u : Scene ι α) : Prop :=
  u.shared.NothingExpired

/-- **The operation's request for a token is in flight.** -/
def Scene.Fetches (c : AdminClient) (u : Scene ι α) (i : ι) : Prop :=
  ∃ request next, u.stage i = .awaiting request next ∧ c.tokenRequest = .ok request

variable [DecidableEq ι]

/-- **The search of one operation has failed**: the others are where they were, what was kept is
kept, and the operation ends with an error and gives the turn back, or is given up and has given it
back. -/
structure FailsAlone (u v : Scene ι α) (i : ι) : Prop where
  others : ∀ j, j ≠ i → v.stage j = u.stage j
  kept : v.shared.token = u.shared.token
  ends : (v.stage i = .abandoned ∧ v.shared.holder = none) ∨
    ∃ e w, Step v (.asks i .endTurn ()) w ∧ w.stage i = .doing (.done (.error e)) ∧
      w.shared.holder = none

/-- **The one that has taken the turn asks the provider itself**: what is kept cannot be used, the
first request that it sends asks for a token, and it can send it. -/
structure AsksNext (c : AdminClient) (u : Scene ι α) (i : ι) : Prop where
  without : u.shared.IsWithoutToken
  first : ∀ before request v, Run Scene.Any u (before ++ [.sends i request]) v →
    (∀ other, .sends i other ∉ before) → c.tokenRequest = .ok request
  sends : ∀ request, c.tokenRequest = .ok request →
    ∃ before v, Run Scene.Any u (before ++ [.sends i request]) v ∧
      ∀ e ∈ before, e.actor = some i

/-- **What is promised of a run.** -/
structure SingleFlight (c : AdminClient) (u : Scene ι α) (events : List (Event ι))
    (v : Scene ι α) : Prop where
  /-- At most one request for a token is in flight. -/
  single : ∀ i j, v.Fetches c i → v.Fetches c j → i = j
  /-- If nothing is kept at first and no kept token expires, then once a token is issued nobody asks
  for one again, and whoever presents a token presents this one. A token that is issued for thirty
  seconds or less would have expired when it is kept. -/
  shares : u.shared.token = none → Run Scene.NothingExpired u events v →
    ∀ before e after token, events = before ++ e :: after → e.Issues c token →
      ∀ i request, .sends i request ∈ after →
        c.tokenRequest ≠ .ok request ∧ request.Bears token
  /-- A search that fails fails its own operation only. -/
  fails : ∀ i e w, Step v e w → FailsFetch c v.shared i e → FailsAlone v w i
  /-- After it, the next one that takes the turn finds what was kept, and asks the provider. -/
  next : ∀ i e w, Step v e w → FailsFetch c v.shared i e →
    ∀ more x, Run Scene.Any w more x → (∀ k watch, .asks k (.turn watch) true ∉ more) →
      ∀ j watch y, Step x (.asks j (.turn watch) true) y →
        y.shared.token = v.shared.token ∧ AsksNext c y j

end promises

/-! ### Where operations begin -/

section proofs

variable {α : ι → Type} {watches : ι → Watch} {u v w : Scene ι α}

/-- Nothing more is said of the places. -/
def Anywhere (_ : ι → Position) (_ : Shared ι) : Prop := True

theorem Scene.IsFresh.has {tasks : ι → Task} {u : Scene ι fun i => (tasks i).action.Value}
    (h : u.IsFresh c) :
    u.Has c (fun i => (tasks i).watch) fun places s => s.token = none → Known none places s := by
  have placed : ∀ i, ∃ p, (p = .ended ∨ p = .waiting) ∧
      Describes c (tasks i).watch p (u.stage i) := by
    intro i
    rw [h.begins i]
    exact Authorised.describes (Action.authorised c (tasks i).watch (tasks i).action)
  -- every operation is over at once or waits for the turn, so nobody is inside a search
  choose places outside here using placed
  refine ⟨places, here, ⟨fun i => ?_, fun i => ?_⟩, fun nothing => ⟨?_, fun i => ?_, ?_⟩⟩
  · rw [h.free]
    rcases outside i with outside | outside <;> simp [outside, Position.HasTurn]
  · rcases outside i with outside | outside <;> rw [outside] <;> trivial
  · intro token stored
    cases nothing.symm.trans stored
  · rcases outside i with outside | outside <;> rw [outside] <;> trivial
  · intro known
    exact absurd rfl known

theorem Scene.Has.anywhere {P : (ι → Position) → Shared ι → Prop} (h : u.Has c watches P) :
    u.Has c watches Anywhere := by
  obtain ⟨places, here, order, -⟩ := h
  exact ⟨places, here, order, trivial⟩

/-! ### One request at a time -/

theorem Describes.fetching_of_awaiting {β : Type} {watch : Watch} {p : Position} {request : Request}
    {next : Reply → Admin.Operating β} (h : Describes c watch p (.awaiting request next))
    (own : c.tokenRequest = .ok request) : p = .fetching := by
  cases h with
  | fetching goes prepared => rfl
  | pending bears goes => exact absurd own (bears.ne_tokenRequest c)

/-- **At most one request for a token is in flight.** -/
theorem Scene.Has.single (h : u.Has c watches Anywhere) (here : u.Fetches c i)
    (there : u.Fetches c j) : i = j := by
  obtain ⟨places, describes, order, -⟩ := h
  have turn : ∀ k, u.Fetches c k → (places k).HasTurn := by
    rintro k ⟨request, next, awaits, own⟩
    have fetching := (awaits ▸ describes k).fetching_of_awaiting own
    rw [fetching]
    trivial
  exact order.eq_of_hasTurn (turn i here) (turn j there)

/-! ### One token for all -/

variable [DecidableEq ι]

theorem Scene.Has.known {known : Option String} (h : u.Has c watches (Known known))
    (run : Run Scene.NothingExpired u events v) : ∃ known, v.Has c watches (Known known) := by
  induction run generalizing known with
  | nil _ => exact ⟨known, h⟩
  | @cons u v w e events holds step rest ih =>
    obtain ⟨places, here, order, knows⟩ := h
    obtain ⟨places', shifts, there⟩ := step.shifts here
    obtain ⟨known', knows', -, -⟩ := knows.shifts order holds shifts
    exact ih ⟨places', there, order.shifts shifts, knows'⟩

/-- **Once a token is known nobody asks for one**, and whoever presents a token presents this
one. -/
theorem Scene.Has.shares {token : String} (h : u.Has c watches (Known (some token)))
    (run : Run Scene.NothingExpired u events v) :
    ∀ i request, .sends i request ∈ events →
      c.tokenRequest ≠ .ok request ∧ request.Bears token := by
  induction run with
  | nil _ => exact fun i request sent => absurd sent List.not_mem_nil
  | @cons u v w e events holds step rest ih =>
    obtain ⟨places, here, order, knows⟩ := h
    obtain ⟨places', shifts, there⟩ := step.shifts here
    obtain ⟨known', knows', stays, -⟩ := knows.shifts order holds shifts
    obtain rfl := stays token rfl
    intro i request sent
    rcases List.mem_cons.mp sent with rfl | sent
    · obtain ⟨p, -, move⟩ := shifts.exists_moves rfl
      have known := knows.knows i
      rcases move.of_sends with ⟨asking, -⟩ | ⟨token', presenting, bears⟩
      · rw [asking] at known
        cases known
      · rw [presenting] at known
        obtain rfl := Option.some.inj known
        exact ⟨bears.ne_tokenRequest c, bears⟩
    · exact ih ⟨places', there, order.shifts shifts, knows'⟩ i request sent

/-! ### After a search that failed -/

/-- An operation that leaves its search with an error gives the turn back, and ends. -/
theorem Describes.endTurn_of_leaving {watch : Watch} {error : AdminError}
    (h : Describes c watch (.leaving (.error error)) (u.stage i)) :
    ∃ w, Step u (.asks i .endTurn ()) w ∧ w.stage i = .doing (.done (.error error)) ∧
      w.shared.holder = none := by
  generalize stage : u.stage i = here at h
  cases h with
  | @leaving go goes =>
    have acts : Acts i u.shared (u.stage i) (.asks i .endTurn ()) (.doing (go (.error error)))
        { u.shared with holder := none } := stage ▸ .asks .endTurn
    refine ⟨_, .acts acts, ?_, rfl⟩
    show Function.update u.stage i _ i = _
    rw [Function.update_self, goes.fails]

/-- **A search that fails fails its own operation only.** -/
theorem Scene.Has.failsAlone (h : u.Has c watches Anywhere) (step : Step u e v)
    (fails : FailsFetch c u.shared i e) : FailsAlone u v i := by
  obtain ⟨places, here, order, -⟩ := h
  obtain ⟨places', shifts, there⟩ := step.shifts here
  obtain ⟨p, rfl, move⟩ := shifts.exists_moves fails.actor_eq
  have failing := Failing.of_failsFetch order move fails
  refine ⟨fun j other => step.stage_of_ne ?_, failing.token, ?_⟩
  · rw [fails.actor_eq]
    exact fun same => other (Option.some.inj same).symm
  have own := there i
  rw [Function.update_self] at own
  obtain ⟨-, ⟨⟨error, rfl⟩, same⟩ | ⟨rfl, rfl, free⟩⟩ := move.of_failsFetch (order.inside i) fails
  · obtain ⟨w, ends, done, free⟩ := own.endTurn_of_leaving
    exact .inr ⟨error, w, ends, done, free⟩
  · exact .inl ⟨step.stage_of_abandons, by rw [free]⟩

/-- **After it what was kept stays kept** until somebody takes the turn, who is about to ask the
provider. -/
theorem Scene.Has.seeks {watch : Watch} {x y : Scene ι α} (h : u.Has c watches Anywhere)
    (step : Step u e v) (fails : FailsFetch c u.shared i e) (run : Run Scene.Any v events x)
    (quiet : ∀ k watch, .asks k (.turn watch) true ∉ events)
    (takes : Step x (.asks j (.turn watch) true) y) :
    y.shared.token = u.shared.token ∧
      y.Has c watches fun places s => places j = .looking ∧ s.IsWithoutToken := by
  have failed : v.Has c watches (Failing u.shared.token) := by
    refine h.step step fun places places' order _ shifts => ?_
    obtain ⟨p, rfl, move⟩ := shifts.exists_moves fails.actor_eq
    exact .of_failsFetch order move fails
  have later : x.Has c watches (Failing u.shared.token) := by
    refine failed.run run fun _ _ e he _ places places' _ failing shifts => ?_
    exact failing.shifts shifts fun k watch same => quiet k watch (same ▸ he)
  have taken : y.Has c watches fun places s =>
      s.token = u.shared.token ∧ places j = .looking ∧ s.IsWithoutToken := by
    refine later.step takes fun places places' order failing shifts => ?_
    obtain ⟨p, rfl, move⟩ := shifts.exists_moves rfl
    rw [Function.update_self]
    generalize places j = here at move
    generalize y.shared = shared at move
    cases move with
    | enters _ free => exact ⟨failing.token, rfl, failing.without⟩
  obtain ⟨places, here, order, token, looking, without⟩ := taken
  exact ⟨token, places, here, order, looking, without⟩

/-- **The first request of who is about to ask** is the one for a token. -/
theorem Scene.Has.first {request : Request}
    (h : u.Has c watches fun places s => places j = .looking ∧ s.IsWithoutToken)
    (run : Run Scene.Any u (before ++ [.sends j request]) v)
    (quiet : ∀ other, .sends j other ∉ before) : c.tokenRequest = .ok request := by
  obtain ⟨x, y, start, sends, -⟩ := run.parted
  have seeking : x.Has c watches fun places s => Seeks s (places j) := by
    have first : u.Has c watches fun places s => Seeks s (places j) := by
      obtain ⟨places, here, order, looking, without⟩ := h
      refine ⟨places, here, order, ?_⟩
      show Seeks u.shared (places j)
      rw [looking]
      exact without
    refine first.run start fun _ _ e he _ places places' order seeks shifts => ?_
    exact order.seeks seeks shifts fun other same => quiet other (same ▸ he)
  obtain ⟨places, here, order, seeks⟩ := seeking
  obtain ⟨places', shifts, -⟩ := sends.shifts here
  obtain ⟨p, -, move⟩ := shifts.exists_moves rfl
  rcases move.of_sends with ⟨-, own⟩ | ⟨token, presenting, -⟩
  · exact own
  · rw [presenting] at seeks
    cases seeks

/-- **Who is about to ask may do so**, whatever the others do. -/
theorem Scene.Has.sends {request : Request}
    (h : u.Has c watches fun places s => places j = .looking ∧ s.IsWithoutToken)
    (own : c.tokenRequest = .ok request) :
    ∃ before v, Run Scene.Any u (before ++ [.sends j request]) v ∧
      ∀ e ∈ before, e.actor = some j := by
  obtain ⟨places, here, order, looking, without⟩ := h
  have place := here j
  rw [looking] at place
  generalize stage : u.stage j = doing at place
  cases place with
  | @looking go goes =>
    have sends : ∀ x : Scene ι α, x.stage j = .doing (askFor c (watches j) go) →
        ∃ y, Step x (.sends j request) y := by
      intro x asks
      obtain ⟨y, sent, -⟩ := Acts.exists_step (.of_askFor own j _ go) asks
      exact ⟨y, sent⟩
    obtain ⟨v, looks, found, same⟩ := Acts.exists_step (.asks .stored) stage
    -- where a token is kept its time is looked at before the provider is asked
    cases kept : u.shared.token with
    | none =>
      rw [kept] at found
      obtain ⟨w, sent⟩ := sends v found
      refine ⟨[_], w, .cons trivial looks (.cons trivial sent (.nil trivial)), ?_⟩
      intro e he
      rw [List.mem_singleton.mp he]
      rfl
    | some token =>
      have expired : token.isUsableAt v.shared.clock = false := same ▸ without token kept
      rw [kept] at found
      obtain ⟨w, weighs, lacks, -⟩ := Acts.exists_step (.asks .now) found
      rw [afterNow, if_neg (Bool.not_eq_true _ ▸ expired)] at lacks
      obtain ⟨x, sent⟩ := sends w lacks
      refine ⟨[_, _], x,
        .cons trivial looks (.cons trivial weighs (.cons trivial sent (.nil trivial))), ?_⟩
      intro e he
      rcases List.mem_cons.mp he with rfl | he
      · rfl
      · rw [List.mem_singleton.mp he]
        rfl

end proofs

/-! ### The guarantee -/

/-- **One request for a token at a time**, in every run of any operations: at most one is in flight;
while no kept token expires, one that is issued is enough for all who come after; and a search that
fails is the failure of its own operation, after which the next one asks the provider itself. -/
theorem single_flight {tasks : ι → Task} [DecidableEq ι]
    {u v : Scene ι fun i => (tasks i).action.Value} (fresh : u.IsFresh c)
    (run : Run Scene.Any u events v) : SingleFlight c u events v := by
  have start := fresh.has
  have stands : v.Has c (fun i => (tasks i).watch) Anywhere :=
    start.anywhere.run run fun _ _ _ _ _ _ _ _ _ _ => trivial
  refine ⟨fun i j => stands.single, ?_, fun i e w => stands.failsAlone, ?_⟩
  · rintro nothing lasting before e after token rfl issues
    -- nothing is known up to the reply, its token is known from then on
    obtain ⟨w, x, first, step, rest⟩ := lasting.parted
    have knows : u.Has c (fun i => (tasks i).watch) (Known none) := by
      obtain ⟨places, here, order, known⟩ := start
      exact ⟨places, here, order, known nothing⟩
    obtain ⟨known, knows⟩ := knows.known first
    have issued : x.Has c (fun i => (tasks i).watch) (Known (some token)) := by
      refine knows.step step fun places places' order known shifts => ?_
      obtain ⟨known', knows', -, same⟩ := known.shifts order first.finish shifts
      exact same token issues ▸ knows'
    exact issued.shares rest
  · intro i e w step fails more x later quiet j watch y takes
    obtain ⟨token, seeks⟩ := stands.seeks step fails later quiet takes
    have without : y.shared.IsWithoutToken := by
      obtain ⟨_, -, -, -, without⟩ := seeks
      exact without
    exact ⟨token, without, fun _ _ _ => seeks.first, fun _ => seeks.sends⟩

/-! ### Three lookups -/

/-- A response that issues a token for a minute. -/
def minute : Response :=
  ⟨200, ⟨[.chunk (Text.Utf8.encode
    "\x7b\"access_token\":\"t\",\"expires_in\":60\x7d".toList)], true⟩⟩

/-- Three lookups of a realm are called. -/
def lookups (_ : Fin 3) : Task :=
  ⟨.realmExists "org", .atRequests⟩

/-- What a lookup does after its search. -/
def lookingUp : Except AdminError String → Admin.Operating Bool :=
  goOn fun token => exchange AdminClient.lookupOperation (localClient.realmRequest "org" token)
    (AdminClient.existenceOf .atRequests)

/-- None of them has begun, and nothing is kept. -/
def unbegun : Scene (Fin 3) fun i => (lookups i).action.Value :=
  ⟨⟨.epoch, none, none⟩, fun i => .doing ((lookups i).action.dialog localClient (lookups i).watch)⟩

/-- The first lookup is given up while it waits for a token, the second one gets a token, and the
third one uses it. -/
def oneToken (own presented : Request) (token : StoredToken) : List (Event (Fin 3)) :=
  [.asks 0 (.turn .atRequests) true, .asks 0 .stored none, .sends 0 own, .abandons 0,
    .asks 1 (.turn .atRequests) true, .asks 1 .stored none, .sends 1 own,
    .receives 1 own (.answered minute), .asks 1 .now .epoch, .asks 1 (.keep token) (),
    .asks 1 .endTurn (),
    .asks 2 (.turn .atRequests) true, .asks 2 .stored (some token), .asks 2 .now .epoch,
    .asks 2 .endTurn (), .sends 2 presented]

/-- **A lookup that is given up costs the others nothing** but a request of their own, and the token
of the second one is enough for the third. -/
theorem single_flight_givenUp : ∃ own presented token v, localClient.tokenRequest = .ok own ∧
    unbegun.IsFresh localClient ∧ Run Scene.Any unbegun (oneToken own presented token) v ∧
      SingleFlight localClient unbegun (oneToken own presented token) v := by
  obtain ⟨own, asks⟩ : ∃ request, localClient.tokenRequest = .ok request := ⟨_, rfl⟩
  obtain ⟨presented, presents⟩ : ∃ request, localClient.realmRequest "org" "t" = .ok request :=
    ⟨_, rfl⟩
  have fresh : unbegun.IsFresh localClient := ⟨rfl, fun _ => rfl⟩
  have begins : unbegun = ⟨⟨.epoch, none, none⟩, fun _ =>
      .doing (.ask (.turn .atRequests) (afterTurn localClient .atRequests lookingUp))⟩ :=
    congrArg (Scene.mk _) (funext fun _ => congrArg Stage.doing (accessToken_bind _ _ _))
  have issues : Issues (.answered minute) ⟨"t", some 60⟩ :=
    ⟨minute, rfl, rfl, rfl, by decide, rfl⟩
  have receives : ∀ s : Shared (Fin 3), Acts 1 s (.awaiting own (afterReply .atRequests lookingUp))
      (.receives 1 own (.answered minute))
        (.doing (.ask .now (afterDate lookingUp ⟨"t", some 60⟩))) s := by
    intro s
    rw [← afterReply_of_issues issues .atRequests]
    exact .receives own _ _
  obtain ⟨next, uses⟩ : ∃ next, lookingUp (.ok "t") = .ask (.send (.ok presented)) next :=
    ⟨_, congrArg (fun prepared => exchange AdminClient.lookupOperation prepared
      (AdminClient.existenceOf .atRequests)) presents⟩
  have shows : ∀ s : Shared (Fin 3), Acts 2 s (.doing (lookingUp (.ok "t"))) (.sends 2 presented)
      (.awaiting presented next) s := by
    intro s
    rw [uses]
    exact .sends presented next
  have run : ∃ v, Run Scene.Any unbegun
      (oneToken own presented ⟨"t", tokenExpiry .epoch (some 60)⟩) v := by
    rw [begins]
    apply Exists.intro
    apply Run.cons trivial (.acts (i := 0) (.asks (s := ⟨.epoch, none, none⟩) (.turn _ rfl)))
    apply Run.cons trivial (.acts (i := 0) (.asks (s := ⟨.epoch, none, some 0⟩) .stored))
    apply Run.cons trivial (.acts (.of_askFor asks 0 ⟨.epoch, none, some 0⟩ lookingUp))
    apply Run.cons trivial (.acts (i := 0) (.abandons (s := ⟨.epoch, none, some 0⟩) (.reply _ _)))
    apply Run.cons trivial (.acts (i := 1) (.asks (s := ⟨.epoch, none, none⟩) (.turn _ rfl)))
    apply Run.cons trivial (.acts (i := 1) (.asks (s := ⟨.epoch, none, some 1⟩) .stored))
    apply Run.cons trivial (.acts (.of_askFor asks 1 ⟨.epoch, none, some 1⟩ lookingUp))
    apply Run.cons trivial (.acts (receives ⟨.epoch, none, some 1⟩))
    apply Run.cons trivial (.acts (i := 1) (.asks (s := ⟨.epoch, none, some 1⟩) .now))
    apply Run.cons trivial (.acts (i := 1) (.asks (s := ⟨.epoch, none, some 1⟩) (.keep _)))
    apply Run.cons trivial (.acts (i := 1) (.asks (s := ⟨.epoch, some _, some 1⟩) .endTurn))
    apply Run.cons trivial (.acts (i := 2) (.asks (s := ⟨.epoch, some _, none⟩) (.turn _ rfl)))
    apply Run.cons trivial (.acts (i := 2) (.asks (s := ⟨.epoch, some _, some 2⟩) .stored))
    apply Run.cons trivial (.acts (i := 2) (.asks (s := ⟨.epoch, some _, some 2⟩) .now))
    apply Run.cons trivial (.acts (i := 2) (.asks (s := ⟨.epoch, some _, some 2⟩) .endTurn))
    exact .cons trivial (.acts (shows ⟨.epoch, some _, none⟩)) (.nil trivial)
  obtain ⟨v, run⟩ := run
  exact ⟨own, presented, _, v, asks, fresh, run, single_flight fresh run⟩

end RealmKeeper.Provider.Concurrent
