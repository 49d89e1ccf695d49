import RealmKeeper.Proofs.SearchPositions

/-!
# The token that operations share

Operations that go on at once share one search for a token: while one of them asks the provider the
others wait, and find what it has kept.

* `Shifts`: a step of all operations, place by place;
* `Orderly`: who has the turn is the only one inside a search, and asks only if no token is kept
  that can be used;
* `Known`: while no token expires, all tokens are the one that was issued;
* `Scene.Has`: all this holds of the places at which the operations are, and `Scene.Has.step`: a
  step of the operations is one of their places.
-/

namespace RealmKeeper.Provider.Concurrent

open RealmKeeper.Http RealmKeeper.Admin

variable {ι : Type} {c : AdminClient} {i j : ι} {s t : Shared ι} {e : Event ι}
  {p p' : Position} {places places' : ι → Position}

theorem Shared.IsWithoutToken.congr (h : s.IsWithoutToken) (token : t.token = s.token)
    (clock : t.clock = s.clock) : t.IsWithoutToken := by
  unfold Shared.IsWithoutToken
  rw [token, clock]
  exact h

/-! ### A step of one operation -/

section moves

variable [DecidableEq ι]

theorem Moves.actor_eq (h : Moves c i s p e p' t) : e.actor = some i := by
  cases h <;> rfl

theorem Moves.clock_eq (h : Moves c i s p e p' t) : t.clock = s.clock := by
  cases h <;> rfl

/-- Only who has the turn changes what is kept. -/
theorem Moves.token_eq (h : Moves c i s p e p' t) (outside : ¬ p.HasTurn) : t.token = s.token := by
  cases h with
  | keeps token => exact absurd trivial outside
  | _ => rfl

theorem Moves.inside (h : Moves c i s p e p' t) (inside : p.HasTurn ↔ s.holder = some i) :
    p'.HasTurn ↔ t.holder = some i := by
  cases h with
  | enters watch free => simp [Position.HasTurn]
  | leaves | fails => simp [Position.HasTurn]
  | abandons waits =>
    unfold Shared.release
    by_cases own : s.holder = some i <;> simp [Position.HasTurn, own]
  | hears prepared reply further => rcases further with rfl | rfl <;> exact inside
  | receives bears reply further => rcases further with rfl | rfl <;> exact inside
  | _ => exact inside

theorem Moves.holder_of_ne (h : Moves c i s p e p' t) (inside : p.HasTurn ↔ s.holder = some i)
    (other : j ≠ i) : t.holder = some j ↔ s.holder = some j := by
  have different : (some i : Option ι) ≠ some j := fun same => other (Option.some.inj same).symm
  cases h with
  | enters watch free => simp [free, different]
  | leaves | fails =>
    have own : s.holder = some i := inside.mp trivial
    simp [own, different]
  | abandons waits =>
    unfold Shared.release
    by_cases own : s.holder = some i <;> simp [own, different]
  | _ => rfl

end moves

/-- **What is kept fits a place**: a token that was found is kept, and a new one is asked for only
if none can be used. -/
def Fits (s : Shared ι) : Position → Prop
  | .weighing kept => s.token = some kept
  | .asking | .fetching => s.IsWithoutToken
  | _ => True

theorem fits_of_outside (outside : ¬ p.HasTurn) : Fits s p := by
  cases p with
  | weighing | asking | fetching => exact absurd trivial outside
  | _ => trivial

theorem Fits.congr (h : Fits s p) (token : t.token = s.token) (clock : t.clock = s.clock) :
    Fits t p := by
  cases p with
  | weighing kept => exact token.trans h
  | asking | fetching => exact Shared.IsWithoutToken.congr h token clock
  | _ => trivial

theorem Fits.later (h : Fits s p) (nanoseconds : Nat) : Fits (s.later nanoseconds) p := by
  cases p with
  | weighing kept => exact h
  | asking | fetching => exact Shared.IsWithoutToken.later h nanoseconds
  | _ => trivial

theorem Moves.fits [DecidableEq ι] (h : Moves c i s p e p' t) (fits : Fits s p) : Fits t p' := by
  cases h with
  | finds stored => exact stored
  | lacks nothing =>
    intro token kept
    cases nothing.symm.trans kept
  | @expires kept expired =>
    intro token stored
    obtain rfl : kept = token := Option.some.inj (fits.symm.trans stored)
    exact expired
  | requests prepared => exact fits
  | hears prepared reply further => rcases further with rfl | rfl <;> trivial
  | receives bears reply further => rcases further with rfl | rfl <;> trivial
  | _ => trivial

/-! ### Who has the turn -/

/-- **A step of all operations**, place by place. -/
inductive Shifts [DecidableEq ι] (c : AdminClient) (places : ι → Position) (s : Shared ι) :
    Event ι → (ι → Position) → Shared ι → Prop
  | moves {i : ι} {e : Event ι} {p : Position} {t : Shared ι} (h : Moves c i s (places i) e p t) :
      Shifts c places s e (Function.update places i p) t
  | passes (nanoseconds : Nat) :
      Shifts c places s (.passes nanoseconds) places (s.later nanoseconds)

/-- **Nobody but the one who has the turn is inside a search**, and what is kept fits all places. -/
structure Orderly (places : ι → Position) (s : Shared ι) : Prop where
  inside : ∀ i, (places i).HasTurn ↔ s.holder = some i
  fits : ∀ i, Fits s (places i)

theorem Orderly.eq_of_hasTurn (h : Orderly places s) (here : (places i).HasTurn)
    (there : (places j).HasTurn) : i = j :=
  Option.some.inj (((h.inside i).mp here).symm.trans ((h.inside j).mp there))

section shifts

variable [DecidableEq ι]

theorem Shifts.exists_moves (h : Shifts c places s e places' t) (own : e.actor = some i) :
    ∃ p, places' = Function.update places i p ∧ Moves c i s (places i) e p t := by
  cases h with
  | moves move =>
    obtain rfl := Option.some.inj (move.actor_eq.symm.trans own)
    exact ⟨_, rfl, move⟩
  | passes n => cases own

theorem Orderly.token_eq (h : Orderly places s) (move : Moves c i s (places i) e p t)
    (other : j ≠ i) (turn : (places j).HasTurn) : t.token = s.token :=
  move.token_eq fun own => other (h.eq_of_hasTurn turn own)

/-- **Every step keeps the order.** -/
theorem Orderly.shifts (h : Orderly places s) (step : Shifts c places s e places' t) :
    Orderly places' t := by
  cases step with
  | passes n => exact ⟨h.inside, fun i => (h.fits i).later n⟩
  | @moves i e p t move =>
    refine ⟨fun j => ?_, fun j => ?_⟩
    · by_cases same : j = i
      · subst same
        rw [Function.update_self]
        exact move.inside (h.inside j)
      · rw [Function.update_of_ne same]
        exact (h.inside j).trans (move.holder_of_ne (h.inside i) same).symm
    · by_cases same : j = i
      · subst same
        rw [Function.update_self]
        exact move.fits (h.fits j)
      · rw [Function.update_of_ne same]
        by_cases turn : (places j).HasTurn
        · exact (h.fits j).congr (h.token_eq move same turn) move.clock_eq
        · exact fits_of_outside turn

end shifts

/-! ### Which token is known -/

/-- **The event issues a token**: it is the reply to a request for one. -/
def Event.Issues (c : AdminClient) (e : Event ι) (token : String) : Prop :=
  ∃ i request reply issued, e = .receives i request reply ∧ c.tokenRequest = .ok request ∧
    Concurrent.Issues reply issued ∧ issued.token = token

/-- **What is known at a place**: who has a token has the one that was issued, and who asks for one
knows that none was. -/
def Knows (known : Option String) : Position → Prop
  | .weighing kept => known = some kept.value
  | .asking | .fetching => known = none
  | .dating issued => known = some issued.token
  | .keeping token => known = some token.value
  | .leaving (.ok token) | .presenting token => known = some token
  | _ => True

/-- A token has been issued at this place that is not yet kept. -/
def Position.Brings : Position → Prop
  | .dating _ | .keeping _ => True
  | _ => False

/-- **All tokens are the one that was issued**, which is kept or is about to be. -/
structure Known (known : Option String) (places : ι → Position) (s : Shared ι) : Prop where
  kept : ∀ token, s.token = some token → known = some token.value
  knows : ∀ i, Knows known (places i)
  held : known ≠ none → s.token ≠ none ∨ ∃ i, (places i).Brings

/-- Every kept token can be used. -/
def Shared.NothingExpired (s : Shared ι) : Prop :=
  ∀ token, s.token = some token → token.isUsableAt s.clock = true

variable {known : Option String} {token : String}

theorem Issues.unique {reply : Reply} {first second : IssuedToken} (h : Issues reply first)
    (h' : Issues reply second) : first = second := by
  obtain ⟨response, rfl, -, -, -, read⟩ := h
  obtain ⟨_, same, -, -, -, read'⟩ := h'
  obtain rfl := Reply.answered.inj same
  exact Except.ok.inj (read.symm.trans read')

theorem not_issues_passes (nanoseconds : Nat) :
    ¬ Event.Issues c (.passes nanoseconds : Event ι) token := by
  rintro ⟨i, request, reply, issued, same, -⟩
  cases same

section moves

variable [DecidableEq ι]

theorem Moves.of_issues (h : Moves c i s p e p' t) (issues : e.Issues c token) :
    p = .fetching ∧ (∃ issued, p' = .dating issued ∧ issued.token = token) ∧ t = s := by
  obtain ⟨j, request, reply, issued, rfl, prepared, issues, rfl⟩ := issues
  cases h with
  | obtains _ own => exact ⟨rfl, ⟨issued, by rw [own.unique issues], rfl⟩, rfl⟩
  | misses _ nothing => exact absurd issues (nothing issued)
  | receives bears => exact absurd prepared (bears.ne_tokenRequest c)

theorem Moves.brings (h : Moves c i s p e p' t) (brings : p.Brings) :
    t.token ≠ none ∨ p'.Brings := by
  cases h with
  | dates issued => exact .inr trivial
  | keeps token => exact .inl (Option.some_ne_none token)
  | abandons waits => rcases waits with rfl | rfl | rfl <;> cases brings
  | _ => cases brings

theorem Moves.token_cases (h : Moves c i s p e p' t) :
    t.token = s.token ∨ ∃ token, p = .keeping token ∧ t.token = some token := by
  cases h with
  | keeps token => exact .inr ⟨token, rfl, rfl⟩
  | _ => exact .inl rfl

/-- **What is known at the next place** while nothing is issued. -/
theorem Moves.knows (h : Moves c i s p e p' t) (quiet : ∀ token, ¬ e.Issues c token)
    (knows : Knows known p) (fits : Fits s p) (fresh : s.NothingExpired)
    (kept : ∀ token, s.token = some token → known = some token.value)
    (looks : p = .looking → s.token = none → known = none) : Knows known p' := by
  cases h with
  | finds stored => exact kept _ stored
  | lacks nothing => exact looks rfl nothing
  | uses usable => exact knows
  | @expires token expired => cases expired.symm.trans (fresh token fits)
  | requests prepared => exact knows
  | @obtains request reply issued prepared issues =>
    exact absurd ⟨i, request, reply, issued, rfl, prepared, issues, rfl⟩ (quiet issued.token)
  | dates issued => exact knows
  | keeps token => exact knows
  | leaves token => exact knows
  | hears prepared reply further => rcases further with rfl | rfl <;> trivial
  | receives bears reply further => rcases further with rfl | rfl <;> trivial
  | _ => trivial

theorem Known.moves (h : Known known places s) (order : Orderly places s) (fresh : s.NothingExpired)
    (move : Moves c i s (places i) e p t) (quiet : ∀ token, ¬ e.Issues c token) :
    Known known (Function.update places i p) t := by
  refine ⟨fun token stored => ?_, fun j => ?_, fun some_known => ?_⟩
  · rcases move.token_cases with same | ⟨token', keeps, stored'⟩
    · exact h.kept token (same ▸ stored)
    · obtain rfl : token' = token := Option.some.inj (stored'.symm.trans stored)
      have knows := h.knows i
      rw [keeps] at knows
      exact knows
  · by_cases same : j = i
    · subst same
      rw [Function.update_self]
      refine move.knows quiet (h.knows j) (order.fits j) fresh h.kept fun looking nothing => ?_
      -- nobody else has a token that is not yet kept, since this one has the turn
      by_contra some_known
      rcases h.held some_known with stored | ⟨k, brings⟩
      · exact stored nothing
      · have turn : (places k).HasTurn := by
          revert brings
          cases places k <;> simp [Position.Brings, Position.HasTurn]
        have own : (places j).HasTurn := looking ▸ trivial
        rw [order.eq_of_hasTurn turn own, looking] at brings
        exact brings
    · rw [Function.update_of_ne same]
      exact h.knows j
  · rcases h.held some_known with stored | ⟨j, brings⟩
    · left
      rcases move.token_cases with same | ⟨token', -, stored'⟩
      · rw [same]
        exact stored
      · rw [stored']
        exact Option.some_ne_none token'
    · by_cases same : j = i
      · subst same
        rcases move.brings brings with stored | brings
        · exact .inl stored
        · exact .inr ⟨j, by rwa [Function.update_self]⟩
      · exact .inr ⟨j, by rwa [Function.update_of_ne same]⟩

theorem Known.issued (h : Known known places s) (order : Orderly places s)
    (move : Moves c i s (places i) e p t) (issues : e.Issues c token) :
    known = none ∧ Known (some token) (Function.update places i p) t := by
  obtain ⟨fetching, ⟨issued, rfl, rfl⟩, rfl⟩ := move.of_issues issues
  have unknown : known = none := by
    have knows := h.knows i
    rw [fetching] at knows
    exact knows
  subst unknown
  refine ⟨rfl, fun token stored => ?_, fun j => ?_, fun _ => ?_⟩
  -- where nothing is known nothing is kept, and nobody has a token
  · cases h.kept token stored
  · by_cases same : j = i
    · subst same
      rw [Function.update_self]
      exact rfl
    · rw [Function.update_of_ne same]
      have knows := h.knows j
      have own : (places i).HasTurn := fetching ▸ trivial
      have outside : ¬ (places j).HasTurn := fun turn => same (order.eq_of_hasTurn turn own)
      revert knows outside
      cases places j <;> simp [Knows, Position.HasTurn]
  · exact .inr ⟨i, by rw [Function.update_self]; trivial⟩

/-- **Every step keeps what is known**, and a token that is issued is known after it. -/
theorem Known.shifts (h : Known known places s) (order : Orderly places s)
    (fresh : s.NothingExpired) (step : Shifts c places s e places' t) :
    ∃ known', Known known' places' t ∧ (∀ token, known = some token → known' = some token) ∧
      ∀ token, e.Issues c token → known' = some token := by
  cases step with
  | passes n =>
    exact ⟨known, ⟨h.kept, h.knows, h.held⟩, fun _ same => same,
      fun _ issues => absurd issues (not_issues_passes n)⟩
  | moves move =>
    by_cases issues : ∃ token, e.Issues c token
    · obtain ⟨token, issues⟩ := issues
      obtain ⟨rfl, known'⟩ := h.issued order move issues
      refine ⟨some token, known', fun _ same => ?_, fun token' issues' => ?_⟩
      · cases same
      obtain ⟨-, ⟨issued, first, value⟩, -⟩ := move.of_issues issues
      obtain ⟨-, ⟨issued', second, value'⟩, -⟩ := move.of_issues issues'
      obtain rfl := Position.dating.inj (first.symm.trans second)
      rw [← value, value']
    · have quiet : ∀ token, ¬ e.Issues c token := fun token own => issues ⟨token, own⟩
      exact ⟨known, h.moves order fresh move quiet, fun _ same => same,
        fun token own => absurd own (quiet token)⟩

end moves

/-! ### All operations -/

section scenes

variable [DecidableEq ι] {α : ι → Type} {watches : ι → Watch} {u v : Scene ι α}

/-- **Something holds of the places** at which the operations are, which are in order. -/
def Scene.Has (c : AdminClient) (watches : ι → Watch) (P : (ι → Position) → Shared ι → Prop)
    (u : Scene ι α) : Prop :=
  ∃ places, (∀ i, Describes c (watches i) (places i) (u.stage i)) ∧ Orderly places u.shared ∧
    P places u.shared

theorem Step.shifts (h : Step u e v) (here : ∀ i, Describes c (watches i) (places i) (u.stage i)) :
    ∃ places', Shifts c places u.shared e places' v.shared ∧
      ∀ i, Describes c (watches i) (places' i) (v.stage i) := by
  cases h with
  | passes n => exact ⟨places, .passes n, here⟩
  | @acts i e next t acts =>
    obtain ⟨p, move, there⟩ := (here i).acts acts
    refine ⟨Function.update places i p, .moves move, fun j => ?_⟩
    by_cases same : j = i
    · subst same
      rw [Function.update_self]
      show Describes c (watches j) p (Function.update u.stage j next j)
      rw [Function.update_self]
      exact there
    · rw [Function.update_of_ne same]
      show Describes c (watches j) (places j) (Function.update u.stage i next j)
      rw [Function.update_of_ne same]
      exact here j

/-- **What a step from place to place brings** holds after a step. -/
theorem Scene.Has.step {P Q : (ι → Position) → Shared ι → Prop} (h : u.Has c watches P)
    (step : Step u e v)
    (brings : ∀ places places', Orderly places u.shared → P places u.shared →
      Shifts c places u.shared e places' v.shared → Q places' v.shared) : v.Has c watches Q := by
  obtain ⟨places, here, order, holds⟩ := h
  obtain ⟨places', shifts, there⟩ := step.shifts here
  exact ⟨places', there, order.shifts shifts, brings places places' order holds shifts⟩

/-- **What each step from place to place keeps** holds after a run. -/
theorem Scene.Has.run {P : (ι → Position) → Shared ι → Prop} {Holds : Scene ι α → Prop}
    {events : List (Event ι)} (h : u.Has c watches P) (run : Run Holds u events v)
    (keeps : ∀ u v : Scene ι α, ∀ e ∈ events, Holds u → ∀ places places',
      Orderly places u.shared → P places u.shared → Shifts c places u.shared e places' v.shared →
        P places' v.shared) : v.Has c watches P := by
  refine run.keeps h fun u e v he holds _ step has => ?_
  exact has.step step (keeps u v e he holds)

end scenes

end RealmKeeper.Provider.Concurrent
