import RealmKeeper.Proofs.SharedToken

/-!
# After a search that failed

An operation whose search for a token fails leaves the others what they had, and the next one that
takes the turn asks the provider itself.

* `FailsFetch`: the steps at which a search fails;
* `Failing`: a search has failed, and nobody has begun another one;
* `Seeks`: an operation is about to ask the provider.
-/

namespace RealmKeeper.Provider.Concurrent

open RealmKeeper.Http RealmKeeper.Admin

variable {ι : Type} {c : AdminClient} {i j : ι} {s t : Shared ι} {e : Event ι}
  {p p' : Position} {places places' : ι → Position}

/-- **The search of an operation fails here**: its request comes back before it is sent, the reply
issues no token, or it is given up. -/
inductive FailsFetch (c : AdminClient) (s : Shared ι) (i : ι) : Event ι → Prop
  | unsent (reply : Reply) (turn : s.holder = some i) :
      FailsFetch c s i (.asks i (.send c.tokenRequest) reply)
  | refused {request : Request} {reply : Reply} (own : c.tokenRequest = .ok request)
      (nothing : ∀ issued, ¬ Issues reply issued) :
      FailsFetch c s i (.receives i request reply)
  | abandoned (turn : s.holder = some i) : FailsFetch c s i (.abandons i)

/-- **A search has failed**, nobody has begun another one, and what is kept cannot be used. -/
structure Failing (kept : Option StoredToken) (places : ι → Position) (s : Shared ι) : Prop where
  token : s.token = kept
  without : s.IsWithoutToken
  leaves : ∀ i, (places i).HasTurn → ∃ e, places i = .leaving (.error e)

/-- **An operation is about to ask the provider** for a token, or it has failed before. -/
def Seeks (s : Shared ι) : Position → Prop
  | .looking | .weighing _ | .asking => s.IsWithoutToken
  | .leaving (.error _) | .ended => True
  | _ => False

theorem Seeks.congr (h : Seeks s p) (token : p.HasTurn → t.token = s.token)
    (clock : t.clock = s.clock) : Seeks t p := by
  cases p with
  | looking | weighing | asking => exact Shared.IsWithoutToken.congr h (token trivial) clock
  | leaving outcome =>
    cases outcome with
    | ok token => exact h
    | error e => trivial
  | _ => exact h

theorem Seeks.later (h : Seeks s p) (nanoseconds : Nat) : Seeks (s.later nanoseconds) p := by
  cases p with
  | looking | weighing | asking => exact Shared.IsWithoutToken.later h nanoseconds
  | leaving outcome =>
    cases outcome with
    | ok token => exact h
    | error e => trivial
  | _ => exact h

theorem FailsFetch.actor_eq (h : FailsFetch c s i e) : e.actor = some i := by
  cases h <;> rfl

section moves

variable [DecidableEq ι]

theorem Moves.of_sends {request : Request} (h : Moves c i s p (.sends i request) p' t) :
    p = .asking ∧ c.tokenRequest = .ok request ∨
      ∃ token, p = .presenting token ∧ request.Bears token := by
  cases h with
  | requests prepared => exact .inl ⟨rfl, prepared⟩
  | presents bears => exact .inr ⟨_, rfl, bears⟩

theorem Moves.enters_of_hasTurn (h : Moves c i s p e p' t) (turn : p'.HasTurn) :
    p.HasTurn ∨ ∃ watch, e = .asks i (.turn watch) true := by
  cases h with
  | enters watch free => exact .inr ⟨watch, rfl⟩
  | hears prepared reply further => rcases further with rfl | rfl <;> cases turn
  | receives bears reply further => rcases further with rfl | rfl <;> cases turn
  | turnedAway | fails | leaves | presents | abandons => cases turn
  | _ => exact .inl trivial

/-- **A step at which a search fails** leaves it, and changes nothing else. -/
theorem Moves.of_failsFetch (h : Moves c i s p e p' t) (inside : p.HasTurn ↔ s.holder = some i)
    (fails : FailsFetch c s i e) :
    (p = .asking ∨ p = .fetching) ∧ ((∃ error, p' = .leaving (.error error)) ∧ t = s ∨
      p' = .ended ∧ e = .abandons i ∧ t = { s with holder := none }) := by
  cases fails with
  | unsent reply turn =>
    have own := inside.mpr turn
    cases h with
    | gets _ error => exact ⟨.inl rfl, .inl ⟨⟨error, rfl⟩, rfl⟩⟩
    | hears => cases own
  | refused prepared nothing =>
    cases h with
    | obtains _ issues => exact absurd issues (nothing _)
    | misses _ _ error => exact ⟨.inr rfl, .inl ⟨⟨error, rfl⟩, rfl⟩⟩
    | receives bears => exact absurd prepared (bears.ne_tokenRequest c)
  | abandoned turn =>
    have own := inside.mpr turn
    cases h with
    | abandons waits =>
      obtain rfl : p = .fetching := by rcases waits with rfl | rfl | rfl <;> first | rfl | cases own
      refine ⟨.inr rfl, .inr ⟨rfl, rfl, ?_⟩⟩
      rw [Shared.release, if_pos turn]

/-- **Who is about to ask the provider** does so, or fails. -/
theorem Moves.seeks (h : Moves c i s p e p' t) (fits : Fits s p) (seeks : Seeks s p) :
    Seeks t p' ∨ ∃ request, e = .sends i request := by
  cases h with
  | finds stored => exact .inl seeks
  | lacks nothing => exact .inl seeks
  | uses usable => cases usable.symm.trans (seeks _ fits)
  | expires expired => exact .inl seeks
  | gets reply e => exact .inl trivial
  | requests prepared => exact .inr ⟨_, rfl⟩
  | fails e => exact .inl trivial
  | abandons waits => exact .inl trivial
  | _ => cases seeks

/-- **A search that failed** leaves what was kept, which cannot be used. -/
theorem Failing.of_failsFetch (order : Orderly places s) (move : Moves c i s (places i) e p t)
    (fails : FailsFetch c s i e) : Failing s.token (Function.update places i p) t := by
  obtain ⟨asks, next⟩ := move.of_failsFetch (order.inside i) fails
  have own : (places i).HasTurn := by rcases asks with asks | asks <;> exact asks ▸ trivial
  have without : s.IsWithoutToken := by
    have fits := order.fits i
    rcases asks with asks | asks <;> rw [asks] at fits <;> exact fits
  have others : ∀ j, j ≠ i → ¬ (Function.update places i p j).HasTurn := by
    intro j other turn
    rw [Function.update_of_ne other] at turn
    exact other (order.eq_of_hasTurn turn own)
  -- it leaves the search itself, or its turn is taken from it; the others are outside in both cases
  rcases next with ⟨⟨error, rfl⟩, rfl⟩ | ⟨rfl, -, rfl⟩
  · refine ⟨rfl, without, fun j turn => ?_⟩
    by_cases same : j = i
    · exact ⟨error, by rw [same, Function.update_self]⟩
    · exact absurd turn (others j same)
  · refine ⟨rfl, without, fun j turn => ?_⟩
    by_cases same : j = i
    · rw [same, Function.update_self] at turn
      cases turn
    · exact absurd turn (others j same)

/-- **Until somebody takes the turn** it stays so. -/
theorem Failing.shifts {kept : Option StoredToken} (h : Failing kept places s)
    (step : Shifts c places s e places' t) (quiet : ∀ k watch, e ≠ .asks k (.turn watch) true) :
    Failing kept places' t := by
  cases step with
  | passes n => exact ⟨h.token, h.without.later n, h.leaves⟩
  | @moves i e p t move =>
    have token : t.token = s.token := by
      rcases move.token_cases with same | ⟨token, keeps, -⟩
      · exact same
      · obtain ⟨error, leaves⟩ := h.leaves i (keeps ▸ trivial)
        cases keeps.symm.trans leaves
    refine ⟨token.trans h.token, h.without.congr token move.clock_eq, fun j turn => ?_⟩
    by_cases same : j = i
    · subst same
      rw [Function.update_self] at turn
      rcases move.enters_of_hasTurn turn with before | ⟨watch, enters⟩
      · obtain ⟨error, leaves⟩ := h.leaves j before
        rw [leaves] at move
        cases move with
        | fails => cases turn
        | abandons waits => cases turn
      · exact absurd enters (quiet j watch)
    · rw [Function.update_of_ne same] at turn ⊢
      exact h.leaves j turn

/-- **Until it sends a request**, an operation that is about to ask the provider stays so. -/
theorem Orderly.seeks (order : Orderly places s) (seeks : Seeks s (places j))
    (step : Shifts c places s e places' t) (quiet : ∀ request, e ≠ .sends j request) :
    Seeks t (places' j) := by
  cases step with
  | passes n => exact seeks.later n
  | @moves i e p t move =>
    by_cases same : j = i
    · subst same
      rw [Function.update_self]
      rcases move.seeks (order.fits j) seeks with seeks | ⟨request, sends⟩
      · exact seeks
      · exact absurd sends (quiet request)
    · rw [Function.update_of_ne same]
      exact seeks.congr (fun turn => order.token_eq move same turn) move.clock_eq

end moves

end RealmKeeper.Provider.Concurrent
