import RealmKeeper.Proofs.TokenCache

/-!
# Operations that go on at once

Many operations of one administrative client, the steps of which come in any order.

* `Stage`: how far an operation has come, and `Shared`: what all operations see;
* `Gives`: the questions that are answered at once, and `Acts`: a step of one operation;
* `Scene`, `Step` and `Run`: all operations, a step of one of them or of the time, and many steps.

An operation that asks for the turn is given it while nobody has it, so that those who ask meanwhile
wait. Who waits for the turn or for a reply can be given up by its caller, which gives back its turn
as well. The context of an operation may be cancelled at any time: its request then comes back
cancelled, before it is sent or after.
-/

namespace RealmKeeper.Provider.Concurrent

open RealmKeeper.Http RealmKeeper.Admin

variable {ι : Type} {α : Type}

/-! ### One operation -/

/-- **How far an operation has come.** -/
inductive Stage (α : Type) where
  /-- It asks its next question, or it is done. -/
  | doing (rest : Admin.Operating α)
  /-- Its request is sent, and the reply is awaited. -/
  | awaiting (request : Request) (next : Reply → Admin.Operating α)
  /-- Its caller has given it up. -/
  | abandoned

/-- An operation waits for the turn or for a reply. -/
inductive Stage.Waits : Stage α → Prop
  | turn (watch : Watch) (next : Bool → Admin.Operating α) :
      Waits (.doing (.ask (.turn watch) next))
  | reply (request : Request) (next : Reply → Admin.Operating α) : Waits (.awaiting request next)

/-- **What all operations see**: the time, the kept token, and who has the turn to look for one. -/
structure Shared (ι : Type) where
  clock : Instant
  token : Option StoredToken
  holder : Option ι

namespace Shared

/-- The turn is given back, if it is this operation that has it. -/
def release [DecidableEq ι] (s : Shared ι) (i : ι) : Shared ι :=
  { s with holder := if s.holder = some i then none else s.holder }

/-- Time goes on. -/
def later (s : Shared ι) (nanoseconds : Nat) : Shared ι :=
  { s with clock := s.clock.advance nanoseconds }

/-- No token is kept that can be used now. -/
def IsWithoutToken (s : Shared ι) : Prop :=
  ∀ token, s.token = some token → token.isUsableAt s.clock = false

theorem IsWithoutToken.later {s : Shared ι} (h : s.IsWithoutToken) (nanoseconds : Nat) :
    (s.later nanoseconds).IsWithoutToken := by
  intro token kept
  have expired := h token kept
  have passed := le_clock_advance s.clock nanoseconds
  unfold StoredToken.isUsableAt Instant.isAfter at expired ⊢
  rw [decide_eq_false_iff_not] at expired ⊢
  show ¬ (s.clock.advance nanoseconds).nanoseconds < token.expiresAt.nanoseconds
  omega

end Shared

/-- **The answers that are given at once**, and what is seen after them. -/
inductive Gives (s : Shared ι) (i : ι) : (q : Question) → Answer q → Shared ι → Prop
  | turn (watch : Watch) (free : s.holder = none) :
      Gives s i (.turn watch) true { s with holder := some i }
  | turnedAway : Gives s i (.turn .everywhere) false s
  | endTurn : Gives s i .endTurn () { s with holder := none }
  | stored : Gives s i .stored s.token s
  | keep (token : StoredToken) : Gives s i (.keep token) () { s with token := some token }
  | now : Gives s i .now s.clock s
  /-- The context is cancelled before the request is sent. -/
  | cancelled (prepared : AdminClient.Prepared) : Gives s i (.send prepared) .cancelled s
  /-- There is no request to send. -/
  | impossible (cause : NetworkError) : Gives s i (.send (.error cause)) (.failed cause) s

/-- **What happens.** -/
inductive Event (ι : Type) where
  | asks (i : ι) (question : Question) (answer : Answer question)
  | sends (i : ι) (request : Request)
  | receives (i : ι) (request : Request) (reply : Reply)
  | abandons (i : ι)
  | passes (nanoseconds : Nat)

/-- Who does it. -/
def Event.actor : Event ι → Option ι
  | .asks i _ _ | .sends i _ | .receives i _ _ | .abandons i => some i
  | .passes _ => none

/-- **A step of an operation**, from what is seen and how far it has come to how far it has come
after it and what is seen then. -/
inductive Acts [DecidableEq ι] (i : ι) (s : Shared ι) :
    Stage α → Event ι → Stage α → Shared ι → Prop
  | asks {q : Question} {next : Answer q → Admin.Operating α} {answer : Answer q} {t : Shared ι}
      (gives : Gives s i q answer t) :
      Acts i s (.doing (.ask q next)) (.asks i q answer) (.doing (next answer)) t
  | sends (request : Request) (next : Reply → Admin.Operating α) :
      Acts i s (.doing (.ask (.send (.ok request)) next)) (.sends i request)
        (.awaiting request next) s
  | receives (request : Request) (next : Reply → Admin.Operating α) (reply : Reply) :
      Acts i s (.awaiting request next) (.receives i request reply) (.doing (next reply)) s
  | abandons {stage : Stage α} (waits : stage.Waits) :
      Acts i s stage (.abandons i) .abandoned (s.release i)

theorem Acts.actor_eq [DecidableEq ι] {i : ι} {s t : Shared ι} {e : Event ι} {here next : Stage α}
    (h : Acts i s here e next t) : e.actor = some i := by
  cases h <;> rfl

theorem Acts.of_abandons [DecidableEq ι] {i j : ι} {s t : Shared ι} {here next : Stage α}
    (h : Acts i s here (.abandons j) next t) : i = j ∧ next = .abandoned := by
  cases h with
  | abandons waits => exact ⟨rfl, rfl⟩

/-! ### All operations -/

/-- **All operations at a moment.** -/
structure Scene (ι : Type) (α : ι → Type) where
  shared : Shared ι
  stage : (i : ι) → Stage (α i)

/-- **A step**: an operation acts, or time passes. -/
inductive Step [DecidableEq ι] {α : ι → Type} (s : Scene ι α) : Event ι → Scene ι α → Prop
  | acts {i : ι} {e : Event ι} {next : Stage (α i)} {t : Shared ι}
      (h : Acts i s.shared (s.stage i) e next t) :
      Step s e ⟨t, Function.update s.stage i next⟩
  | passes (nanoseconds : Nat) :
      Step s (.passes nanoseconds) ⟨s.shared.later nanoseconds, s.stage⟩

/-- **A run**, in which something holds at every moment. -/
inductive Run [DecidableEq ι] {α : ι → Type} (Holds : Scene ι α → Prop) :
    Scene ι α → List (Event ι) → Scene ι α → Prop
  | nil {s : Scene ι α} (holds : Holds s) : Run Holds s [] s
  | cons {s t u : Scene ι α} {e : Event ι} {events : List (Event ι)} (holds : Holds s)
      (step : Step s e t) (rest : Run Holds t events u) : Run Holds s (e :: events) u

section

variable [DecidableEq ι] {α : ι → Type} {Holds : Scene ι α → Prop} {s t u : Scene ι α}
  {e : Event ι} {before after : List (Event ι)}

theorem Acts.exists_step {i : ι} {here next : Stage (α i)} {shared : Shared ι}
    (h : Acts i s.shared here e next shared) (stage : s.stage i = here) :
    ∃ t, Step s e t ∧ t.stage i = next ∧ t.shared = shared :=
  ⟨_, .acts (stage ▸ h), Function.update_self .., rfl⟩

theorem Step.stage_of_ne (h : Step s e t) {i : ι} (other : e.actor ≠ some i) :
    t.stage i = s.stage i := by
  cases h with
  | @acts j e next shared h =>
    have different : i ≠ j := by
      rintro rfl
      exact other h.actor_eq
    exact Function.update_of_ne different _ _
  | passes n => rfl

theorem Step.stage_of_abandons {i : ι} (h : Step s (.abandons i) t) : t.stage i = .abandoned := by
  cases h with
  | acts h =>
    obtain ⟨rfl, rfl⟩ := h.of_abandons
    exact Function.update_self ..

theorem Run.start (h : Run Holds s after t) : Holds s := by
  cases h with
  | nil holds => exact holds
  | cons holds _ _ => exact holds

theorem Run.finish (h : Run Holds s after t) : Holds t := by
  induction h with
  | nil holds => exact holds
  | cons _ _ _ ih => exact ih

theorem Run.append (first : Run Holds s before t) (second : Run Holds t after u) :
    Run Holds s (before ++ after) u := by
  induction first with
  | nil _ => exact second
  | cons holds step _ ih => exact .cons holds step (ih second)

/-- **A run is parted** at each of its events. -/
theorem Run.parted (h : Run Holds s (before ++ e :: after) u) :
    ∃ v w, Run Holds s before v ∧ Step v e w ∧ Run Holds w after u := by
  induction before generalizing s with
  | nil =>
    cases h with
    | cons holds step rest => exact ⟨_, _, .nil holds, step, rest⟩
  | cons first before ih =>
    cases h with
    | cons holds step rest =>
      obtain ⟨v, w, start, event, others⟩ := ih rest
      exact ⟨v, w, .cons holds step start, event, others⟩

/-- **What each step keeps holds in the end.** -/
theorem Run.keeps {P : Scene ι α → Prop} (h : Run Holds s after u) (start : P s)
    (keeps : ∀ v e w, e ∈ after → Holds v → Holds w → Step v e w → P v → P w) : P u := by
  induction h with
  | nil _ => exact start
  | cons holds step rest ih =>
    have next := keeps _ _ _ List.mem_cons_self holds rest.start step start
    exact ih next fun v e w he => keeps v e w (List.mem_cons_of_mem _ he)

end

end RealmKeeper.Provider.Concurrent
