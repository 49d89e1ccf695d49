/-!
# Dialogues

A computation that asks its surroundings questions and goes on with the answers. What it does is
told by the questions it asks; who answers them is settled when it runs.

* `Dialog`: the computations, a monad;
* `Dialog.run`: runs a dialogue with answers from any monad;
* `Dialog.through`: the dialogue in which each question is asked by another dialogue, and
  `Dialog.run_through`, which says that running it runs both;
* `Dialog.orNothing`: the dialogue with questions that may stay unanswered.
-/

namespace RealmKeeper

/-- **A dialogue** with questions of type `Q`, where the question `q` has answers of type `A q`. -/
inductive Dialog {Q : Type} (A : Q → Type) (α : Type) where
  | done (result : α)
  | ask (question : Q) (next : A question → Dialog A α)

namespace Dialog

variable {Q P : Type} {A : Q → Type} {B : P → Type} {α β : Type}

/-- Goes on with the result of a dialogue. -/
def bind (d : Dialog A α) (f : α → Dialog A β) : Dialog A β :=
  match d with
  | .done a => f a
  | .ask q next => .ask q fun answer => (next answer).bind f

instance : Monad (Dialog A) where
  pure := .done
  bind := bind

@[simp] theorem done_bind (a : α) (f : α → Dialog A β) : (Dialog.done a >>= f) = f a := rfl

@[simp] theorem ask_bind (q : Q) (next : A q → Dialog A α) (f : α → Dialog A β) :
    (Dialog.ask q next >>= f) = .ask q fun answer => next answer >>= f := rfl

theorem bind_done (d : Dialog A α) : (d >>= Dialog.done) = d := by
  induction d with
  | done a => rfl
  | ask q next ih => simp [ih]

theorem bind_assoc' {γ : Type} (d : Dialog A α) (f : α → Dialog A β) (g : β → Dialog A γ) :
    (d >>= f >>= g) = d >>= fun a => f a >>= g := by
  induction d with
  | done a => rfl
  | ask q next ih => simp [ih]

instance : LawfulMonad (Dialog A) :=
  LawfulMonad.mk' (Dialog A) bind_done (fun _ _ => rfl) bind_assoc'

/-- The dialogue of one question. -/
def question (q : Q) : Dialog A (A q) :=
  .ask q .done

/-! ### Running -/

/-- **Runs a dialogue** with the given answers. -/
def run {m : Type → Type} [Monad m] (answer : (q : Q) → m (A q)) : Dialog A α → m α
  | .done a => pure a
  | .ask q next => answer q >>= fun a => (next a).run answer

section run

variable {m : Type → Type} [Monad m] (answer : (q : Q) → m (A q))

@[simp] theorem run_done (a : α) : (Dialog.done a : Dialog A α).run answer = pure a := rfl

@[simp] theorem run_ask (q : Q) (next : A q → Dialog A α) :
    (Dialog.ask q next).run answer = answer q >>= fun a => (next a).run answer := rfl

@[simp] theorem run_pure (a : α) : (pure a : Dialog A α).run answer = pure a := rfl

@[simp] theorem run_question [LawfulMonad m] (q : Q) : (question q).run answer = answer q := by
  simp [question]

/-- Running goes on as the dialogue does. -/
theorem run_bind [LawfulMonad m] (d : Dialog A α) (f : α → Dialog A β) :
    (d >>= f).run answer = d.run answer >>= fun a => (f a).run answer := by
  induction d with
  | done a => simp
  | ask q next ih => simp [ih]

end run

/-! ### Dialogues inside dialogues -/

/-- **The dialogue in which each question is asked by another dialogue.** -/
def through (inner : (q : Q) → Dialog B (A q)) (d : Dialog A α) : Dialog B α :=
  d.run inner

/-- **Running through** another dialogue runs both. -/
theorem run_through {m : Type → Type} [Monad m] [LawfulMonad m] (answer : (p : P) → m (B p))
    (inner : (q : Q) → Dialog B (A q)) (d : Dialog A α) :
    (d.through inner).run answer = d.run fun q => (inner q).run answer := by
  unfold through
  induction d with
  | done a => simp
  | ask q next ih => simp [run_bind, ih]

/-! ### Questions that stay unanswered -/

/-- **The dialogue with questions that may stay unanswered.** Nothing comes of it then, and nothing
more is asked. -/
def orNothing : Dialog A α → Dialog (fun q => Option (A q)) (Option α)
  | .done a => .done (some a)
  | .ask q next => .ask q fun
    | some answer => (next answer).orNothing
    | none => .done none

@[simp] theorem orNothing_done (a : α) :
    (Dialog.done a : Dialog A α).orNothing = .done (some a) := rfl

end Dialog

end RealmKeeper
