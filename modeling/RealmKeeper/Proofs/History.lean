import RealmKeeper.Dialog

/-!
# The history of a dialogue

A dialogue that is run with answers which change a state asks each of its questions in some state.
`Dialog.history` lists the questions in order, each with the state in which it was asked; as the
answers are a function of the two, nothing about the run is lost.

* `history_bind`: the history of a dialogue that goes on is that of its parts, one after the other;
* `run_orNothing_of_some`, `run_orNothing_of_none`: a run in which questions may stay unanswered.
-/

namespace RealmKeeper.Dialog

variable {Q σ : Type} {A : Q → Type} {α β : Type}

/-- **The history of a run**: the questions in order, each with the state in which it is asked. -/
def history (answer : (q : Q) → StateM σ (A q)) : Dialog A α → σ → List (Q × σ)
  | .done _, _ => []
  | .ask q next, s => (q, s) :: history answer (next (answer q s).1) (answer q s).2

section answer

variable (answer : (q : Q) → StateM σ (A q))

@[simp] theorem history_done (a : α) (s : σ) : history answer (Dialog.done a) s = [] := rfl

@[simp] theorem history_ask (q : Q) (next : A q → Dialog A α) (s : σ) :
    history answer (.ask q next) s =
      (q, s) :: history answer (next (answer q s).1) (answer q s).2 := rfl

theorem run_ask_of_eq {q : Q} {next : A q → Dialog A α} {a : A q} {s t : σ}
    (h : answer q s = (a, t)) : (Dialog.ask q next).run answer s = (next a).run answer t := by
  show (next (answer q s).1).run answer (answer q s).2 = _
  rw [h]

theorem history_ask_of_eq {q : Q} {next : A q → Dialog A α} {a : A q} {s t : σ}
    (h : answer q s = (a, t)) :
    history answer (.ask q next) s = (q, s) :: history answer (next a) t := by
  rw [history_ask, h]

theorem history_bind (d : Dialog A α) (f : α → Dialog A β) (s : σ) :
    history answer (d >>= f) s =
      history answer d s ++ history answer (f (d.run answer s).1) (d.run answer s).2 := by
  induction d generalizing s with
  | done a => rfl
  | ask q next ih =>
    rw [ask_bind, history_ask, history_ask, ih, List.cons_append]
    rfl

/-! ### A last step without a question -/

theorem history_bind_done (d : Dialog A α) (f : α → β) (s : σ) :
    history answer (d >>= fun a => .done (f a)) s = history answer d s := by
  rw [history_bind, history_done, List.append_nil]

theorem run_bind_done (d : Dialog A α) (f : α → β) (s : σ) :
    (d >>= fun a => .done (f a)).run answer s =
      (f (d.run answer s).1, (d.run answer s).2) := by
  rw [run_bind]
  rfl

end answer

/-! ### Questions that may stay unanswered -/

section orNothing

variable (answer : (q : Q) → StateM σ (Option (A q))) {q : Q} {next : A q → Dialog A α} {a : A q}
  {s t : σ}

theorem run_orNothing_of_some (h : answer q s = (some a, t)) :
    (Dialog.ask q next).orNothing.run answer s = (next a).orNothing.run answer t := by
  rw [orNothing, run_ask_of_eq _ h]

theorem run_orNothing_of_none (h : answer q s = (none, t)) :
    (Dialog.ask q next).orNothing.run answer s = (none, t) := by
  rw [orNothing, run_ask_of_eq _ h]
  rfl

theorem history_orNothing_of_some (h : answer q s = (some a, t)) :
    (Dialog.ask q next).orNothing.history answer s =
      (q, s) :: (next a).orNothing.history answer t := by
  rw [orNothing, history_ask_of_eq _ h]

theorem history_orNothing_of_none (h : answer q s = (none, t)) :
    (Dialog.ask q next).orNothing.history answer s = [(q, s)] := by
  rw [orNothing, history_ask_of_eq _ h]
  rfl

end orNothing

end RealmKeeper.Dialog
