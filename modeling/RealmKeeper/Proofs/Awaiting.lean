import RealmKeeper.Context
import Mathlib.Tactic.Common

/-!
# Awaiting a computation under a context

How a computation under a context ends, told without the loop that runs it.

* `Pending`: through some polls there is no result, and the context is not cancelled;
* `Finishes`: after pending polls there is one with a result;
* `CutShort`: after pending polls there is one without a result that leaves the context cancelled;
* `run_of_finishes`, `run_of_cutShort`, `run_of_pending`: what `Context.run` makes of each, and
  `ends`: one of them is the case for every computation that begins under a live context.
-/

namespace RealmKeeper.Context

variable {α : Type} {context : Context} {polls before : List (Poll α)}
  {start finish : Cancellations}

/-- The cancellations after some polls. -/
def cancelledBy (polls : List (Poll α)) (start : Cancellations) : Cancellations :=
  polls.foldl (fun cancellations poll => poll.cancels.foldl .add cancellations) start

/-- **Through the polls** there is no result, and the context is not cancelled before, between or
after them. -/
def Pending (context : Context) (polls : List (Poll α)) (start : Cancellations) : Prop :=
  (∀ poll ∈ polls, poll.result = none) ∧
    ∀ earlier later, earlier ++ later = polls →
      (cancelledBy earlier start).covers context.domain = false

/-- **The computation finishes**: it has its result before the context is seen to be cancelled. -/
def Finishes (context : Context) (polls : List (Poll α)) (start : Cancellations) (result : α)
    (finish : Cancellations) : Prop :=
  ∃ before poll after, polls = before ++ poll :: after ∧ context.Pending before start ∧
    poll.result = some result ∧ finish = cancelledBy (before ++ [poll]) start

/-- **The computation is cut short**: while it is pending, the context is cancelled. -/
def CutShort (context : Context) (polls : List (Poll α)) (start finish : Cancellations) : Prop :=
  ∃ before poll after, polls = before ++ poll :: after ∧ context.Pending before start ∧
    poll.result = none ∧ finish = cancelledBy (before ++ [poll]) start ∧
    finish.covers context.domain = true

/-! ### Pending polls -/

@[simp] theorem cancelledBy_nil : cancelledBy ([] : List (Poll α)) start = start := rfl

@[simp] theorem cancelledBy_cons (poll : Poll α) :
    cancelledBy (poll :: polls) start = cancelledBy polls (poll.cancels.foldl .add start) := rfl

theorem cancelledBy_append (more : List (Poll α)) :
    cancelledBy (polls ++ more) start = cancelledBy more (cancelledBy polls start) := by
  simp [cancelledBy]

theorem pending_nil (h : start.covers context.domain = false) :
    context.Pending ([] : List (Poll α)) start := by
  refine ⟨by simp, fun earlier later he => ?_⟩
  obtain ⟨rfl, -⟩ := List.append_eq_nil_iff.mp he
  exact h

theorem Pending.live (h : context.Pending polls start) : start.covers context.domain = false :=
  h.2 [] polls rfl

theorem Pending.live_after (h : context.Pending polls start) :
    (cancelledBy polls start).covers context.domain = false :=
  h.2 polls [] (List.append_nil polls)

theorem pending_cons {poll : Poll α} :
    context.Pending (poll :: polls) start ↔
      start.covers context.domain = false ∧ poll.result = none ∧
        context.Pending polls (poll.cancels.foldl .add start) := by
  constructor
  · intro h
    refine ⟨h.live, h.1 poll (by simp), fun p hp => h.1 p (by simp [hp]),
      fun earlier later he => ?_⟩
    exact h.2 (poll :: earlier) later (by rw [List.cons_append, he])
  · rintro ⟨hlive, hnone, h⟩
    refine ⟨fun p hp => ?_, fun earlier later he => ?_⟩
    · rcases List.mem_cons.mp hp with rfl | hp
      · exact hnone
      · exact h.1 p hp
    · cases earlier with
      | nil => exact hlive
      | cons first earlier =>
        obtain ⟨rfl, hrest⟩ := List.cons.inj he
        exact h.2 earlier later hrest

/-! ### What a run makes of them -/

theorem run_append (more : List (Poll α)) (h : context.Pending before start) :
    context.run (before ++ more) start = context.run more (cancelledBy before start) := by
  induction before generalizing start with
  | nil => rfl
  | cons poll before ih =>
    obtain ⟨hlive, hnone, h⟩ := pending_cons.mp h
    rw [List.cons_append, run, hlive, hnone]
    exact ih h

theorem run_of_finishes {result : α} (h : context.Finishes polls start result finish) :
    context.run polls start = (.finished result, finish) := by
  obtain ⟨before, poll, after, rfl, hp, hr, rfl⟩ := h
  rw [run_append _ hp, run, hp.live_after, hr, cancelledBy_append]
  rfl

theorem run_of_cutShort (h : context.CutShort polls start finish) :
    context.run polls start = (.cancelled, finish) := by
  obtain ⟨before, poll, after, rfl, hp, hr, rfl, hc⟩ := h
  rw [cancelledBy_append, cancelledBy_cons, cancelledBy_nil] at hc
  rw [run_append _ hp, run, hp.live_after, hr, cancelledBy_append]
  cases after with
  | nil => simp [run, hc]
  | cons next after => simp [run, hc]

theorem run_of_pending (h : context.Pending polls start) :
    context.run polls start = (.waiting, cancelledBy polls start) := by
  have hrun := run_append [] h
  rw [List.append_nil] at hrun
  rw [hrun, run, h.live_after]
  rfl

theorem Finishes.live {result : α} (h : context.Finishes polls start result finish) :
    start.covers context.domain = false := by
  obtain ⟨before, poll, after, -, hp, -⟩ := h
  exact hp.live

theorem CutShort.live (h : context.CutShort polls start finish) :
    start.covers context.domain = false := by
  obtain ⟨before, poll, after, -, hp, -⟩ := h
  exact hp.live

theorem Finishes.cons {poll : Poll α} {result : α} (hlive : start.covers context.domain = false)
    (hnone : poll.result = none)
    (h : context.Finishes polls (poll.cancels.foldl .add start) result finish) :
    context.Finishes (poll :: polls) start result finish := by
  obtain ⟨before, last, after, rfl, hp, hr, rfl⟩ := h
  exact ⟨poll :: before, last, after, rfl, pending_cons.mpr ⟨hlive, hnone, hp⟩, hr, rfl⟩

theorem CutShort.cons {poll : Poll α} (hlive : start.covers context.domain = false)
    (hnone : poll.result = none)
    (h : context.CutShort polls (poll.cancels.foldl .add start) finish) :
    context.CutShort (poll :: polls) start finish := by
  obtain ⟨before, last, after, rfl, hp, hr, rfl, hc⟩ := h
  exact ⟨poll :: before, last, after, rfl, pending_cons.mpr ⟨hlive, hnone, hp⟩, hr, rfl, hc⟩

/-- **The ends of a computation** that begins under a live context: it finishes, it is cut short,
or it stays pending. -/
theorem ends (polls : List (Poll α)) (hlive : start.covers context.domain = false) :
    (∃ result finish, context.Finishes polls start result finish) ∨
      (∃ finish, context.CutShort polls start finish) ∨ context.Pending polls start := by
  induction polls generalizing start with
  | nil => exact .inr (.inr (pending_nil hlive))
  | cons poll polls ih =>
    have hnow : context.Pending ([] : List (Poll α)) start := pending_nil hlive
    cases hr : poll.result with
    | some result => exact .inl ⟨result, _, [], poll, polls, rfl, hnow, hr, rfl⟩
    | none =>
      cases hc : (poll.cancels.foldl Cancellations.add start).covers context.domain with
      | true => exact .inr (.inl ⟨_, [], poll, polls, rfl, hnow, hr, rfl, hc⟩)
      | false =>
        rcases ih hc with ⟨result, finish, h⟩ | ⟨finish, h⟩ | h
        · exact .inl ⟨result, finish, h.cons hlive hr⟩
        · exact .inr (.inl ⟨finish, h.cons hlive hr⟩)
        · exact .inr (.inr (pending_cons.mpr ⟨hlive, hr, h⟩))

end RealmKeeper.Context
