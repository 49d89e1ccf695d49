import Mathlib.Data.Fin.Tuple.Basic
import Mathlib.Logic.Relation
import RealmKeeper.Proofs.SingleRetry

/-!
# The history of contexts

What is known of a context from the way in which it was made.

* `Making` and `History`: contexts are made, one from another, and cancelled, in any order;
* `History.SameToken` and `History.IsWithin`: two contexts have one token, or the token of one lies
  below that of the other, told by how they were made and not by their domains;
* `History.Bears`: the client for which a context was made;
* `History.isPrefix_iff` and `History.covers_iff`: the domains of the contexts say the same as their
  history;
* `run_eq_cancelled_iff` and `run_eq_finished_iff`: which computations are cut off, and which
  finish;
* `History.Tells`, `History.tells`: all that a history tells of its contexts.
-/

namespace RealmKeeper.Context

/-! ### Histories -/

/-- **How a context is made**: new, or from one of `n` contexts that are there. -/
inductive Making (n : Nat) where
  | new
  | forClient (origin : Fin n) (clientId : String)
  | anonymous (origin : Fin n)
  | clone (origin : Fin n)
  /-- With the token of the other context. -/
  | sharing (origin : Fin n)
  /-- With a token that is a child of that of the other context. -/
  | child (origin : Fin n)

namespace Making

variable {n : Nat}

/-- The context that is made, if it has the given number. -/
def perform (number : Nat) (contexts : Fin n → Context) : Making n → Context
  | .new => .ofDomain ⟨[number]⟩
  | .forClient origin clientId => (contexts origin).forClient clientId
  | .anonymous origin => (contexts origin).anonymous
  | .clone origin => contexts origin
  | .sharing origin => .ofDomain (contexts origin).domain
  | .child origin => .ofDomain ((contexts origin).domain.child number)

/-- The same way, with one more context there. -/
def lift : Making n → Making (n + 1)
  | .new => .new
  | .forClient origin clientId => .forClient origin.castSucc clientId
  | .anonymous origin => .anonymous origin.castSucc
  | .clone origin => .clone origin.castSucc
  | .sharing origin => .sharing origin.castSucc
  | .child origin => .child origin.castSucc

/-- The context from which one is made. -/
def origin? : Making n → Option (Fin n)
  | .new => none
  | .forClient origin _ | .anonymous origin | .clone origin | .sharing origin | .child origin =>
    some origin

/-- The context has the token of the other one. -/
inductive Shares : Making n → Fin n → Prop
  | forClient (origin : Fin n) (clientId : String) : Shares (.forClient origin clientId) origin
  | anonymous (origin : Fin n) : Shares (.anonymous origin) origin
  | clone (origin : Fin n) : Shares (.clone origin) origin
  | sharing (origin : Fin n) : Shares (.sharing origin) origin

theorem Shares.origin_eq {making : Making n} {i : Fin n} (h : making.Shares i) :
    making.origin? = some i := by
  cases h <;> rfl

@[simp] theorem perform_lift (making : Making n) (number : Nat) (contexts : Fin (n + 1) → Context) :
    making.lift.perform number contexts = making.perform number fun i => contexts i.castSucc := by
  cases making <;> rfl

@[simp] theorem origin?_lift (making : Making n) :
    making.lift.origin? = making.origin?.map Fin.castSucc := by
  cases making <;> rfl

end Making

/-- **A history** of contexts, `n` of which are there in the end. They are numbered in the order in
which they are made. -/
inductive History : Nat → Type where
  | start : History 0
  | make {n : Nat} (before : History n) (making : Making n) : History (n + 1)
  | cancel {n : Nat} (before : History n) (i : Fin n) : History n

namespace History

variable {n : Nat}

/-- **The contexts** that are there. -/
def context : {n : Nat} → History n → Fin n → Context
  | _, .start => Fin.elim0
  | n + 1, .make before making => Fin.snoc before.context (making.perform n before.context)
  | _, .cancel before _ => before.context

/-- **What has been cancelled**, as the domains say it. -/
def cancellations : {n : Nat} → History n → Cancellations
  | _, .start => ⟨[]⟩
  | _, .make before _ => before.cancellations
  | _, .cancel before i => before.cancellations.add (before.context i).domain

/-- How each context was made. -/
def making : {n : Nat} → History n → Fin n → Making n
  | _, .start => Fin.elim0
  | _, .make before making => Fin.snoc (fun i => (before.making i).lift) making.lift
  | _, .cancel before _ => before.making

/-- The contexts that were cancelled themselves. -/
def cancelled : {n : Nat} → History n → List (Fin n)
  | _, .start => []
  | _, .make before _ => before.cancelled.map Fin.castSucc
  | _, .cancel before i => i :: before.cancelled

/-! ### What a history says -/

/-- **Two contexts have one token**: each was made from the other, or both from others, with the
token of the origin. -/
def SameToken (h : History n) : Fin n → Fin n → Prop :=
  Relation.EqvGen fun i j => (h.making i).Shares j

/-- **The token of a context is that of the other one or lies below it.** -/
inductive IsWithin (h : History n) : Fin n → Fin n → Prop
  | same {i j : Fin n} (same : h.SameToken i j) : IsWithin h i j
  | under {i j k l : Fin n} (same : h.SameToken i j) (child : h.making j = .child k)
      (within : IsWithin h k l) : IsWithin h i l

/-- **A context is cancelled**: one was whose token is its own or lies above it. -/
def IsCancelled (h : History n) (i : Fin n) : Prop :=
  ∃ j ∈ h.cancelled, h.IsWithin i j

/-- **The client of a context**: the last one for which it, or a context of which it is a clone, was
made. -/
inductive Bears (h : History n) : Fin n → String → Prop
  | named {i j : Fin n} {clientId : String} (made : h.making i = .forClient j clientId) :
      Bears h i clientId
  | cloned {i j : Fin n} {clientId : String} (made : h.making i = .clone j)
      (bears : Bears h j clientId) : Bears h i clientId

/-! ### Contexts and how they were made -/

/-- **Each context is what it was made as**, from contexts that are still the same. -/
theorem context_eq (h : History n) (i : Fin n) :
    h.context i = (h.making i).perform i h.context := by
  induction h with
  | start => exact i.elim0
  | make before making ih =>
    induction i using Fin.lastCases with
    | last => simp [context, History.making]
    | cast i => simp [context, History.making, ih i]
  | cancel before j ih => exact ih i

theorem lt_of_origin (h : History n) {i j : Fin n} (made : (h.making i).origin? = some j) :
    j < i := by
  induction h with
  | start => exact i.elim0
  | make before making ih =>
    induction i using Fin.lastCases with
    | last =>
      rw [History.making, Fin.snoc_last, Making.origin?_lift, Option.map_eq_some_iff] at made
      obtain ⟨k, -, rfl⟩ := made
      exact k.castSucc_lt_last
    | cast i =>
      rw [History.making, Fin.snoc_castSucc, Making.origin?_lift, Option.map_eq_some_iff] at made
      obtain ⟨k, made, rfl⟩ := made
      exact ih made
  | cancel before k ih => exact ih made

theorem domain_of_shares (h : History n) {i j : Fin n} (shares : (h.making i).Shares j) :
    (h.context i).domain = (h.context j).domain := by
  rw [h.context_eq i]
  generalize h.making i = making at shares
  cases shares <;> rfl

theorem path_of_new (h : History n) {i : Fin n} (made : h.making i = .new) :
    (h.context i).domain.path = [i.val] := by
  rw [h.context_eq i, made]
  rfl

theorem path_of_child (h : History n) {i j : Fin n} (child : h.making i = .child j) :
    (h.context i).domain.path = (h.context j).domain.path ++ [i.val] := by
  rw [h.context_eq i, child]
  rfl

/-! ### Tokens and domains -/

namespace SameToken

variable {h : History n} {i j k : Fin n}

theorem refl (i : Fin n) : h.SameToken i i := Relation.EqvGen.refl i

theorem symm (same : h.SameToken i j) : h.SameToken j i :=
  Relation.EqvGen.symm i j same

theorem trans (same : h.SameToken i j) (same' : h.SameToken j k) : h.SameToken i k :=
  Relation.EqvGen.trans i j k same same'

theorem of_shares (shares : (h.making i).Shares j) : h.SameToken i j := .rel i j shares

theorem domain_eq (same : h.SameToken i j) : (h.context i).domain = (h.context j).domain := by
  induction same with
  | rel i j shares => exact h.domain_of_shares shares
  | refl i => rfl
  | symm i j _ ih => exact ih.symm
  | trans i j k _ _ ih ih' => exact ih.trans ih'

end SameToken

/-- **The owner of a token**: one of the contexts with it was made with a token of its own, whose
number the path to the domain ends with. -/
theorem exists_owner (h : History n) (i : Fin n) :
    ∃ o, h.SameToken i o ∧ ((h.context i).domain.path = [o.val] ∨
      ∃ k, h.making o = .child k ∧
        (h.context i).domain.path = (h.context k).domain.path ++ [o.val]) := by
  induction i using WellFoundedLT.induction with
  | ind i ih =>
    -- A context that shares the token of another one has the owner of that one.
    have shared : ∀ j, (h.making i).Shares j → ∃ o, h.SameToken i o ∧
        ((h.context i).domain.path = [o.val] ∨ ∃ k, h.making o = .child k ∧
          (h.context i).domain.path = (h.context k).domain.path ++ [o.val]) := by
      intro j shares
      obtain ⟨o, same, path⟩ := ih j (h.lt_of_origin shares.origin_eq)
      rw [h.domain_of_shares shares]
      exact ⟨o, (SameToken.of_shares shares).trans same, path⟩
    cases made : h.making i with
    | new => exact ⟨i, .refl i, .inl (h.path_of_new made)⟩
    | child k => exact ⟨i, .refl i, .inr ⟨k, made, h.path_of_child made⟩⟩
    | forClient j clientId => exact shared j (made ▸ .forClient j clientId)
    | anonymous j => exact shared j (made ▸ .anonymous j)
    | clone j => exact shared j (made ▸ .clone j)
    | sharing j => exact shared j (made ▸ .sharing j)

theorem path_ends (h : History n) (i : Fin n) :
    ∃ o above, h.SameToken i o ∧ (h.context i).domain.path = above ++ [o.val] := by
  obtain ⟨o, same, path | ⟨k, -, path⟩⟩ := h.exists_owner i
  · exact ⟨o, [], same, path⟩
  · exact ⟨o, _, same, path⟩

/-- **Contexts of one domain have one token.** -/
theorem sameToken_iff (h : History n) (i j : Fin n) :
    h.SameToken i j ↔ (h.context i).domain = (h.context j).domain := by
  refine ⟨SameToken.domain_eq, fun heq => ?_⟩
  obtain ⟨o, above, same, path⟩ := h.path_ends i
  obtain ⟨o', above', same', path'⟩ := h.path_ends j
  rw [← heq, path] at path'
  obtain ⟨-, last⟩ := List.append_inj' path' rfl
  have howner : o = o' := Fin.ext (List.cons.inj last).1
  exact same.trans (howner ▸ same'.symm)

theorem IsWithin.prefix {h : History n} {i j : Fin n} (within : h.IsWithin i j) :
    (h.context j).domain.path <+: (h.context i).domain.path := by
  induction within with
  | same same => exact same.domain_eq ▸ List.prefix_rfl
  | under same child _ ih =>
    rw [same.domain_eq, h.path_of_child child]
    exact ih.trans (List.prefix_append _ _)

/-- **The domains say which token lies below which.** -/
theorem isPrefix_iff (h : History n) (i j : Fin n) :
    (h.context j).domain.path <+: (h.context i).domain.path ↔ h.IsWithin i j := by
  refine ⟨fun hprefix => ?_, IsWithin.prefix⟩
  induction hlen : (h.context i).domain.path.length using Nat.strong_induction_on
    generalizing i with
  | _ length ih =>
    have whole : (h.context j).domain.path = (h.context i).domain.path → h.IsWithin i j :=
      fun heq => .same ((h.sameToken_iff i j).mpr (Domain.mk.injEq _ _ ▸ heq.symm))
    obtain ⟨o, same, path | ⟨k, child, path⟩⟩ := h.exists_owner i
    · -- The token has none above it.
      rw [path, ← List.nil_append [o.val], List.prefix_concat_iff] at hprefix
      rcases hprefix with heq | hnil
      · exact whole (heq.trans path.symm)
      · obtain ⟨o', above, -, path'⟩ := h.path_ends j
        rw [path'] at hnil
        simp at hnil
    · rw [path, List.prefix_concat_iff] at hprefix
      rcases hprefix with heq | hprefix
      · exact whole (heq.trans path.symm)
      · have shorter : (h.context k).domain.path.length < length := by
          rw [← hlen, path, List.length_append, List.length_singleton]
          omega
        exact .under same child (ih _ shorter k hprefix rfl)

/-! ### Children -/

section Children

variable {h : History n} {i j k l : Fin n}

theorem isWithin_of_child (child : h.making i = .child j) :
    h.IsWithin i j ∧ ¬ h.IsWithin j i := by
  refine ⟨.under (.refl i) child (.same (.refl j)), fun within => ?_⟩
  have hlen := within.prefix.length_le
  rw [h.path_of_child child, List.length_append, List.length_singleton] at hlen
  omega

/-- Of two children of one token neither lies below the other. -/
theorem not_isWithin_sibling (hi : h.making i = .child k) (hj : h.making j = .child l)
    (same : h.SameToken k l) (hne : i ≠ j) : ¬ h.IsWithin i j := by
  intro within
  have hprefix := within.prefix
  rw [h.path_of_child hi, h.path_of_child hj, same.domain_eq,
    List.prefix_append_right_inj] at hprefix
  have heq := hprefix.eq_of_length rfl
  exact hne (Fin.ext (List.cons.inj heq).1.symm)

end Children

/-! ### Cancellation -/

theorem cancellations_eq (h : History n) :
    h.cancellations.domains = h.cancelled.map fun i => (h.context i).domain := by
  induction h with
  | start => rfl
  | make before making ih =>
    rw [cancellations, ih, cancelled, List.map_map]
    refine List.map_congr_left fun i _ => ?_
    rw [Function.comp_apply, context, Fin.snoc_castSucc]
  | cancel before i ih => exact congrArg ((before.context i).domain :: ·) ih

/-- **The domains say which contexts are cancelled.** -/
theorem covers_iff (h : History n) (i : Fin n) :
    h.cancellations.covers (h.context i).domain = true ↔ h.IsCancelled i := by
  rw [Cancellations.covers, cancellations_eq, List.any_map, List.any_eq_true]
  refine exists_congr fun j => and_congr_right fun _ => ?_
  rw [Function.comp_apply, Domain.isWithin, List.isPrefixOf_iff_prefix]
  exact h.isPrefix_iff i j

/-- It does not matter to what has been cancelled, or to the contexts, whether a context is made
before or after another one is cancelled. -/
theorem make_cancel (h : History n) (making : Making n) (i : Fin n) :
    ((h.cancel i).make making).context = ((h.make making).cancel i.castSucc).context ∧
      ((h.cancel i).make making).cancellations =
        ((h.make making).cancel i.castSucc).cancellations := by
  refine ⟨rfl, ?_⟩
  simp [cancellations, context]

/-! ### Clients -/

theorem identity_eq_some_iff (h : History n) (i : Fin n) (clientId : String) :
    (h.context i).identity = some clientId ↔ h.Bears i clientId := by
  constructor
  · induction i using WellFoundedLT.induction with
    | ind i ih =>
      intro identity
      rw [h.context_eq i] at identity
      cases made : h.making i with
      | forClient j other =>
        rw [made] at identity
        obtain rfl := Option.some.inj identity
        exact .named made
      | clone j =>
        rw [made] at identity
        exact .cloned made (ih j (h.lt_of_origin (congrArg Making.origin? made)) identity)
      | new | anonymous j | sharing j | child j =>
        rw [made] at identity
        cases identity
  · intro bears
    induction bears with
    | named made =>
      rw [h.context_eq, made]
      rfl
    | cloned made _ ih =>
      rw [h.context_eq, made]
      exact ih

end History

/-! ### Computations -/

section Computations

variable {α : Type} (c : Context)

theorem covers_add {cancellations : Cancellations} {domain : Domain} (other : Domain)
    (h : cancellations.covers domain = true) : (cancellations.add other).covers domain = true := by
  rw [Cancellations.covers, List.any_eq_true] at h ⊢
  obtain ⟨cancelled, hmem, within⟩ := h
  exact ⟨cancelled, List.mem_cons_of_mem _ hmem, within⟩

theorem covers_cancelledBy (polls : List (Poll α)) {start : Cancellations} {domain : Domain}
    (h : start.covers domain = true) : (cancelledBy polls start).covers domain = true := by
  have cancels : ∀ (domains : List Domain) (now : Cancellations), now.covers domain = true →
      (domains.foldl Cancellations.add now).covers domain = true := by
    intro domains
    induction domains with
    | nil => exact fun _ => id
    | cons first rest ih => exact fun now covered => ih _ (covers_add first covered)
  induction polls generalizing start with
  | nil => exact h
  | cons poll polls ih => exact ih (cancels poll.cancels start h)

theorem run_of_covered (polls : List (Poll α)) {start : Cancellations}
    (h : start.covers c.domain = true) : (c.run polls start).1 = .cancelled := by
  cases polls <;> simp [run, h]

/-- **A computation finishes** exactly when its context is not cancelled before the look that gives
the result; what that look itself cancels is no hindrance. -/
theorem run_eq_finished_iff (polls : List (Poll α)) (start : Cancellations) (a : α) :
    (c.run polls start).1 = .finished a ↔
      ∃ seen poll rest, polls = seen ++ poll :: rest ∧ (∀ poll ∈ seen, poll.result = none) ∧
        poll.result = some a ∧ (cancelledBy seen start).covers c.domain = false := by
  constructor
  · intro finished
    cases live : start.covers c.domain with
    | true => rw [c.run_of_covered polls live] at finished; cases finished
    | false =>
      rcases ends polls live with ⟨b, finish, h⟩ | ⟨finish, h⟩ | h
      · rw [run_of_finishes h] at finished
        obtain rfl := Outcome.finished.inj finished
        obtain ⟨seen, poll, rest, hpolls, pending, result, -⟩ := h
        exact ⟨seen, poll, rest, hpolls, pending.1, result, pending.live_after⟩
      · rw [run_of_cutShort h] at finished; cases finished
      · rw [run_of_pending h] at finished; cases finished
  · rintro ⟨seen, poll, rest, hpolls, none, result, live⟩
    have pending : c.Pending seen start := by
      refine ⟨none, fun earlier later heq => ?_⟩
      rw [← heq, cancelledBy_append] at live
      exact Bool.eq_false_iff.mpr fun covered =>
        Bool.eq_false_iff.mp live (covers_cancelledBy later covered)
    rw [run_of_finishes ⟨seen, poll, rest, hpolls, pending, result, rfl⟩]

/-- **A computation is cut off** exactly when its context is cancelled from the start or by looks
without a result. -/
theorem run_eq_cancelled_iff (polls : List (Poll α)) (start : Cancellations) :
    (c.run polls start).1 = .cancelled ↔
      ∃ seen rest, polls = seen ++ rest ∧ (∀ poll ∈ seen, poll.result = none) ∧
        (cancelledBy seen start).covers c.domain = true := by
  constructor
  · intro cancelled
    cases live : start.covers c.domain with
    | true => exact ⟨[], polls, rfl, by simp, live⟩
    | false =>
      rcases ends polls live with ⟨b, finish, h⟩ | ⟨finish, h⟩ | h
      · rw [run_of_finishes h] at cancelled; cases cancelled
      · obtain ⟨before, poll, after, hpolls, pending, none, rfl, covered⟩ := h
        refine ⟨before ++ [poll], after, by simp [hpolls], ?_, covered⟩
        exact List.forall_mem_append.mpr ⟨pending.1, by simp [none]⟩
      · rw [run_of_pending h] at cancelled; cases cancelled
  · rintro ⟨seen, rest, rfl, none, covered⟩
    induction seen generalizing start with
    | nil => exact c.run_of_covered rest covered
    | cons poll seen ih =>
      obtain ⟨hpoll, none⟩ := List.forall_mem_cons.mp none
      cases live : start.covers c.domain with
      | true => exact c.run_of_covered _ live
      | false =>
        rw [List.cons_append, run, live, hpoll]
        exact ih _ none covered

end Computations

/-- **A look** at a computation: it may cancel contexts that are there, and then it has a result or
waits. What others cancel until the next look counts with it, and a context that is made meanwhile
is among those that are there, see `History.make_cancel`. -/
structure Look (n : Nat) (α : Type) where
  cancels : List (Fin n)
  result : Option α

namespace History

variable {n : Nat} {α : Type}

/-- The history after some looks at a computation. -/
def after (h : History n) : List (Look n α) → History n
  | [] => h
  | look :: rest => (look.cancels.foldl .cancel h).after rest

/-- The look as the run of a computation has it. -/
def poll (h : History n) (look : Look n α) : Poll α :=
  ⟨look.cancels.map fun i => (h.context i).domain, look.result⟩

theorem context_foldl_cancel (h : History n) (is : List (Fin n)) :
    (is.foldl cancel h).context = h.context := by
  induction is generalizing h with
  | nil => rfl
  | cons first rest ih => exact ih (h.cancel first)

theorem cancellations_foldl_cancel (h : History n) (is : List (Fin n)) :
    (is.foldl cancel h).cancellations =
      (is.map fun i => (h.context i).domain).foldl .add h.cancellations := by
  induction is generalizing h with
  | nil => rfl
  | cons first rest ih => exact ih (h.cancel first)

theorem context_after (h : History n) (looks : List (Look n α)) :
    (h.after looks).context = h.context := by
  induction looks generalizing h with
  | nil => rfl
  | cons look rest ih => rw [after, ih, context_foldl_cancel]

theorem cancellations_after (h : History n) (looks : List (Look n α)) :
    (h.after looks).cancellations = cancelledBy (looks.map h.poll) h.cancellations := by
  induction looks generalizing h with
  | nil => rfl
  | cons look rest ih =>
    have same : (look.cancels.foldl cancel h).poll (α := α) = h.poll := by
      funext look'
      rw [poll, poll, context_foldl_cancel]
    rw [after, ih, same, cancellations_foldl_cancel]
    rfl

theorem covers_after (h : History n) (looks : List (Look n α)) (i : Fin n) :
    (cancelledBy (looks.map h.poll) h.cancellations).covers (h.context i).domain = true ↔
      (h.after looks).IsCancelled i := by
  rw [← covers_iff, context_after, cancellations_after]

/-! ### What is known of a context -/

/-- **A history tells** all that matters of the contexts. -/
structure Tells (h : History n) : Prop where
  /-- A context is cancelled exactly when one at or above it was. -/
  cancelled : ∀ i, h.cancellations.covers (h.context i).domain = true ↔ h.IsCancelled i
  /-- To cancel a context cancels those at or below it, and no other. -/
  cancel : ∀ i j, (h.cancel j).cancellations.covers (h.context i).domain = true ↔
    h.cancellations.covers (h.context i).domain = true ∨ h.IsWithin i j
  /-- Contexts that are made one from another with its token are in one domain. -/
  shared : ∀ i j, (h.context i).domain = (h.context j).domain ↔ h.SameToken i j
  /-- A child is below its parent, which is not below it, -/
  child : ∀ i j, h.making i = .child j → h.IsWithin i j ∧ ¬ h.IsWithin j i
  /-- and no two children of one token are below one another. -/
  siblings : ∀ i j k l, h.making i = .child k → h.making j = .child l → h.SameToken k l → i ≠ j →
    ¬ h.IsWithin i j ∧ ¬ h.IsWithin j i
  /-- The client that is read is that of the context, -/
  client : ∀ i clientId, (h.context i).clientId? = some clientId ↔
    h.Bears i clientId ∧ ∃ ch ∈ clientId.toList, Text.isBlank ch = false
  /-- and none is read exactly when it has none or a blank one. -/
  nobody : ∀ i, (h.context i).clientId? = none ↔
    (∀ clientId, ¬ h.Bears i clientId) ∨
      ∃ clientId, h.Bears i clientId ∧ ∀ ch ∈ clientId.toList, Text.isBlank ch = true
  /-- A computation is cut off exactly when its context is cancelled from the start, or while the
  computation has no result; -/
  cutOff : ∀ (α : Type) (i : Fin n) (looks : List (Look n α)),
    ((h.context i).run (looks.map h.poll) h.cancellations).1 = .cancelled ↔
      ∃ seen rest, looks = seen ++ rest ∧ (∀ look ∈ seen, look.result = none) ∧
        (h.after seen).IsCancelled i
  /-- and it finishes exactly when its context is not cancelled before the look that has the
  result. -/
  finished : ∀ (α : Type) (i : Fin n) (looks : List (Look n α)) (a : α),
    ((h.context i).run (looks.map h.poll) h.cancellations).1 = .finished a ↔
      ∃ seen look rest, looks = seen ++ look :: rest ∧ (∀ look ∈ seen, look.result = none) ∧
        look.result = some a ∧ ¬ (h.after seen).IsCancelled i

theorem client_iff (h : History n) (i : Fin n) (clientId : String) :
    (h.context i).clientId? = some clientId ↔
      h.Bears i clientId ∧ ∃ ch ∈ clientId.toList, Text.isBlank ch = false := by
  rw [clientId?_eq_some_iff, Names, identity_eq_some_iff, Text.isAllBlank, List.all_eq_false]
  simp only [Bool.not_eq_true]

theorem nobody_iff (h : History n) (i : Fin n) :
    (h.context i).clientId? = none ↔
      (∀ clientId, ¬ h.Bears i clientId) ∨
        ∃ clientId, h.Bears i clientId ∧ ∀ ch ∈ clientId.toList, Text.isBlank ch = true := by
  have bears := h.identity_eq_some_iff i
  cases identity : (h.context i).identity with
  | none =>
    rw [identity] at bears
    refine iff_of_true (by rw [clientId?, identity]; rfl) (.inl fun clientId hbears => ?_)
    cases (bears clientId).mpr hbears
  | some own =>
    rw [identity] at bears
    have hown := (bears own).mp rfl
    rw [clientId?, identity, Option.filter_eq_none_iff]
    simp only [Option.some.injEq, Bool.not_eq_true', Bool.not_eq_false, forall_eq',
      Text.isAllBlank, List.all_eq_true]
    constructor
    · exact fun blank => .inr ⟨own, hown, blank⟩
    · rintro (none | ⟨clientId, hbears, blank⟩)
      · exact absurd hown (none own)
      · obtain rfl := Option.some.inj ((bears clientId).mpr hbears)
        exact blank

theorem cancel_iff (h : History n) (i j : Fin n) :
    (h.cancel j).cancellations.covers (h.context i).domain = true ↔
      h.cancellations.covers (h.context i).domain = true ∨ h.IsWithin i j := by
  rw [← isPrefix_iff, ← List.isPrefixOf_iff_prefix, or_comm, ← Bool.or_eq_true]
  rfl

/-- **What a history tells of the contexts**, in whatever order they are made and cancelled. -/
theorem tells (h : History n) : h.Tells where
  cancelled := h.covers_iff
  cancel := h.cancel_iff
  shared i j := (h.sameToken_iff i j).symm
  child _ _ := isWithin_of_child
  siblings _ _ _ _ hi hj same hne :=
    ⟨not_isWithin_sibling hi hj same hne, not_isWithin_sibling hj hi same.symm hne.symm⟩
  client := h.client_iff
  nobody := h.nobody_iff
  cutOff α i looks := by
    rw [run_eq_cancelled_iff]
    constructor
    · rintro ⟨seen, rest, hlooks, none, covered⟩
      obtain ⟨seen, rest, rfl, rfl, rfl⟩ := List.map_eq_append_iff.mp hlooks
      exact ⟨seen, rest, rfl, List.forall_mem_map.mp none, (h.covers_after seen i).mp covered⟩
    · rintro ⟨seen, rest, rfl, none, cancelled⟩
      exact ⟨seen.map h.poll, rest.map h.poll, List.map_append, List.forall_mem_map.mpr none,
        (h.covers_after seen i).mpr cancelled⟩
  finished α i looks a := by
    rw [run_eq_finished_iff]
    constructor
    · rintro ⟨seen, poll, rest, hlooks, none, result, live⟩
      obtain ⟨seen, more, rfl, rfl, hmore⟩ := List.map_eq_append_iff.mp hlooks
      obtain ⟨look, rest, rfl, rfl, rfl⟩ := List.map_eq_cons_iff.mp hmore
      refine ⟨seen, look, rest, rfl, List.forall_mem_map.mp none, result, ?_⟩
      rw [← h.covers_after, live]
      exact Bool.false_ne_true
    · rintro ⟨seen, look, rest, rfl, none, result, live⟩
      refine ⟨seen.map h.poll, h.poll look, rest.map h.poll, by simp, List.forall_mem_map.mpr none,
        result, ?_⟩
      rwa [← h.covers_after, Bool.not_eq_true] at live

end History

end RealmKeeper.Context
