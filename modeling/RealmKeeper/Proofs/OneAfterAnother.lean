import RealmKeeper.Proofs.SharedToken

/-!
# One operation after the other

What an operation does in a world, where it is run to its end before the next one begins, it can
also do among others that wait.

* `Alone`: no other operation has the turn;
* `Alone.answers`: each question is answered as in the world;
* `Alone.performs`: an operation ends as in the world, and `Authorised.performs`: so do all that
  begin while nobody has the turn.
-/

namespace RealmKeeper.Provider

open RealmKeeper.Http RealmKeeper.Admin

theorem World.after_of_live {w : World} (request : Request) (live : w.cancelled = false) :
    (w.after request).clock = w.clock.advance w.next.elapsed ∧
      (w.after request).token = w.token := by
  refine ⟨?_, (World.send_keeps (.ok request) w).1⟩
  rw [World.after, World.send, if_neg (Bool.not_eq_true _ ▸ live)]
  cases arrival : w.next.arrival with
  | reply response =>
    dsimp only
    split <;> rfl
  | _ => rfl

namespace Concurrent

variable {ι : Type} {α : ι → Type} {c : AdminClient} {watch : Watch} {i : ι} {e : Event ι}
  {u v : Scene ι α} {w : World}

/-- **No other operation has the turn.** -/
structure Alone (c : AdminClient) (watch : Watch) (u : Scene ι α) (i : ι) : Prop where
  place : ∃ p, Describes c watch p (u.stage i) ∧ (p.HasTurn ↔ u.shared.holder = some i)
  nobody : ∀ j, j ≠ i → u.shared.holder ≠ some j

theorem Alone.free {p : Position} (alone : Alone c watch u i)
    (turn : p.HasTurn ↔ u.shared.holder = some i) (outside : ¬ p.HasTurn) :
    u.shared.holder = none := by
  refine Option.eq_none_iff_forall_ne_some.mpr fun j holder => ?_
  by_cases same : j = i
  · exact outside (turn.mpr (same ▸ holder))
  · exact alone.nobody j same holder

/-- **The operations see what the world holds.** -/
structure Sees (u : Scene ι α) (w : World) : Prop where
  clock : u.shared.clock = w.clock
  token : u.shared.token = w.token

theorem Sees.of_shared {x : Scene ι α} (h : Sees u w) (same : x.shared = u.shared) : Sees x w :=
  ⟨by rw [same]; exact h.clock, by rw [same]; exact h.token⟩

variable [DecidableEq ι]

/-- **A run of one operation**, while time passes. -/
def Goes (i : ι) (u v : Scene ι α) : Prop :=
  ∃ events, Run (fun _ => True) u events v ∧ ∀ e ∈ events, ∀ j, e.actor = some j → j = i

theorem Goes.trans {x : Scene ι α} (first : Goes i u v) (second : Goes i v x) : Goes i u x := by
  obtain ⟨before, run, own⟩ := first
  obtain ⟨after, run', own'⟩ := second
  refine ⟨before ++ after, run.append run', fun e he => ?_⟩
  rcases List.mem_append.mp he with he | he
  · exact own e he
  · exact own' e he

theorem Step.goes (h : Step u e v) (own : ∀ j, e.actor = some j → j = i) : Goes i u v := by
  refine ⟨[e], .cons trivial h (.nil trivial), fun e' he => ?_⟩
  rw [List.mem_singleton.mp he]
  exact own

theorem Alone.acts {here next : Stage (α i)} {t : Shared ι} (alone : Alone c watch u i)
    (stage : u.stage i = here) (h : Acts i u.shared here e next t) :
    ∃ v, Goes i u v ∧ Alone c watch v i ∧ v.stage i = next ∧ v.shared = t := by
  obtain ⟨v, step, stage', rfl⟩ := h.exists_step stage
  obtain ⟨p, place, turn⟩ := alone.place
  obtain ⟨p', move, place'⟩ := (stage ▸ place).acts h
  refine ⟨v, step.goes fun j actor => ?_, ⟨?_, fun j other => ?_⟩, stage', rfl⟩
  · exact Option.some.inj (actor.symm.trans h.actor_eq)
  · exact ⟨p', stage' ▸ place', move.inside turn⟩
  · rw [ne_eq, move.holder_of_ne turn other]
    exact alone.nobody j other

theorem Alone.waits (alone : Alone c watch u i) (nanoseconds : Nat) :
    ∃ v, Goes i u v ∧ Alone c watch v i ∧ v.stage i = u.stage i ∧
      v.shared = u.shared.later nanoseconds := by
  refine ⟨_, (Step.passes nanoseconds).goes fun j actor => ?_, ⟨alone.place, alone.nobody⟩, rfl,
    rfl⟩
  cases actor

/-- **A request is answered as in the world.** -/
theorem Alone.sends {prepared : AdminClient.Prepared} {next : Reply → Admin.Operating (α i)}
    (alone : Alone c watch u i) (sees : Sees u w)
    (stage : u.stage i = .doing (.ask (.send prepared) next)) :
    ∃ v, Goes i u v ∧ Alone c watch v i ∧ v.stage i = .doing (next (w.send prepared).1) ∧
      Sees v (w.send prepared).2 := by
  cases cancelled : w.cancelled with
  | true =>
    obtain ⟨v, goes, alone', stage', shared⟩ := alone.acts stage (.asks (.cancelled prepared))
    rw [World.send_of_cancelled prepared cancelled]
    exact ⟨v, goes, alone', stage', sees.of_shared shared⟩
  | false =>
    cases prepared with
    | error cause =>
      obtain ⟨v, goes, alone', stage', shared⟩ := alone.acts stage (.asks (.impossible cause))
      rw [World.send_of_error cancelled]
      exact ⟨v, goes, alone', stage', sees.of_shared shared⟩
    | ok request =>
      obtain ⟨v, sent, alone', stage', shared⟩ := alone.acts stage (.sends request next)
      obtain ⟨x, passed, alone', stage'', shared'⟩ := alone'.waits w.next.elapsed
      obtain ⟨y, received, alone', done, shared''⟩ :=
        alone'.acts (stage''.trans stage') (.receives request next (w.next.arrival.toReply request))
      rw [World.send_of_live cancelled]
      have seen : y.shared = u.shared.later w.next.elapsed := by rw [shared'', shared', shared]
      obtain ⟨clock, token⟩ := World.after_of_live request cancelled
      refine ⟨y, (sent.trans passed).trans received, alone', done, ?_, ?_⟩
      · rw [seen, clock, ← sees.clock]
        rfl
      · rw [seen, token, ← sees.token]
        rfl

theorem Alone.answers {q : Question} {next : Answer q → Admin.Operating (α i)}
    (alone : Alone c watch u i) (sees : Sees u w) (stage : u.stage i = .doing (.ask q next)) :
    ∃ v, Goes i u v ∧ Alone c watch v i ∧ v.stage i = .doing (next (World.answer q w).1) ∧
      Sees v (World.answer q w).2 := by
  cases q with
  | turn watch' =>
    -- an operation asks for the turn outside its search, and no other one has it
    have free : u.shared.holder = none := by
      obtain ⟨p, place, turn⟩ := alone.place
      rw [stage] at place
      cases place
      exact alone.free turn id
    by_cases given : (World.answer (.turn watch') w).1 = true
    · obtain ⟨v, goes, alone', stage', shared⟩ := alone.acts stage (.asks (.turn watch' free))
      rw [given]
      exact ⟨v, goes, alone', stage', by rw [shared]; exact sees.clock,
        by rw [shared]; exact sees.token⟩
    · have away : watch' = .everywhere := by
        cases watch' with
        | atRequests => exact absurd rfl given
        | everywhere => rfl
      subst away
      obtain ⟨v, goes, alone', stage', shared⟩ := alone.acts stage (.asks .turnedAway)
      rw [eq_false_of_ne_true given]
      exact ⟨v, goes, alone', stage', sees.of_shared shared⟩
  | endTurn =>
    obtain ⟨v, goes, alone', stage', shared⟩ := alone.acts stage (.asks .endTurn)
    exact ⟨v, goes, alone', stage', by rw [shared]; exact sees.clock,
      by rw [shared]; exact sees.token⟩
  | stored =>
    obtain ⟨v, goes, alone', stage', shared⟩ := alone.acts stage (.asks .stored)
    rw [sees.token] at stage'
    exact ⟨v, goes, alone', stage', sees.of_shared shared⟩
  | keep token =>
    obtain ⟨v, goes, alone', stage', shared⟩ := alone.acts stage (.asks (.keep token))
    exact ⟨v, goes, alone', stage', by rw [shared]; exact sees.clock, by rw [shared]; rfl⟩
  | now =>
    obtain ⟨v, goes, alone', stage', shared⟩ := alone.acts stage (.asks .now)
    rw [sees.clock] at stage'
    exact ⟨v, goes, alone', stage', sees.of_shared shared⟩
  | send prepared => exact alone.sends sees stage

/-- **An operation ends as in the world**, and gives the turn back. -/
theorem Alone.performs {d : Admin.Operating (α i)} (alone : Alone c watch u i) (sees : Sees u w)
    (stage : u.stage i = .doing d) :
    ∃ v, Goes i u v ∧ v.stage i = .doing (.done (w.perform d).1) ∧ Sees v (w.perform d).2 ∧
      v.shared.holder = none := by
  induction d generalizing u w with
  | done result =>
    refine ⟨u, ⟨[], .nil trivial, fun e he => absurd he List.not_mem_nil⟩, stage, sees, ?_⟩
    obtain ⟨p, place, turn⟩ := alone.place
    rw [stage] at place
    cases place
    exact alone.free turn id
  | ask q next ih =>
    obtain ⟨v, goes, alone', stage', sees'⟩ := alone.answers sees stage
    obtain ⟨x, goes', done, sees'', free⟩ := ih _ alone' sees' stage'
    exact ⟨x, goes.trans goes', done, sees'', free⟩

/-- **What authorises its requests can be done as in the world** while nobody has the turn. -/
theorem Authorised.performs {d : Admin.Operating (α i)} (h : Authorised c watch d)
    (stage : u.stage i = .doing d) (free : u.shared.holder = none) (sees : Sees u w) :
    ∃ v, Goes i u v ∧ v.stage i = .doing (.done (w.perform d).1) ∧ Sees v (w.perform d).2 ∧
      v.shared.holder = none := by
  obtain ⟨p, outside, place⟩ := Authorised.describes h
  have alone : Alone c watch u i := by
    refine ⟨⟨p, stage ▸ place, ?_⟩, fun j _ => by simp [free]⟩
    rcases outside with rfl | rfl <;> simp [Position.HasTurn, free]
  exact alone.performs sees stage

end Concurrent

end RealmKeeper.Provider
