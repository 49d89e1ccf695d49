import RealmKeeper.Http.Message
import Mathlib.Tactic.Common

/-!
# How bodies are read

A body is read event after event, up to a number of octets or to its end, and with or without an eye
on the context.

* `Delivery.reading`: the octets that are taken, and how the reading ends;
* `reading_of_cancelled`: a reading with an eye on the context looks at nothing behind a
  cancellation;
* `reading_unwatched`: one without passes over cancellations, as if the body were undisturbed;
* `guarded_eq`, `guardedExcerpt_eq`: the ways to read a body under a context are readings with an
  eye on it; `excerpt_undisturbed`, `whole?_undisturbed`: the others are without;
* `Extent`, `IsInterrupted`: how much of a body is read, and that the context is cancelled
  meanwhile.
-/

namespace RealmKeeper.Http

open Text

namespace Delivery

/-- How a reading ends. -/
inductive Stop where
  /-- There is room for no more octets. -/
  | full
  | over
  /-- The body breaks off. -/
  | broken
  | cancelled
deriving DecidableEq

/-- **A reading of a body**, event after event: the octets that are taken, and how it ends. Without
a `room` there is no bound. -/
def reading (watched complete : Bool) : Option Nat → List Event → List UInt8 × Stop
  | some 0, _ => ([], .full)
  | _, [] => ([], if complete then .over else .broken)
  | room, .cancellation :: rest =>
    if watched then ([], .cancelled) else reading watched complete room rest
  | room, .chunk bs :: rest =>
    let (more, stop) := reading watched complete (room.map (· - bs.length)) rest
    (room.elim bs bs.take ++ more, stop)

/-- The body without the cancellations that fall into it. -/
def undisturbed (d : Delivery) : Delivery :=
  { d with events := d.events.filter (· ≠ .cancellation) }

section reading

variable {watched complete : Bool} {room : Option Nat} {events rest : List Event} {bs : List UInt8}

theorem reading_full : reading watched complete (some 0) events = ([], .full) := by
  cases events <;> rfl

theorem reading_nil (h : room ≠ some 0) :
    reading watched complete room [] = ([], if complete then .over else .broken) := by
  unfold reading
  split <;> simp_all

theorem reading_cancellation (h : room ≠ some 0) :
    reading watched complete room (.cancellation :: rest) =
      if watched then ([], .cancelled) else reading watched complete room rest := by
  conv_lhs => unfold reading
  split <;> simp_all

theorem reading_chunk (h : room ≠ some 0) :
    reading watched complete room (.chunk bs :: rest) =
      (room.elim bs bs.take ++ (reading watched complete (room.map (· - bs.length)) rest).1,
        (reading watched complete (room.map (· - bs.length)) rest).2) := by
  conv_lhs => unfold reading
  split <;> simp_all

/-- **A reading without an eye on the context passes over cancellations.** -/
theorem reading_unwatched (watched complete : Bool) (room : Option Nat) (events : List Event) :
    reading false complete room events =
      reading watched complete room (events.filter (· ≠ .cancellation)) := by
  induction events generalizing room with
  | nil =>
    by_cases h : room = some 0
    · rw [h, reading_full, reading_full]
    · rw [reading_nil h, List.filter_nil, reading_nil h]
  | cons event rest ih =>
    by_cases h : room = some 0
    · rw [h, reading_full, reading_full]
    cases event with
    | cancellation =>
      rw [reading_cancellation h, if_neg (by decide), List.filter_cons_of_neg (by decide)]
      exact ih room
    | chunk bs =>
      rw [reading_chunk h, List.filter_cons_of_pos (by simp), reading_chunk h, ih]

/-- **A reading with an eye on the context** is cancelled, or the same as one without. -/
theorem reading_watched (complete : Bool) (room : Option Nat) (events : List Event) :
    (reading true complete room events).2 = .cancelled ∨
      reading true complete room events = reading false complete room events := by
  induction events generalizing room with
  | nil =>
    refine .inr ?_
    by_cases h : room = some 0
    · rw [h, reading_full, reading_full]
    · rw [reading_nil h, reading_nil h]
  | cons event rest ih =>
    by_cases h : room = some 0
    · rw [h, reading_full, reading_full]
      exact .inr rfl
    cases event with
    | cancellation =>
      rw [reading_cancellation h, if_pos rfl]
      exact .inl rfl
    | chunk bs =>
      rw [reading_chunk h, reading_chunk h]
      exact (ih _).imp_right fun same => by rw [same]

theorem room_ne_of_cancelled (h : (reading watched complete room events).2 = .cancelled) :
    room ≠ some 0 := by
  rintro rfl
  rw [reading_full] at h
  cases h

/-- **Nothing behind a cancellation is looked at**: where a reading is cancelled, it is the same
whatever follows. -/
theorem reading_of_cancelled {before after : List Event}
    (h : (reading true complete room (before ++ .cancellation :: after)).2 = .cancelled)
    (first : .cancellation ∉ before) (complete' : Bool) (after' : List Event) :
    reading true complete' room (before ++ .cancellation :: after') =
      reading true complete room (before ++ .cancellation :: after) := by
  induction before generalizing room with
  | nil =>
    have some_room := room_ne_of_cancelled h
    rw [List.nil_append, List.nil_append, reading_cancellation some_room,
      reading_cancellation some_room]
    rfl
  | cons event rest ih =>
    have some_room := room_ne_of_cancelled h
    obtain ⟨other, none_in_rest⟩ := List.ne_and_not_mem_of_not_mem_cons first
    cases event with
    | cancellation => exact absurd rfl other
    | chunk bs =>
      rw [List.cons_append, reading_chunk some_room] at h
      rw [List.cons_append, List.cons_append, reading_chunk some_room, reading_chunk some_room,
        ih h none_in_rest]

theorem mem_of_reading_cancelled (h : (reading true complete room events).2 = .cancelled) :
    .cancellation ∈ events := by
  induction events generalizing room with
  | nil =>
    rw [reading_nil (room_ne_of_cancelled h)] at h
    cases complete <;> cases h
  | cons event rest ih =>
    cases event with
    | cancellation => exact List.mem_cons_self
    | chunk bs =>
      rw [reading_chunk (room_ne_of_cancelled h)] at h
      exact List.mem_cons_of_mem _ (ih h)

/-! ### Readings to the end -/

theorem reading_cancelled_iff (complete : Bool) (events : List Event) :
    (reading true complete none events).2 = .cancelled ↔ .cancellation ∈ events := by
  induction events with
  | nil =>
    rw [reading_nil (by simp)]
    cases complete <;> simp
  | cons event rest ih =>
    cases event with
    | cancellation =>
      rw [reading_cancellation (by simp), if_pos rfl]
      simp
    | chunk bs =>
      rw [reading_chunk (by simp)]
      simpa using ih

theorem reading_to_end (complete : Bool) (events : List Event) :
    reading false complete none events =
      (events.flatMap fun
        | .chunk bs => bs
        | .cancellation => [], if complete then .over else .broken) := by
  induction events with
  | nil => exact reading_nil (by simp)
  | cons event rest ih =>
    cases event with
    | cancellation =>
      rw [reading_cancellation (by simp), if_neg (by decide)]
      exact ih
    | chunk bs =>
      rw [reading_chunk (by simp), Option.map_none, ih]
      rfl

/-! ### Readings to the limit -/

theorem reading_cancelled_iff_noticed (complete : Bool) (n : Nat) (events : List Event) :
    (reading true complete (some n) events).2 = .cancelled ↔ .cancellation ∈ noticed n events := by
  induction events generalizing n with
  | nil =>
    cases n with
    | zero => simp [reading_full, noticed]
    | succ n =>
      rw [reading_nil (by simp)]
      cases complete <;> simp [noticed]
  | cons event rest ih =>
    cases n with
    | zero => simp [reading_full, noticed]
    | succ n =>
      cases event with
      | cancellation =>
        rw [reading_cancellation (by simp), if_pos rfl]
        simp [noticed]
      | chunk bs =>
        rw [reading_chunk (by simp)]
        simpa [noticed] using ih (n + 1 - bs.length)

theorem length_extend {limit : Nat} {gathered : List UInt8} (bs : List UInt8) :
    (extend limit gathered bs).length =
      gathered.length + min bs.length (limit - gathered.length) := by
  rw [extend, List.length_append, List.length_take]
  omega

theorem gather_full {limit : Nat} {gathered : List UInt8} (full : limit ≤ gathered.length)
    (events : List Event) : gather limit gathered events = gathered := by
  have spent : ¬ gathered.length < limit := Nat.not_lt.mpr full
  cases events with
  | nil => rfl
  | cons event rest => cases event <;> rw [gather, if_neg spent]

/-- What is gathered behind some octets is what a reading takes that has room for the rest. -/
theorem gather_eq_append (complete : Bool) {limit : Nat} {gathered : List UInt8}
    (fits : gathered.length ≤ limit) (events : List Event) :
    gather limit gathered events =
      gathered ++ (reading false complete (some (limit - gathered.length)) events).1 := by
  -- the room that is left is the limit less what has been gathered
  induction events generalizing gathered with
  | nil =>
    rw [gather]
    by_cases full : some (limit - gathered.length) = some 0
    · rw [full, reading_full, List.append_nil]
    · rw [reading_nil full, List.append_nil]
  | cons event rest ih =>
    by_cases below : gathered.length < limit
    · have room : some (limit - gathered.length) ≠ some 0 := by
        rw [ne_eq, Option.some.injEq]
        omega
      cases event with
      | cancellation =>
        rw [gather, if_pos below, reading_cancellation room, if_neg (by decide)]
        exact ih fits
      | chunk bs =>
        have length := @length_extend limit gathered bs
        have left : limit - (extend limit gathered bs).length =
            limit - gathered.length - bs.length := by
          omega
        have taken : bs.take (min bs.length (limit - gathered.length)) =
            bs.take (limit - gathered.length) := by
          rw [Nat.min_comm, ← List.take_take, List.take_length]
        rw [gather, if_pos below, reading_chunk room, ih (by omega), left, extend, taken,
          List.append_assoc]
        rfl
    · have full : limit - gathered.length = 0 := by omega
      rw [gather_full (Nat.not_lt.mp below), full, reading_full, List.append_nil]

theorem reading_to_limit (complete : Bool) (n : Nat) (events : List Event) :
    (reading false complete (some n) events).1 = gather n [] events := by
  have taken := @gather_eq_append complete n [] (Nat.zero_le n) events
  exact taken.symm

end reading

/-! ### The ways to read a body -/

/-- How reading a whole body under a context ends, after a reading of it. -/
def Guarded.ofReading : List UInt8 × Stop → Guarded
  | (bs, .over) => .read bs
  | (_, .cancelled) => .cancelled
  | (_, _) => .broken

theorem guarded_eq (d : Delivery) :
    d.guarded = .ofReading (reading true d.complete none d.events) := by
  unfold guarded
  by_cases h : Event.cancellation ∈ d.events
  · have stop := (reading_cancelled_iff d.complete d.events).mpr h
    rw [if_pos (by simpa using h)]
    generalize reading true d.complete none d.events = outcome at stop
    obtain ⟨bs, _⟩ := outcome
    obtain rfl := stop
    rfl
  · have same := (reading_watched d.complete none d.events).resolve_left
      (mt (reading_cancelled_iff d.complete d.events).mp h)
    rw [if_neg (by simpa using h), same, reading_to_end]
    cases d.complete <;> rfl

/-- What is kept after a reading under a context, unless it is cancelled. -/
def textOfReading : List UInt8 × Stop → Option String
  | (_, .cancelled) => none
  | (bs, _) => some (Utf8.stringLossy bs)

theorem guardedExcerpt_eq (d : Delivery) :
    d.guardedExcerpt = textOfReading (reading true d.complete (some excerptLimit) d.events) := by
  unfold guardedExcerpt
  by_cases h : Event.cancellation ∈ noticed excerptLimit d.events
  · have stop := (reading_cancelled_iff_noticed d.complete excerptLimit d.events).mpr h
    rw [if_pos (by simpa using h)]
    generalize reading true d.complete (some excerptLimit) d.events = outcome at stop
    obtain ⟨bs, _⟩ := outcome
    obtain rfl := stop
    rfl
  · have stop := mt (reading_cancelled_iff_noticed d.complete excerptLimit d.events).mp h
    have same := (reading_watched d.complete (some excerptLimit) d.events).resolve_left stop
    have octets := reading_to_limit d.complete excerptLimit d.events
    rw [if_neg (by simpa using h), excerpt, ← octets, ← same]
    generalize reading true d.complete (some excerptLimit) d.events = outcome at stop
    obtain ⟨bs, _ | _ | _ | _⟩ := outcome
    · rfl
    · rfl
    · rfl
    · exact absurd rfl stop

/-- **An excerpt without a context** passes over cancellations. -/
theorem excerpt_undisturbed (d : Delivery) : d.undisturbed.excerpt = d.excerpt := by
  have same := reading_unwatched false d.complete (some excerptLimit) d.events
  unfold excerpt undisturbed
  rw [← reading_to_limit d.complete, ← reading_to_limit d.complete, ← same]

theorem whole?_undisturbed (d : Delivery) : d.undisturbed.whole? = d.whole? := by
  have same := reading_unwatched false d.complete none d.events
  rw [reading_to_end, reading_to_end] at same
  unfold whole? octets undisturbed
  exact congrArg (fun bs => if d.complete then some bs else none) (Prod.ext_iff.mp same).1.symm

/-! ### Interrupted readings -/

/-- **How much of a body is read.** -/
inductive Extent where
  | nothing
  /-- What is kept for diagnostics. -/
  | excerpt
  | whole
deriving DecidableEq

/-- The octets for which there is room. -/
def Extent.room : Extent → Option Nat
  | .nothing => some 0
  | .excerpt => some excerptLimit
  | .whole => none

/-- **The context is cancelled while a body is read**, before as much as there is to read of it is
there. -/
def IsInterrupted (d : Delivery) (extent : Extent) : Prop :=
  (reading true d.complete extent.room d.events).2 = .cancelled

instance (d : Delivery) (extent : Extent) : Decidable (d.IsInterrupted extent) :=
  inferInstanceAs (Decidable (_ = _))

section IsInterrupted

variable {d : Delivery} {extent : Extent}

theorem not_isInterrupted_nothing (d : Delivery) : ¬ d.IsInterrupted .nothing := by
  intro h
  exact room_ne_of_cancelled h rfl

theorem IsInterrupted.mem (h : d.IsInterrupted extent) : .cancellation ∈ d.events :=
  mem_of_reading_cancelled h

/-- **A body is read up to a cancellation** where it is read under a context: the two ways to do so
are readings with an eye on the context, and what follows the cancellation makes no difference to
these. -/
structure IsReadUpToCancellation (d : Delivery) : Prop where
  whole : d.guarded = .ofReading (reading true d.complete Extent.whole.room d.events)
  excerpt : d.guardedExcerpt = textOfReading (reading true d.complete Extent.excerpt.room d.events)
  stops : ∀ extent, d.IsInterrupted extent → ∀ before after,
    d.events = before ++ .cancellation :: after → .cancellation ∉ before →
      ∀ complete' after', reading true complete' extent.room (before ++ .cancellation :: after') =
        reading true d.complete extent.room d.events

theorem isReadUpToCancellation (d : Delivery) : d.IsReadUpToCancellation where
  whole := d.guarded_eq
  excerpt := d.guardedExcerpt_eq
  stops := by
    intro extent h before after parted first complete' after'
    rw [IsInterrupted, parted] at h
    rw [parted]
    exact reading_of_cancelled h first complete' after'

theorem IsInterrupted.guarded_eq (h : d.IsInterrupted .whole) : d.guarded = .cancelled := by
  rw [guarded, if_pos (by simpa using h.mem)]

theorem IsInterrupted.guardedExcerpt_eq (h : d.IsInterrupted .excerpt) :
    d.guardedExcerpt = none := by
  rw [guardedExcerpt, if_pos (by simpa using (reading_cancelled_iff_noticed _ _ _).mp h)]

end IsInterrupted

end Delivery

end RealmKeeper.Http
