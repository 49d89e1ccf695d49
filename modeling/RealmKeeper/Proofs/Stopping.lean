import RealmKeeper.Proofs.Contacts

/-!
# Dialogues that are stopped

What a cancellation does to any dialogue with the provider: nothing is sent after it.

* `Contact.Cancels`: the context is cancelled in a contact; `last_of_cancels`: it is then the last
  contact, and `contacts_of_cancelled`: under a cancelled context there is none;
* `StopsBefore` and `StopsDuring`: how a dialogue ends if the context is cancelled before it begins,
  or while an answer is awaited, with one rule each for dialogues that follow one another;
* `StopsAt`: how a dialogue ends in which there is a contact.
-/

namespace RealmKeeper.Provider

open RealmKeeper.Http RealmKeeper.Admin

variable {α β : Type} {w v : World}

/-! ### Silence -/

/-- **The context is cancelled in a contact**: while its answer is awaited, or while the body of the
answer arrives. -/
def Contact.Cancels (contact : Contact) : Prop :=
  contact.arrival = .cancelling ∨
    ∃ response, contact.arrival = .reply response ∧ .cancellation ∈ response.body.events

namespace World

/-- **The context is cancelled while an answer is awaited** in a dialogue. -/
def Interrupts (w : World) (d : Dialog Answer α) : Prop :=
  ∃ contact ∈ w.contacts d, contact.arrival = .cancelling

instance (w : World) (d : Dialog Answer α) : Decidable (w.Interrupts d) :=
  inferInstanceAs (Decidable (∃ contact ∈ w.contacts d, contact.arrival = .cancelling))

theorem cancelled_answer (q : Question) (h : w.cancelled = true) :
    (answer q w).2.cancelled = true := by
  cases q with
  | send prepared =>
    show (w.send prepared).2.cancelled = true
    rw [send_of_cancelled prepared h]
    exact h
  | _ => exact h

theorem contact?_of_cancelled (q : Question) (h : w.cancelled = true) : contact? (q, w) = none := by
  cases q with
  | send prepared => cases prepared <;> simp [contact?, h]
  | _ => rfl

theorem cancelled_perform (d : Dialog Answer α) (h : w.cancelled = true) :
    (w.perform d).2.cancelled = true := by
  induction d generalizing w with
  | done a => exact h
  | ask q next ih => exact ih _ (cancelled_answer q h)

/-- **Under a cancelled context nothing is sent.** -/
theorem contacts_of_cancelled (d : Dialog Answer α) (h : w.cancelled = true) :
    w.contacts d = [] := by
  induction d generalizing w with
  | done a => rfl
  | ask q next ih =>
    rw [contacts_ask, contact?_of_cancelled q h, ih _ (cancelled_answer q h)]
    rfl

theorem not_interrupts_of_cancelled (d : Dialog Answer α) (h : w.cancelled = true) :
    ¬ w.Interrupts d := by
  rintro ⟨contact, hc, -⟩
  rw [contacts_of_cancelled d h] at hc
  cases hc

theorem cancelled_of_contact? {q : Question} {contact : Contact}
    (h : contact? (q, w) = some contact) (hc : contact.Cancels) :
    (answer q w).2.cancelled = true := by
  match q with
  | .turn _ | .endTurn | .stored | .keep _ | .now | .send (.error _) => cases h
  | .send (.ok request) =>
    cases live : w.cancelled with
    | true => exact cancelled_answer _ live
    | false =>
      rw [contact?_of_live live] at h
      obtain rfl := Option.some.inj h
      show (w.send (.ok request)).2.cancelled = true
      unfold send
      rw [live]
      rcases hc with ha | ⟨response, ha, hb⟩
      · rw [show w.next.arrival = .cancelling from ha]
        rfl
      · rw [show w.next.arrival = .reply response from ha]
        simp [hb, cancel]

/-- A dialogue in which the context is cancelled leaves it cancelled. -/
theorem cancelled_of_mem (d : Dialog Answer α) (w : World) {contact : Contact}
    (h : contact ∈ w.contacts d) (hc : contact.Cancels) : (w.perform d).2.cancelled = true := by
  induction d generalizing w with
  | done a => cases h
  | ask q next ih =>
    rw [contacts_ask, List.mem_append, Option.mem_toList] at h
    rcases h with first | rest
    · exact cancelled_perform (next _) (cancelled_of_contact? first hc)
    · exact ih _ _ rest

/-- **A contact in which the context is cancelled is the last.** -/
theorem last_of_cancels (d : Dialog Answer α) (w : World) {earlier later : List Contact}
    {contact : Contact} (h : w.contacts d = earlier ++ contact :: later)
    (hc : contact.Cancels) : later = [] := by
  induction d generalizing w earlier with
  | done a => simp at h
  | ask q next ih =>
    rw [contacts_ask] at h
    cases hq : contact? (q, w) with
    | none =>
      rw [hq] at h
      exact ih _ _ h
    | some first =>
      rw [hq, Option.toList_some, List.singleton_append] at h
      cases earlier with
      | nil =>
        obtain ⟨rfl, rest⟩ := List.cons.inj h
        rw [← rest]
        exact contacts_of_cancelled _ (cancelled_of_contact? hq hc)
      | cons _ earlier =>
        obtain ⟨-, rest⟩ := List.cons.inj h
        exact ih _ _ rest

end World

/-! ### How dialogues end -/

/-- **The end of a dialogue that begins under a cancelled context.** -/
def StopsBefore (d : Dialog Answer α) (Ends : α → Prop) : Prop :=
  ∀ w : World, w.cancelled = true → Ends (w.perform d).1

/-- **The end of a dialogue during which the context is cancelled**, while an answer is awaited. -/
def StopsDuring (d : Dialog Answer α) (Ends : α → Prop) : Prop :=
  ∀ w : World, w.Interrupts d → Ends (w.perform d).1

/-- **The end of a dialogue in which there is a contact.** -/
def StopsAt (contact : Contact) (d : Dialog Answer α) (Ends : α → Prop) : Prop :=
  ∀ w : World, contact ∈ w.contacts d → Ends (w.perform d).1

section Ends

variable {Ends : α → Prop} {Ends' : β → Prop}

theorem stopsBefore_done {a : α} (h : Ends a) : StopsBefore (.done a) Ends :=
  fun _ _ => h

theorem stopsDuring_done (a : α) : StopsDuring (.done a) Ends := by
  rintro w ⟨contact, hc, -⟩
  cases hc

theorem StopsBefore.bind {d : Dialog Answer α} {f : α → Dialog Answer β}
    (h : StopsBefore d Ends) (hf : ∀ a, Ends a → StopsBefore (f a) Ends') :
    StopsBefore (d >>= f) Ends' := by
  intro w hc
  rw [World.perform_bind]
  exact hf _ (h w hc) _ (World.cancelled_perform d hc)

theorem stopsAt_done {contact : Contact} (a : α) : StopsAt contact (.done a) Ends := by
  intro w hmem
  cases hmem

/-- **A cancellation in one of two dialogues** that follow one another: the second begins under a
cancelled context, or the cancellation is its own. -/
theorem StopsAt.bind {contact : Contact} {d : Dialog Answer α} {f : α → Dialog Answer β}
    (cancels : contact.Cancels) (h : StopsAt contact d Ends)
    (before : ∀ a, Ends a → StopsBefore (f a) Ends') (during : ∀ a, StopsAt contact (f a) Ends') :
    StopsAt contact (d >>= f) Ends' := by
  intro w hmem
  rw [World.contacts_bind] at hmem
  rw [World.perform_bind]
  rcases List.mem_append.mp hmem with first | second
  · have cancelled := World.cancelled_of_mem d w first cancels
    exact before _ (h w first) _ cancelled
  · exact during _ _ second

theorem StopsDuring.bind {d : Dialog Answer α} {f : α → Dialog Answer β}
    (h : StopsDuring d Ends) (before : ∀ a, Ends a → StopsBefore (f a) Ends')
    (during : ∀ a, StopsDuring (f a) Ends') : StopsDuring (d >>= f) Ends' := by
  rintro w ⟨contact, hmem, hc⟩
  have first : StopsAt contact d Ends := fun v hv => h v ⟨contact, hv, hc⟩
  have second : ∀ a, StopsAt contact (f a) Ends' := fun a v hv => during a v ⟨contact, hv, hc⟩
  exact StopsAt.bind (.inl hc) first before second w hmem

theorem StopsDuring.ask {q : Question} {next : Answer q → Dialog Answer α}
    (silent : ∀ w, World.contact? (q, w) = none) (h : ∀ reply, StopsDuring (next reply) Ends) :
    StopsDuring (.ask q next) Ends := by
  rintro w ⟨contact, hmem, hc⟩
  rw [World.contacts_ask, silent w] at hmem
  exact h _ _ ⟨contact, hmem, hc⟩

theorem StopsBefore.send {prepared : AdminClient.Prepared} {next : Reply → Dialog Answer α}
    (h : StopsBefore (next .cancelled) Ends) : StopsBefore (.ask (.send prepared) next) Ends := by
  intro w hc
  have reply : World.answer (.send prepared) w = (.cancelled, w) :=
    World.send_of_cancelled prepared hc
  rw [World.perform_ask, reply]
  exact h w hc

theorem StopsDuring.send {prepared : AdminClient.Prepared} {next : Reply → Dialog Answer α}
    (before : StopsBefore (next .cancelled) Ends)
    (during : ∀ reply, StopsDuring (next reply) Ends) :
    StopsDuring (.ask (.send prepared) next) Ends := by
  rintro w ⟨contact, hmem, hc⟩
  rw [World.contacts_ask] at hmem
  rcases List.mem_append.mp hmem with first | second
  · rw [Option.mem_toList] at first
    have cancelled := World.cancelled_of_contact? first (.inl hc)
    rcases World.sends_or_silent prepared w with
      ⟨request, arrival, v, rfl, sends⟩ | ⟨_, -, -, silent, -⟩
    · rw [World.contact?_of_live sends.live] at first
      obtain rfl := Option.some.inj first
      have reply : (World.answer (.send (.ok request)) w).1 = .cancelled := by
        show (w.send (.ok request)).1 = .cancelled
        rw [World.send_of_live sends.live, show w.next.arrival = .cancelling from hc]
        rfl
      rw [World.perform_ask, reply]
      exact before _ cancelled
    · cases silent.symm.trans first
  · rw [World.perform_ask]
    exact during _ _ ⟨contact, second, hc⟩

end Ends

end RealmKeeper.Provider
