import RealmKeeper.Proofs.Contacts

/-!
# Operations that run alike

Two operations that ask the same questions in the same order, except that some of their requests
differ in a way that nobody who answers takes notice of.

* `Interchangeable`: a relation between requests of which no reply depends;
* `Twins`: two operations that differ in related requests only;
* `World.Like`: two worlds that differ in what was sent only;
* `Twins.runsAlike`: in such worlds twins have the same result, and related contacts.
-/

namespace RealmKeeper.Provider

open RealmKeeper.Http RealmKeeper.Admin

variable {R : Request → Request → Prop} {α β : Type} {w v : World}

/-! ### Twins -/

/-- **Requests of which no reply depends**: each may stand for itself, and related ones go to one
place. -/
structure Interchangeable (R : Request → Request → Prop) : Prop where
  refl : ∀ request, R request request
  url_eq : ∀ {a b}, R a b → a.url = b.url

/-- **Two operations differ in related requests only.** -/
inductive Twins (R : Request → Request → Prop) {α : Type} :
    Dialog Answer α → Dialog Answer α → Prop
  | done (a : α) : Twins R (.done a) (.done a)
  | ask (q : Question) {next next' : Answer q → Dialog Answer α}
      (rest : ∀ answer, Twins R (next answer) (next' answer)) :
      Twins R (.ask q next) (.ask q next')
  | send {a b : Request} {next next' : Reply → Dialog Answer α} (related : R a b)
      (rest : ∀ reply, Twins R (next reply) (next' reply)) :
      Twins R (.ask (.send (.ok a)) next) (.ask (.send (.ok b)) next')

namespace Twins

theorem refl (d : Dialog Answer α) : Twins R d d := by
  induction d with
  | done a => exact .done a
  | ask q next ih => exact .ask q ih

theorem bind {d d' : Dialog Answer α} {f f' : α → Dialog Answer β} (twins : Twins R d d')
    (rest : ∀ a, Twins R (f a) (f' a)) : Twins R (d.bind f) (d'.bind f') := by
  induction twins with
  | done a => exact rest a
  | ask q _ ih => exact .ask q ih
  | send related _ ih => exact .send related ih

theorem andThen {d d' : Operating α} {f f' : α → Operating β} (twins : Twins R d d')
    (rest : ∀ a, Twins R (f a) (f' a)) : Twins R (d.andThen f) (d'.andThen f') := by
  refine twins.bind fun result => ?_
  cases result with
  | ok a => exact rest a
  | error cause => exact .done _

end Twins

/-! ### Worlds and contacts -/

/-- **Two worlds are alike** but for what was sent. -/
def World.Like (w v : World) : Prop :=
  ∃ sent, v = { w with sent := sent }

/-- **Two contacts are alike**: their requests are related, and the same becomes of them. -/
structure Contact.Mirrors (R : Request → Request → Prop) (a b : Contact) : Prop where
  request : R a.request b.request
  arrival : a.arrival = b.arrival

/-- **Two runs have like contacts**, where the first one may be about requests of its own. -/
inductive MirrorsAfter (R : Request → Request → Prop) (a b : Request) :
    List Contact → List Contact → Prop
  | rest {cs cs' : List Contact} (mirrors : List.Forall₂ (Contact.Mirrors R) cs cs') :
      MirrorsAfter R a b cs cs'
  | first {cs cs' : List Contact} (arrival : Arrival)
      (mirrors : List.Forall₂ (Contact.Mirrors R) cs cs') :
      MirrorsAfter R a b (⟨a, arrival⟩ :: cs) (⟨b, arrival⟩ :: cs')

/-- **Two operations run alike** in two worlds: they have the same result, worlds that are alike
after them, and contacts as it is said. -/
structure RunsAlike (C : List Contact → List Contact → Prop) {α : Type} (w v : World)
    (d d' : Dialog Answer α) : Prop where
  result : (w.perform d).1 = (v.perform d').1
  after : (w.perform d).2.Like (v.perform d').2
  contacts : C (w.contacts d) (v.contacts d')

section alike

variable {C C' : List Contact → List Contact → Prop} {u u' : World} {d d' e e' : Dialog Answer α}
  {here here' : List Contact}

theorem RunsAlike.imp (alike : RunsAlike C w v d d') (h : ∀ cs cs', C cs cs' → C' cs cs') :
    RunsAlike C' w v d d' :=
  ⟨alike.result, alike.after, h _ _ alike.contacts⟩

theorem RunsAlike.extend (runs : w.Runs d here (u.perform e).1 (u.perform e).2)
    (runs' : v.Runs d' here' (u'.perform e').1 (u'.perform e').2) (alike : RunsAlike C u u' e e')
    (contacts : C' here here') : RunsAlike C' w v d d' := by
  constructor
  · rw [runs.performs, runs'.performs]
    exact alike.result
  · rw [runs.performs, runs'.performs]
    exact alike.after
  · rw [runs.contacts_eq, runs'.contacts_eq]
    exact contacts

end alike

theorem Arrival.toReply_congr {a b : Request} (arrival : Arrival) (url : a.url = b.url) :
    arrival.toReply a = arrival.toReply b := by
  cases arrival <;> simp [toReply, url]

namespace World.Like

theorem cancelled_eq (like : w.Like v) : v.cancelled = w.cancelled := by
  obtain ⟨sent, rfl⟩ := like
  rfl

theorem next_eq (like : w.Like v) : v.next = w.next := by
  obtain ⟨sent, rfl⟩ := like
  rfl

/-- What is the case after a request does not depend on the request, nor on what was sent before
it. -/
theorem after (like : w.Like v) (a b : Request) : (w.after a).Like (v.after b) := by
  obtain ⟨sent, rfl⟩ := like
  refine ⟨(World.after { w with sent := sent } b).sent, ?_⟩
  unfold World.after World.send World.next
  dsimp only
  split
  · rfl
  split <;> try rfl
  split <;> rfl

end World.Like

/-! ### Runs of twins -/

theorem runsAlike_send {a b : Request} {next next' : Reply → Dialog Answer α} (like : w.Like v)
    (url : a.url = b.url)
    (rest : ∀ reply w v, World.Like w v →
      RunsAlike (List.Forall₂ (Contact.Mirrors R)) w v (next reply) (next' reply)) :
    RunsAlike (MirrorsAfter R a b) w v
      (.ask (.send (.ok a)) next) (.ask (.send (.ok b)) next') := by
  cases cancelled : w.cancelled with
  | true =>
    have cancelled' : v.cancelled = true := like.cancelled_eq.trans cancelled
    have alike := rest .cancelled w v like
    have asked : World.answer (.send (.ok a)) w = (Reply.cancelled, w) :=
      World.send_of_cancelled (.ok a) cancelled
    have asked' : World.answer (.send (.ok b)) v = (Reply.cancelled, v) :=
      World.send_of_cancelled (.ok b) cancelled'
    exact alike.extend (.ask_silent asked (if_pos cancelled) ⟨rfl, rfl⟩)
      (.ask_silent asked' (if_pos cancelled') ⟨rfl, rfl⟩) (.rest alike.contacts)
  | false =>
    have sends : w.Sends a w.next.arrival (w.after a) := ⟨cancelled, rfl, rfl⟩
    have sends' : v.Sends b w.next.arrival (v.after b) :=
      ⟨like.cancelled_eq.trans cancelled, congrArg Exchange.arrival like.next_eq, rfl⟩
    have alike := rest (w.next.arrival.toReply a) _ _ (like.after a b)
    refine alike.extend (sends.runs ⟨rfl, rfl⟩) (sends'.runs ?_) (.first _ alike.contacts)
    rw [← w.next.arrival.toReply_congr url]
    exact ⟨rfl, rfl⟩

theorem MirrorsAfter.forall₂ {a b : Request} {cs cs' : List Contact}
    (h : MirrorsAfter R a b cs cs') (related : R a b) :
    List.Forall₂ (Contact.Mirrors R) cs cs' := by
  cases h with
  | rest mirrors => exact mirrors
  | first arrival mirrors => exact .cons ⟨related, rfl⟩ mirrors

theorem World.Like.answer_silent (like : w.Like v) {q : Question}
    (other : ∀ request, q ≠ .send (.ok request)) :
    ∃ reply u u', World.answer q w = (reply, u) ∧ World.answer q v = (reply, u') ∧ u.Like u' ∧
      World.contact? (q, w) = none ∧ World.contact? (q, v) = none := by
  match q with
  | .turn _ | .endTurn | .stored | .keep _ | .now =>
    obtain ⟨sent, rfl⟩ := like
    exact ⟨_, _, _, rfl, rfl, ⟨sent, rfl⟩, rfl, rfl⟩
  | .send (.ok request) => exact absurd rfl (other request)
  | .send (.error cause) =>
    have same := like.cancelled_eq
    cases cancelled : w.cancelled with
    | true =>
      exact ⟨.cancelled, w, v, World.send_of_cancelled (.error cause) cancelled,
        World.send_of_cancelled (.error cause) (same.trans cancelled), like, rfl, rfl⟩
    | false =>
      exact ⟨.failed cause, w, v, World.send_of_error cancelled,
        World.send_of_error (same.trans cancelled), like, rfl, rfl⟩

/-- **Twins run alike** in worlds that are alike. -/
theorem Twins.runsAlike (hR : Interchangeable R) {d d' : Dialog Answer α} (twins : Twins R d d')
    (like : w.Like v) : RunsAlike (List.Forall₂ (Contact.Mirrors R)) w v d d' := by
  induction twins generalizing w v with
  | done a => exact ⟨rfl, like, .nil⟩
  | send related _ ih =>
    exact (runsAlike_send like (hR.url_eq related) fun reply _ _ => ih reply).imp
      fun _ _ h => h.forall₂ related
  | ask q _ ih =>
    by_cases sends : ∃ request, q = .send (.ok request)
    · obtain ⟨request, rfl⟩ := sends
      exact (runsAlike_send like rfl fun reply _ _ => ih reply).imp
        fun _ _ h => h.forall₂ (hR.refl request)
    · obtain ⟨reply, u, u', asked, asked', after, silent, silent'⟩ :=
        like.answer_silent (not_exists.mp sends)
      have alike := ih reply after
      exact alike.extend (.ask_silent asked silent ⟨rfl, rfl⟩)
        (.ask_silent asked' silent' ⟨rfl, rfl⟩) alike.contacts

end RealmKeeper.Provider
