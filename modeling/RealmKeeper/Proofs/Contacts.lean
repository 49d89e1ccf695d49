import RealmKeeper.Proofs.History
import RealmKeeper.Provider.World
import Mathlib.Tactic.Common

/-!
# Contacts with the provider

What an operation says to the provider: the requests that it sends, each with what becomes of it.

* `World.contacts`: the contacts of an operation that is run in a world, in order; a request that
  cannot be made, or that is not sent because the context is cancelled, is none;
* `contacts_bind`: operations that follow one another have their contacts one after the other;
* `sent_perform`: the requests that reach the provider are those of the contacts.
-/

namespace RealmKeeper.Provider

open RealmKeeper.Http RealmKeeper.Admin

/-- **A contact**: a request that is sent, and what becomes of it. -/
structure Contact where
  request : Request
  arrival : Arrival

/-- How what becomes of a request comes back. -/
def Arrival.toReply (request : Request) : Arrival → Reply
  | .reply response => .answered response
  | .dropped => .failed (.sending request.url)
  | .cancelling => .cancelled
  | .unreachable => .failed (.sending request.url)

namespace World

/-- The world after a request is sent. -/
def after (w : World) (request : Request) : World :=
  (w.send (.ok request)).2

/-- The contact that a question makes. -/
def contact? : Question × World → Option Contact
  | (.send (.ok request), w) => if w.cancelled then none else some ⟨request, w.next.arrival⟩
  | _ => none

/-- **The contacts** of an operation with the provider, in order. -/
def contacts {α : Type} (w : World) (d : Dialog Answer α) : List Contact :=
  (d.history answer w).filterMap contact?

/-- **The world sends a request**: the context is not cancelled, and this is what becomes of the
request and what is the case after it. -/
structure Sends (w : World) (request : Request) (arrival : Arrival) (after : World) : Prop where
  live : w.cancelled = false
  arrives : w.next.arrival = arrival
  after_eq : w.after request = after

/-- **What a run comes to**: the contacts of an operation, its result, and the world after it. -/
structure Runs {α : Type} (w : World) (d : Dialog Answer α) (contacts : List Contact) (result : α)
    (after : World) : Prop where
  performs : w.perform d = (result, after)
  contacts_eq : w.contacts d = contacts

/-! ### Running -/

section run

variable {α β : Type} (w : World)

@[simp] theorem perform_done (a : α) : w.perform (.done a) = (a, w) := rfl

theorem perform_ask (q : Question) (next : Answer q → Dialog Answer α) :
    w.perform (.ask q next) = (answer q w).2.perform (next (answer q w).1) := rfl

theorem perform_bind (d : Dialog Answer α) (f : α → Dialog Answer β) :
    w.perform (d >>= f) = (w.perform d).2.perform (f (w.perform d).1) := by
  unfold perform
  rw [Dialog.run_bind]
  rfl

@[simp] theorem contacts_done (a : α) : w.contacts (.done a) = [] := rfl

theorem contacts_ask (q : Question) (next : Answer q → Dialog Answer α) :
    w.contacts (.ask q next) =
      (contact? (q, w)).toList ++ (answer q w).2.contacts (next (answer q w).1) := by
  unfold contacts
  rw [Dialog.history_ask, List.filterMap_cons]
  cases contact? (q, w) <;> rfl

theorem contacts_bind (d : Dialog Answer α) (f : α → Dialog Answer β) :
    w.contacts (d >>= f) =
      w.contacts d ++ (w.perform d).2.contacts (f (w.perform d).1) := by
  unfold contacts
  rw [Dialog.history_bind, List.filterMap_append]
  rfl

variable {w} {v u : World} {a : α} {b : β} {here there : List Contact}

theorem runs_done (a : α) (w : World) : w.Runs (.done a) [] a w :=
  ⟨rfl, rfl⟩

theorem Runs.ask {q : Question} {next : Answer q → Dialog Answer α} {reply : Answer q}
    (hq : answer q w = (reply, v)) (h : v.Runs (next reply) here a u) :
    w.Runs (.ask q next) ((contact? (q, w)).toList ++ here) a u := by
  constructor
  · rw [perform_ask, hq]
    exact h.performs
  · rw [contacts_ask, hq]
    exact congrArg _ h.contacts_eq

theorem Runs.ask_silent {q : Question} {next : Answer q → Dialog Answer α} {reply : Answer q}
    (hq : answer q w = (reply, v)) (silent : contact? (q, w) = none)
    (h : v.Runs (next reply) here a u) : w.Runs (.ask q next) here a u := by
  have hr := Runs.ask hq h
  rwa [silent] at hr

theorem Runs.bind {d : Dialog Answer α} {f : α → Dialog Answer β} (h : w.Runs d here a v)
    (h' : v.Runs (f a) there b u) : w.Runs (d >>= f) (here ++ there) b u := by
  constructor
  · rw [perform_bind, h.performs]
    exact h'.performs
  · rw [contacts_bind, h.performs, h.contacts_eq]
    exact congrArg _ h'.contacts_eq

theorem Runs.bind_silent {d : Dialog Answer α} {f : α → Dialog Answer β} (h : w.Runs d here a v)
    (h' : v.Runs (f a) [] b u) : w.Runs (d >>= f) here b u := by
  have hr := Runs.bind h h'
  rwa [List.append_nil] at hr

theorem Runs.andThen {d : Operating α} {f : α → Operating β} {result : Except AdminError β}
    (h : w.Runs d here (.ok a) v) (h' : v.Runs (f a) there result u) :
    w.Runs (d.andThen f) (here ++ there) result u :=
  Runs.bind h h'

theorem Runs.andThen_error {d : Operating α} {f : α → Operating β} {cause : AdminError}
    (h : w.Runs d here (.error cause) v) : w.Runs (d.andThen f) here (.error cause) v :=
  Runs.bind_silent h (runs_done _ v)

end run

/-! ### Sending -/

variable {w : World} {request : Request}

theorem send_of_cancelled (prepared : AdminClient.Prepared) (h : w.cancelled = true) :
    w.send prepared = (.cancelled, w) := by
  simp [send, h]

theorem send_of_error {cause : NetworkError} (h : w.cancelled = false) :
    w.send (.error cause) = (.failed cause, w) := by
  simp [send, h]

theorem send_of_live (h : w.cancelled = false) :
    w.send (.ok request) = (w.next.arrival.toReply request, w.after request) := by
  unfold after send
  rw [h]
  cases w.next.arrival <;> rfl

theorem contact?_of_live (h : w.cancelled = false) :
    contact? (.send (.ok request), w) = some ⟨request, w.next.arrival⟩ := by
  simp [contact?, h]

/-- **A request that is sent is a contact**, and what comes after it follows from what becomes of
it. -/
theorem Sends.runs {α : Type} {arrival : Arrival} {v u : World} {here : List Contact} {a : α}
    {next : Reply → Dialog Answer α} (h : w.Sends request arrival v)
    (hn : v.Runs (next (arrival.toReply request)) here a u) :
    w.Runs (.ask (.send (.ok request)) next) (⟨request, arrival⟩ :: here) a u := by
  obtain ⟨live, rfl, rfl⟩ := h
  have hr : w.Runs (.ask (.send (.ok request)) next)
      ((contact? (.send (.ok request), w)).toList ++ here) a u :=
    Runs.ask (send_of_live live) hn
  rwa [contact?_of_live live] at hr

/-- **A question for a reply** sends its request, or there is no answer and nothing is sent: the
context is cancelled, or the request cannot be made. -/
theorem sends_or_silent (prepared : AdminClient.Prepared) (w : World) :
    (∃ request arrival v, prepared = .ok request ∧ w.Sends request arrival v) ∨
      ∃ reply, (∀ response, reply ≠ .answered response) ∧ answer (.send prepared) w = (reply, w) ∧
        contact? (.send prepared, w) = none ∧
        (w.cancelled = true ∨ ∃ cause, prepared = .error cause) := by
  cases hc : w.cancelled with
  | true =>
    refine .inr ⟨.cancelled, nofun, send_of_cancelled prepared hc, ?_, .inl rfl⟩
    cases prepared <;> simp [contact?, hc]
  | false =>
    cases prepared with
    | error cause => exact .inr ⟨.failed cause, nofun, send_of_error hc, rfl, .inr ⟨cause, rfl⟩⟩
    | ok request => exact .inl ⟨request, _, _, rfl, hc, rfl, rfl⟩

/-! ### What reaches the provider -/

/-- The request of a contact as it reaches the provider, if it does. -/
def arrived (w : World) (contact : Contact) : Option Request :=
  if contact.arrival = .unreachable then none else some (w.outgoing contact.request)

theorem arrived_congr {v : World} (h : v.agent = w.agent) : v.arrived = w.arrived := by
  funext contact
  simp only [arrived, outgoing, h]

theorem agent_send (prepared : AdminClient.Prepared) : (w.send prepared).2.agent = w.agent := by
  unfold send
  split
  · rfl
  split
  · rfl
  split <;> try rfl
  split <;> rfl

theorem agent_answer (q : Question) (w : World) : (answer q w).2.agent = w.agent := by
  cases q with
  | send prepared => exact agent_send prepared
  | _ => rfl

theorem sent_after (h : w.cancelled = false) :
    (w.after request).sent =
      w.sent ++ (w.arrived ⟨request, w.next.arrival⟩).toList := by
  unfold after send
  rw [h]
  cases w.next.arrival with
  | unreachable => exact (List.append_nil _).symm
  | reply response =>
    show (ite (response.body.events.contains .cancellation = true) _ _ : World).sent = _
    split <;> rfl
  | _ => rfl

theorem sent_answer (q : Question) (w : World) :
    (answer q w).2.sent = w.sent ++ (contact? (q, w)).toList.filterMap w.arrived := by
  match q with
  | .turn _ | .endTurn | .stored | .keep _ | .now => simp [answer, contact?]
  | .send prepared =>
    show (w.send prepared).2.sent = _
    cases hc : w.cancelled with
    | true => cases prepared <;> simp [send_of_cancelled, contact?, hc]
    | false =>
      cases prepared with
      | error cause => simp [send_of_error, contact?, hc]
      | ok request =>
        rw [send_of_live hc, sent_after hc]
        cases ha : w.arrived ⟨request, w.next.arrival⟩ <;> simp [contact?, hc, ha]

/-- **The requests that reach the provider** are those of the contacts, in order. -/
theorem sent_perform {α : Type} (d : Dialog Answer α) (w : World) :
    (w.perform d).2.sent = w.sent ++ (w.contacts d).filterMap w.arrived := by
  induction d generalizing w with
  | done a => simp
  | ask q next ih =>
    rw [perform_ask, ih, sent_answer, arrived_congr (agent_answer q w), contacts_ask,
      List.filterMap_append, List.append_assoc]

end World

end RealmKeeper.Provider
