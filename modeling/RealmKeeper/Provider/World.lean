import RealmKeeper.Admin.Operations

/-!
# The provider and what surrounds the client

* `Arrival`: what becomes of a request that is sent;
* `World`: the provider's next answers, the clock, the kept token, whether the context is cancelled,
  and the requests that were sent;
* `World.answer`: the answers to the questions of administrative operations.

One thing happens after the other: an operation is run to its end before the next one begins.
-/

namespace RealmKeeper.Provider

open RealmKeeper.Http RealmKeeper.Admin

/-- **What becomes of a request** that is sent. -/
inductive Arrival where
  /-- The provider answers. -/
  | reply (response : Response)
  /-- The provider closes the connection without an answer. -/
  | dropped
  /-- The context is cancelled while the answer is awaited. -/
  | cancelling
  /-- There is no connection to the provider; it does not see the request. -/
  | unreachable
deriving DecidableEq, Repr

/-- What becomes of a request, and how long it takes in nanoseconds. -/
structure Exchange where
  arrival : Arrival
  elapsed : Nat
deriving DecidableEq, Repr

/-- **What surrounds the client.** -/
structure World where
  cancelled : Bool
  clock : Instant
  token : Option StoredToken
  /-- How the client names itself. -/
  agent : Option HeaderValue
  /-- What becomes of the next requests. -/
  script : List Exchange
  /-- What becomes of the requests after those. -/
  fallback : Exchange
  /-- The requests that reached the provider, in order. -/
  sent : List Request

namespace World

/-- The world in which nothing has happened yet. -/
def start (agent : Option HeaderValue) (script : List Exchange) (fallback : Exchange) : World :=
  ⟨false, .epoch, none, agent, script, fallback, []⟩

/-- The context is cancelled. -/
def cancel (w : World) : World := { w with cancelled := true }

/-- Time goes on. -/
def wait (w : World) (nanoseconds : Nat) : World :=
  { w with clock := w.clock.advance nanoseconds }

/-- The exchange that comes next. -/
def next (w : World) : Exchange :=
  w.script.headD w.fallback

/-- The request as it is sent: the client names itself unless the request does. -/
def outgoing (w : World) (request : Request) : Request :=
  match w.agent with
  | none => request
  | some agent =>
    if request.fields.any (·.1 = "user-agent") then request
    else { request with fields := request.fields ++ [("user-agent", agent)] }

/-- The world after the next exchange, without what the arrival does. -/
def exchanged (w : World) : World :=
  { w with script := w.script.tail, clock := w.clock.advance w.next.elapsed }

/-- The request is recorded. -/
def record (w : World) (request : Request) : World :=
  { w with sent := w.sent ++ [w.outgoing request] }

/-- **Sends a request.** A cancelled context comes first, then what is wrong with the request. What
happens while the body of an answer arrives has happened when the next thing is done. -/
def send (request : AdminClient.Prepared) (w : World) : Reply × World :=
  if w.cancelled then (.cancelled, w)
  else
    match request with
    | .error cause => (.failed cause, w)
    | .ok request =>
      match w.next.arrival with
      | .unreachable => (.failed (.sending request.url), w.exchanged)
      | .dropped => (.failed (.sending request.url), (w.record request).exchanged)
      | .cancelling => (.cancelled, (w.record request).exchanged.cancel)
      | .reply response =>
        let after := (w.record request).exchanged
        (.answered response,
          if response.body.events.contains .cancellation then after.cancel else after)

/-- **The answers of the world.** -/
def answer : (q : Question) → StateM World (Answer q)
  | .turn watch => fun w => (!(watch = .everywhere && w.cancelled), w)
  | .endTurn => fun w => ((), w)
  | .stored => fun w => (w.token, w)
  | .keep token => fun w => ((), { w with token := some token })
  | .now => fun w => (w.clock, w)
  | .send request => fun w => w.send request

/-- Runs an operation. -/
def perform {α : Type} (d : Dialog Answer α) (w : World) : α × World :=
  d.run answer w

end World

end RealmKeeper.Provider
