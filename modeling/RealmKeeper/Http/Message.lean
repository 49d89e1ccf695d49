import RealmKeeper.Http.Header
import RealmKeeper.Url.Basic

/-!
# Requests and responses

* `Request`, and `Request.replayable`, which says whether it can be sent twice;
* `Response`, whose body is a `Delivery`: what arrives of it, piece by piece;
* the ways to read a body: `Delivery.excerpt` reads a bounded part and never fails,
  `Delivery.whole?` reads all of it, `Delivery.guarded` reads all of it unless it is cancelled.
-/

namespace RealmKeeper.Http

open RealmKeeper.Text

/-- The body of a request. -/
inductive RequestBody where
  | none
  | octets (bs : List UInt8)
  /-- A body that is produced while it is sent, and only once. -/
  | stream (bs : List UInt8)
deriving DecidableEq

/-- **A request.** -/
structure Request where
  method : String
  url : Url
  fields : List (String × HeaderValue)
  body : RequestBody
deriving DecidableEq

/-- The request can be sent again. -/
def Request.replayable (r : Request) : Bool :=
  match r.body with
  | .stream _ => false
  | _ => true

/-- The request with a field set. -/
def Request.withField (r : Request) (name : String) (value : HeaderValue) : Request :=
  { r with fields := setField name value r.fields }

/-! ### Bodies that arrive -/

/-- Something that happens while a body arrives. -/
inductive Event where
  | chunk (bs : List UInt8)
  /-- The context of the request is cancelled. -/
  | cancellation
deriving DecidableEq, Repr

/-- **What arrives of a body**, and whether its end does. -/
structure Delivery where
  events : List Event
  complete : Bool
deriving DecidableEq, Repr

namespace Delivery

/-- All octets that arrive. -/
def octets (d : Delivery) : List UInt8 :=
  d.events.flatMap fun
    | .chunk bs => bs
    | .cancellation => []

/-- How many octets of a body are kept for diagnostics. -/
def excerptLimit : Nat := 4096

/-- Octets that are gathered, with a chunk behind them: as much of it as there is room for. -/
def extend (limit : Nat) (gathered chunk : List UInt8) : List UInt8 :=
  gathered ++ chunk.take (min chunk.length (limit - gathered.length))

/-- Gathers octets, chunk by chunk, as long as there are fewer of them than the limit says. -/
def gather (limit : Nat) : List UInt8 → List Event → List UInt8
  | gathered, [] => gathered
  | gathered, event :: rest =>
    if gathered.length < limit then
      match event with
      | .cancellation => gather limit gathered rest
      | .chunk bs => gather limit (extend limit gathered bs) rest
    else gathered

/-- **The text that is kept of a body for diagnostics**: what arrives, up to the limit. -/
def excerpt (d : Delivery) : String :=
  Utf8.stringLossy (gather excerptLimit [] d.events)

/-- The events that reading to the limit takes notice of. -/
def noticed : Nat → List Event → List Event
  | 0, _ => []
  | _, [] => []
  | room, .cancellation :: rest => .cancellation :: noticed room rest
  | room, .chunk bs :: rest => .chunk bs :: noticed (room - bs.length) rest

/-- The text for diagnostics, unless the context is cancelled while it is read. -/
def guardedExcerpt (d : Delivery) : Option String :=
  if (noticed excerptLimit d.events).contains .cancellation then none else some d.excerpt

/-- **The whole body**, if it arrives. -/
def whole? (d : Delivery) : Option (List UInt8) :=
  if d.complete then some d.octets else none

/-- How reading under a context ends. -/
inductive Guarded where
  | read (bs : List UInt8)
  | broken
  | cancelled

/-- **The whole body**, unless the context is cancelled before. -/
def guarded (d : Delivery) : Guarded :=
  if d.events.contains .cancellation then .cancelled
  else if d.complete then .read d.octets else .broken

end Delivery

/-- **A response.** -/
structure Response where
  status : Nat
  body : Delivery
deriving DecidableEq, Repr

/-- The status says that the request succeeded. -/
def Response.isSuccess (r : Response) : Bool :=
  200 ≤ r.status && r.status < 300

end RealmKeeper.Http
