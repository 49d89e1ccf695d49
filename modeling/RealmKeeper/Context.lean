import RealmKeeper.Text.Blank

/-!
# Contexts and cancellation

A context says for which client something is done, and in which domain it can be cancelled.

* `Domain`: where cancellation takes effect; cancelling a domain cancels those below it;
* `Context`: an identity in a domain;
* `Context.run`: a computation that goes on until its context is cancelled.
-/

namespace RealmKeeper

/-- **A cancellation domain**, named by the way to it: the number of its root, then at each step
the number of a child. -/
structure Domain where
  path : List Nat
deriving DecidableEq, Repr, Inhabited

/-- The child of a domain with the given number. -/
def Domain.child (d : Domain) (number : Nat) : Domain := ⟨d.path ++ [number]⟩

/-- The domain is the other one or lies below it. -/
def Domain.isWithin (d outer : Domain) : Bool :=
  outer.path.isPrefixOf d.path

/-- Which domains have been cancelled. -/
structure Cancellations where
  domains : List Domain
deriving Repr, Inhabited

namespace Cancellations

/-- The domain, or one above it, has been cancelled. -/
def covers (c : Cancellations) (d : Domain) : Bool :=
  c.domains.any fun cancelled => d.isWithin cancelled

/-- Cancels a domain. -/
def add (c : Cancellations) (d : Domain) : Cancellations := ⟨d :: c.domains⟩

end Cancellations

/-- **A context**: for whom something is done, and in which domain it can be cancelled. -/
structure Context where
  identity : Option String
  domain : Domain
deriving DecidableEq, Repr, Inhabited

namespace Context

/-- The context of a domain, for nobody in particular. -/
def ofDomain (domain : Domain) : Context := ⟨none, domain⟩

/-- The same context for a client. -/
def forClient (c : Context) (clientId : String) : Context := { c with identity := some clientId }

/-- The same context for nobody in particular. -/
def anonymous (c : Context) : Context := { c with identity := none }

/-- **The client of the context**; a blank identity is none. -/
def clientId? (c : Context) : Option String :=
  c.identity.filter fun id => !Text.isAllBlank id.toList

/-! ### Computations under a context -/

/-- What a computation does when it is looked at: it may cancel domains, and then it has a result
or waits. -/
structure Poll (α : Type) where
  cancels : List Domain
  result : Option α

/-- How a computation under a context ends. -/
inductive Outcome (α : Type) where
  | finished (result : α)
  | cancelled
  | waiting
deriving DecidableEq, Repr

/-- **Runs a computation until its context is cancelled.** Each time the cancellation is looked at
first, so that a computation which cancels its context and finishes at once still has its
result. -/
def run {α : Type} (c : Context) : List (Poll α) → Cancellations → Outcome α × Cancellations
  | [], cancellations =>
    (if cancellations.covers c.domain then .cancelled else .waiting, cancellations)
  | poll :: rest, cancellations =>
    if cancellations.covers c.domain then (.cancelled, cancellations)
    else
      let cancellations := poll.cancels.foldl .add cancellations
      match poll.result with
      | some a => (.finished a, cancellations)
      | none => run c rest cancellations

end Context

end RealmKeeper
