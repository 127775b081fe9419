import CallGuard.Breaker.Call
import CallGuard.Bulkhead.Call
import CallGuard.Exceptions.Call
import CallGuard.Fallback.Call
import CallGuard.Limiter.Call
import CallGuard.Retry.Call

/-!
# Calls through a chain

Each layer of a chain guards what the layers inside it make of the call of the service. What a
deferred call remembers is built up in the same way, one layer around the other.
-/

namespace CallGuard

namespace Layer

/-- The call guarded by the layer. -/
def direct (r : Route) (reenter : Reentry → Act Reply) (l : Layer) (call : Direct) : Direct :=
  match l with
  | .exceptions mappers => Mapper.direct mappers call
  | .retry retry _ => retry.direct call
  | .limiter limiter _ => limiter.direct call
  | .breaker breaker => breaker.direct call
  | .fallback stages => BoundFallback.direct r reenter stages call
  | .bulkhead bulkhead scheduler => bulkhead.direct scheduler call

/-- What a deferred call guarded by the layer remembers. -/
abbrev Memory (l : Layer) (W : Type) : Type :=
  match l with
  | .exceptions _ => W
  | .retry .. => Retrying W
  | .limiter .. => Limited W
  | .breaker _ => Admitted W
  | .fallback _ => Replacing W
  | .bulkhead .. => Housed W

/-- The deferred call guarded by the layer. -/
def deferred {W : Type} (r : Route) (l : Layer) (call : Deferred W) : Deferred (l.Memory W) :=
  match l with
  | .exceptions mappers => Mapper.deferred mappers call
  | .retry retry scheduler => retry.deferred scheduler call
  | .limiter limiter scheduler => limiter.deferred scheduler call
  | .breaker breaker => breaker.deferred call
  | .fallback stages => BoundFallback.deferred r stages call
  | .bulkhead bulkhead scheduler => bulkhead.deferred scheduler call

end Layer

namespace Chain

/-- The call of a service through the layers. -/
def directThrough (r : Route) (reenter : Reentry → Act Reply) (service : Nat) :
    List Layer → Direct
  | [] => r.direct reenter service
  | l :: inner => l.direct r reenter (directThrough r reenter service inner)

/-- What a deferred call through the layers remembers. -/
def Memory : List Layer → Type
  | [] => Errand
  | l :: inner => l.Memory (Memory inner)

/-- The deferred call of a service through the layers. -/
def deferredThrough (r : Route) (service : Nat) : (layers : List Layer) → Deferred (Memory layers)
  | [] => r.deferred service
  | l :: inner => l.deferred r (deferredThrough r service inner)

def direct (c : Chain) (reenter : Reentry → Act Reply) : Direct :=
  directThrough c.route reenter c.service c.layers

def deferred (c : Chain) : Deferred (Memory c.layers) :=
  deferredThrough c.route c.service c.layers

/-- The call through the chain when the code of services may call back, to a depth of that many
calls inside one another; `enter` leads to the chain that is called. -/
def callWithin (enter : Reentry → Act (Except Reply Chain)) : Nat → Chain → Direct
  | 0, c => c.direct fun _ => pure (.crashed "calls are nested too deeply")
  | depth + 1, c => c.direct fun reentry => do
    match ← enter reentry with
    | .error reply => return reply
    | .ok inner => callWithin enter depth inner reentry.args

end Chain

end CallGuard
