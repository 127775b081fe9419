import CallGuard.Chain.Stage

/-!
# Contexts

A context holds what the proxies using it share: the managed instances by type, the guards of each
kind by name, and the scheduler. Two contexts share nothing.
-/

namespace CallGuard

structure Context where
  /-- What deferred calls wait on; a context may do without. -/
  scheduler : Option Scheduler
  placement : Placement
  instances : Registry String Instance
  retries : Registry String Retry
  breakers : Registry String Breaker
  limiters : Registry String Limiter
  bulkheads : Registry String Bulkhead

namespace Context

/-- A context that holds nothing yet. -/
def empty (scheduler : Option Scheduler) (placement : Placement) : Context :=
  ⟨scheduler, placement, .empty, .empty, .empty, .empty, .empty⟩

instance : Inhabited Context := ⟨empty none .inner⟩

def inspect (c : Context) : String :=
  openRecord "ProxyContext"
    [("instances", toString c.instances.size), ("fallback_placement", c.placement.inspect)]

end Context

end CallGuard
