import CallGuard.Guard
import CallGuard.Session

/-!
# Sessions with a single guard

One guard around one scripted service. The calls that the service makes itself go through the guard
again.
-/

namespace CallGuard

/-- The only operation of the service: it echoes the count. -/
def soloOperation : Operation := ⟨"call", false, true, .count, .int⟩

/-- The only method of the service. -/
def soloRoute (m : Method) : Route := ⟨m, ⟨[.int], .int⟩, soloOperation, false⟩

namespace Guard

/-- The chain of the guard alone. -/
def chain (g : Guard) (scheduler : Option Scheduler) : Chain where
  route := soloRoute ⟨"", ⟨"call", ["i64"]⟩, .direct, []⟩
  service := 0
  layers := [g.layer scheduler]

/-- Calls the service through the guard. -/
def call (g : Guard) (scheduler : Option Scheduler) (n : Int) : Act Reply :=
  Chain.callWithin (fun _ => return .ok (g.chain none)) Proxy.nestingLimit (g.chain scheduler) ⟨"", n⟩

/-- Starts a deferred call of the service through the guard. -/
def start (g : Guard) (scheduler : Option Scheduler) (n : Int) : Act (Except String Ongoing) :=
  (g.chain scheduler).launch ⟨"", n⟩

end Guard

end CallGuard
