import CallGuard.Proxy.Call

/-!
# Adjusted calls

The call of a service can be adjusted step by step: each step adds to the count that is passed
inwards and doubles the number that comes back. Numbers are kept in 64 bits.
-/

namespace CallGuard

namespace Args

/-- The arguments with an addition to the count. -/
def shift (args : Args) (k : Int) : Args := { args with count := wrap64 (args.count + k) }

end Args

namespace Reply

/-- The reply with its number doubled. -/
def doubled : Reply → Reply
  | ended (.value (.int n)) => .ended (.value (.int (wrap64 (2 * n))))
  | reply => reply

end Reply

namespace Invocation

/-- The call with one more step around it. -/
def adjustDirect (call : Direct) (k : Int) : Direct := fun args =>
  return (← call (args.shift k)).doubled

/-- The deferred call with one more step around it. -/
def adjustDeferred {W : Type} (call : Deferred W) (k : Int) : Deferred W where
  start := fun args => call.start (args.shift k)
  poll := fun w => do
    match ← call.poll w with
    | .waiting w => return .waiting w
    | .done reply => return .done reply.doubled
  drop := call.drop
  timer := call.timer

/-- Calls the service in the shape of the method, with the steps around it of which the first one is
innermost, and waits for the reply. -/
def call (r : Route) (service : Nat) (steps : List Int) (args : Args) : Act Reply :=
  match r.method.shape with
  | .direct =>
    let bare := r.direct (fun _ => return .crashed "nothing to call back into") service
    steps.foldl adjustDirect bare args
  | .deferred => (steps.foldl adjustDeferred (r.deferred service)).await args

def inspect (m : Method) : String :=
  record "Invocation" [("method", m.display), ("shape", m.shape.inspect)]

end Invocation

end CallGuard
