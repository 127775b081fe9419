import CallGuard.Call

/-!
# Rate-limited calls

A call reserves a permission when it is made. A direct call sleeps until its permission is valid and
goes on then. A deferred one starts what it guards at once and is polled when the permission is
valid; without a scheduler it takes only permissions that are valid at once.
-/

namespace CallGuard

namespace Limiter

/-- The balance as the world has it. -/
def balance (l : Limiter) (w : World) : Balance :=
  (w.balances[l.cell]?).getD (.ofLimit l.config.limit l.config.period 0)

def emit (l : Limiter) (h : Happening) : Act Unit := Act.emit l.name l.config.listeners h

/-- Asks for a permission and reports the answer. -/
def reserve (l : Limiter) (timeout : Nanos) : Act (Except Fault Nanos) := do
  let w ← get
  let (answer, balance) := (l.balance w).reserve w.now timeout
  modify fun w => { w with balances := w.balances.setIfInBounds l.cell balance }
  match answer with
  | .granted wait =>
    l.emit (.permitAcquired wait)
    return .ok wait
  | .refused _ =>
    Act.raise "ratelimiter_calls_rejected_total" [("ratelimiter", l.name)]
    l.emit (.permitRejected timeout)
    return .error (.requestNotPermitted l.name)

def direct (l : Limiter) (call : Direct) : Direct := fun args => do
  match ← l.reserve l.config.timeout with
  | .error e => return .refusal e
  | .ok wait =>
    Act.sleep wait
    call args

/-- The longest wait that a deferred call accepts. -/
def patience (l : Limiter) : Option Scheduler → Nanos
  | some _ => l.config.timeout
  | none => 0

end Limiter

/-- How far a deferred rate-limited call has come. -/
inductive Limited (W : Type) where
  | refused (e : Fault)
  | waiting (timer : Timer) (w : W)
  | running (w : W)

namespace Limiter

variable {W : Type}

/-- Polls the guarded call. -/
def follow (call : Deferred W) (w : W) : Act (Progress (Limited W)) := do
  match ← call.poll w with
  | .waiting w => return .waiting (.running w)
  | .done reply => return .done reply

def deferred (l : Limiter) (scheduler : Option Scheduler) (call : Deferred W) :
    Deferred (Limited W) where
  start := fun args => do
    match ← l.reserve (l.patience scheduler) with
    | .error e => return .ok (.refused e)
    | .ok wait =>
      match ← call.start args with
      | .error text => return .error text
      | .ok w =>
        match scheduler, wait with
        | some s, wait + 1 => return .ok (.waiting (← Act.delay s (wait + 1)) w)
        | _, _ => return .ok (.running w)
  poll := fun state => do
    match state with
    | .refused e => return .done (.refusal e)
    | .waiting timer w =>
      if ← Act.isOver timer then follow call w else return .waiting (.waiting timer w)
    | .running w => follow call w
  drop := fun state =>
    match state with
    | .refused _ => pure ()
    | .waiting _ w | .running w => call.drop w
  timer
    | .refused _ => none
    | .waiting timer _ => some timer
    | .running w => call.timer w

end Limiter

end CallGuard
