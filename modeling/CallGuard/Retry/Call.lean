import CallGuard.Call

/-!
# Retried calls

A call is attempted until its outcome is accepted or no attempt is left. A direct call sleeps
between attempts; a deferred one starts its first attempt at the first poll and waits on its
scheduler, or not at all without one.
-/

namespace CallGuard

namespace Retry

def emit (r : Retry) (h : Happening) : Act Unit := Act.emit r.name r.config.listeners h

/-- Announces another attempt and says how long to wait for it. -/
def again (r : Retry) (attempts : Nat) : Act Nanos := do
  let wait := r.config.interval.wait attempts
  Act.raise "retry_attempts_total" [("retry", r.name)]
  r.emit (.retried attempts wait)
  return wait

/-- Ends with an outcome that is not retried. -/
def accept (r : Retry) (attempts : Nat) (o : Outcome) : Act Outcome := do
  match o with
  | .value _ =>
    Act.raise "retry_calls_total" [("retry", r.name), ("outcome", "success")]
    r.emit (.succeeded attempts)
  | .fault _ => r.emit .ignoredFault
  return o

/-- Ends with an outcome that would be retried if there were an attempt left. -/
def exhaust (r : Retry) (attempts : Nat) (o : Outcome) : Act Outcome := do
  match o with
  | .value _ =>
    r.emit (.exhausted attempts)
    return if r.config.failsWhenExhausted then .fault (.maxRetriesExceeded r.name attempts) else o
  | .fault _ =>
    Act.raise "retry_calls_total" [("retry", r.name), ("outcome", "failed")]
    r.emit (.exhausted attempts)
    return o

/-- Attempts the call with so many attempts left after this one. -/
def attempt (r : Retry) (call : Direct) (args : Args) (left : Nat) : Act Reply := do
  match ← call args with
  | .crashed text => return .crashed text
  | .ended o =>
    let attempts := r.config.maxAttempts - left
    if r.config.retries o then
      match left with
      | 0 => return .ended (← r.exhaust attempts o)
      | left + 1 =>
        Act.sleep (← r.again attempts)
        r.attempt call args left
    else return .ended (← r.accept attempts o)

def direct (r : Retry) (call : Direct) : Direct := fun args =>
  r.attempt call args (r.config.maxAttempts - 1)

end Retry

/-- How far a deferred retried call has come. -/
inductive Retrying (W : Type) where
  | fresh (args : Args)
  /-- An attempt is under way, with so many attempts left after it. -/
  | attempting (args : Args) (left : Nat) (w : W)
  /-- The next attempt waits, with so many attempts left after it. -/
  | resting (args : Args) (left : Nat) (timer : Timer)

namespace Retry

/-- The wait before the next attempt; without a scheduler there is none. -/
def rest (scheduler : Option Scheduler) (wait : Nanos) : Act Timer :=
  match scheduler with
  | some s => Act.delay s wait
  | none => pure .passed

variable {W : Type}

/-- Polls the attempt under way, and starts and polls further ones as far as that goes. -/
def pursue (r : Retry) (scheduler : Option Scheduler) (call : Deferred W) (args : Args) (left : Nat)
    (w : W) : Act (Progress (Retrying W)) := do
  match ← call.poll w with
  | .waiting w => return .waiting (.attempting args left w)
  | .done (.crashed text) => return .done (.crashed text)
  | .done (.ended o) =>
    let attempts := r.config.maxAttempts - left
    if r.config.retries o then
      match left with
      | 0 => return .done (.ended (← r.exhaust attempts o))
      | left + 1 =>
        let timer ← rest scheduler (← r.again attempts)
        if ← Act.isOver timer then
          match ← call.start args with
          | .error text => return .done (.crashed text)
          | .ok w => r.pursue scheduler call args left w
        else return .waiting (.resting args left timer)
    else return .done (.ended (← r.accept attempts o))

/-- Starts an attempt and polls it. -/
def launch (r : Retry) (scheduler : Option Scheduler) (call : Deferred W) (args : Args)
    (left : Nat) : Act (Progress (Retrying W)) := do
  match ← call.start args with
  | .error text => return .done (.crashed text)
  | .ok w => r.pursue scheduler call args left w

def deferred (r : Retry) (scheduler : Option Scheduler) (call : Deferred W) :
    Deferred (Retrying W) where
  start := fun args => return .ok (.fresh args)
  poll := fun state => do
    match state with
    | .fresh args => r.launch scheduler call args (r.config.maxAttempts - 1)
    | .attempting args left w => r.pursue scheduler call args left w
    | .resting args left timer =>
      if ← Act.isOver timer then r.launch scheduler call args left
      else return .waiting (.resting args left timer)
  drop := fun state =>
    match state with
    | .attempting _ _ w => call.drop w
    | .fresh _ | .resting .. => pure ()
  timer
    | .fresh _ => none
    | .attempting _ _ w => call.timer w
    | .resting _ _ timer => some timer

end Retry

end CallGuard
