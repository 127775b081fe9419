import CallGuard.Call

/-!
# Calls through a circuit breaker

A call asks for permission when it is made, and its outcome is recorded when it has one. A call that
crashes or is dropped records nothing and hands a half-open permit back.
-/

namespace CallGuard

namespace Breaker

/-- The circuit as the world has it. -/
def circuit (b : Breaker) (w : World) : Circuit := (w.circuits[b.cell]?).getD .fresh

def emit (b : Breaker) (h : Happening) : Act Unit := Act.emit b.name b.config.listeners h

/-- Counts a transition, and reports whatever happened. -/
def report (b : Breaker) (h : Happening) : Act Unit := do
  if let .transitioned _ target := h then
    Act.raise "circuitbreaker_transitions_total" [("circuitbreaker", b.name), ("to", target.name)]
  b.emit h

/-- Puts the circuit back after an operation and reports what happened. -/
def update (b : Breaker) (c : Circuit) (happened : List Happening) : Act Unit := do
  modify fun w => { w with circuits := w.circuits.setIfInBounds b.cell c }
  happened.forM b.report

/-- Asks for permission; a half-open circuit grants it with a permit. -/
def acquire (b : Breaker) : Act (Except Fault (Option Nat)) := do
  let w ← get
  let (answer, c, happened) := (b.circuit w).acquire b.config w.now
  b.update c happened
  match answer with
  | .ok permit =>
    Act.write (.permissionAsked b.name true)
    return .ok permit
  | .error state =>
    Act.write (.permissionAsked b.name false)
    Act.raise "circuitbreaker_calls_rejected_total" [("circuitbreaker", b.name)]
    b.emit (.breakerRejected state)
    return .error (.callNotPermitted b.name state)

/-- Whether the outcome counts as a failure. -/
def fails (b : Breaker) : Outcome → Bool
  | .value _ => false
  | .fault e => b.config.countsAsFailure e

/-- Records a success or a failure. -/
def recordAs (b : Breaker) (failed : Bool) : Act Unit := do
  let w ← get
  let (c, happened) := (b.circuit w).record b.config w.now failed
  b.update c happened

/-- Records an outcome. -/
def record (b : Breaker) (o : Outcome) : Act Unit := b.recordAs (b.fails o)

/-- Hands back the permit of a call that has no outcome. -/
def abandon (b : Breaker) (permit : Option Nat) : Act Unit := do
  match permit with
  | some epoch => b.update ((b.circuit (← get)).release epoch) []
  | none => return

/-- Moves the circuit to a state by hand. -/
def force (b : Breaker) (target : CircuitState) : Act Unit := do
  let w ← get
  let (c, happened) := (b.circuit w).transition target w.now
  b.update c happened

/-- Settles a permission with the reply of its call. -/
def conclude (b : Breaker) (permit : Option Nat) : Reply → Act Unit
  | .ended o => b.record o
  | .crashed _ => b.abandon permit

def direct (b : Breaker) (call : Direct) : Direct := fun args => do
  match ← b.acquire with
  | .error e => return .refusal e
  | .ok permit =>
    let reply ← call args
    b.conclude permit reply
    return reply

end Breaker

/-- How far a deferred call through a breaker has come. -/
inductive Admitted (W : Type) where
  | refused (e : Fault)
  | running (permit : Option Nat) (w : W)

namespace Breaker

def deferred {W : Type} (b : Breaker) (call : Deferred W) : Deferred (Admitted W) where
  start := fun args => do
    match ← b.acquire with
    | .error e => return .ok (.refused e)
    | .ok permit =>
      match ← call.start args with
      | .error text =>
        b.abandon permit
        return .error text
      | .ok w => return .ok (.running permit w)
  poll := fun state => do
    match state with
    | .refused e => return .done (.refusal e)
    | .running permit w =>
      match ← call.poll w with
      | .waiting w => return .waiting (.running permit w)
      | .done reply =>
        b.conclude permit reply
        return .done reply
  drop := fun state => do
    match state with
    | .refused _ => return
    | .running permit w =>
      call.drop w
      b.abandon permit
  timer
    | .refused _ => none
    | .running _ w => call.timer w

end Breaker

end CallGuard
