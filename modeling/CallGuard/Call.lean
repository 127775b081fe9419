import CallGuard.World

/-!
# Calls

A direct call runs to its reply. A deferred call is started, which may do part of its work, and then
polled until its reply is there; it may be dropped before. Guards turn calls into guarded calls and
know nothing of what they guard.
-/

namespace CallGuard

abbrev Direct := Args → Act Reply

/-- How far a deferred call has come. -/
inductive Progress (W : Type) where
  | waiting (w : W)
  | done (r : Reply)

/-- A deferred call; `W` is what it remembers between polls. -/
structure Deferred (W : Type) where
  /-- Starts the call. If its code crashes, nothing is left of the call but the text. -/
  start : Args → Act (Except String W)
  poll : W → Act (Progress W)
  /-- Gives up a call that has not ended. -/
  drop : W → Act Unit
  /-- What a waiting call waits for, if that is a timer. -/
  timer : W → Option Timer := fun _ => none

namespace Deferred

variable {W : Type}

/-- Polls a call until its reply is there, letting it wait at most that often. The thread is blocked
and nothing else runs: time passes only where the call waits for a timer, and a call that waits for
anything else never ends. -/
def awaitWithin (call : Deferred W) : Nat → W → Act Reply
  | 0, _ => return .crashed "the call never ends"
  | n + 1, w => do
    match ← call.poll w with
    | .done reply => return reply
    | .waiting w =>
      match call.timer w with
      | none => return .crashed "the call never ends"
      | some timer =>
        Act.outwait timer
        call.awaitWithin n w

/-- More often than any call waits: in no chain does it do so more than three times for an attempt,
and attempts are counted in words. -/
def waitLimit : Nat := 1 <<< 66

/-- Starts a call and waits for it. -/
def await (call : Deferred W) (args : Args) : Act Reply := do
  match ← call.start args with
  | .error text => return .crashed text
  | .ok w => call.awaitWithin waitLimit w

end Deferred

namespace Reply

/-- The reply of a call that a guard refuses. -/
def refusal (e : Fault) : Reply := .ended (.fault e)

end Reply

end CallGuard
