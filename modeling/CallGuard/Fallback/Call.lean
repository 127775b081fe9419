import CallGuard.Service.Call

/-!
# Calls with fallbacks

When the guarded call has its outcome, the handlers of the stages are asked in order. The first that
accepts the outcome has its service called in place of it, with the same arguments and through the
same route; no stage is asked about what that service answers. When nobody accepts, the outcome
stays as it is.
-/

namespace CallGuard

namespace Substitute

/-- The service to call, made for the fault where a factory makes it. -/
def provide (s : Substitute) (e : Option Fault) : Act Nat :=
  match s with
  | .service number => pure number
  | .made make => do
    Act.write (.factoryAsked e)
    Service.enroll (make e)

end Substitute

namespace Handler

/-- Asks whether the outcome is to be replaced. -/
def ask (h : Handler) (m : Method) (o : Outcome) : Act Bool := do
  Act.write (.handlerAsked h.announced m.display o)
  return h.accepts m o

end Handler

namespace BoundFallback

/-- The service to call in place of the outcome. -/
def select (m : Method) (o : Outcome) : List BoundFallback → Act (Option Nat)
  | [] => pure none
  | stage :: rest => do
    if ← stage.handler.ask m o then return some (← stage.substitute.provide o.fault?)
    else select m o rest

def direct (r : Route) (reenter : Reentry → Act Reply) (stages : List BoundFallback)
    (call : Direct) : Direct := fun args => do
  match ← call args with
  | .crashed text => return .crashed text
  | .ended o =>
    match ← select r.method o stages with
    | some service => r.direct reenter service args
    | none => return .ended o

end BoundFallback

/-- How far a deferred call with fallbacks has come. -/
inductive Replacing (W : Type) where
  | trying (args : Args) (w : W)
  | replaced (e : Errand)

namespace BoundFallback

/-- Polls the call of a fallback's service. -/
def follow {W : Type} (e : Errand) : Act (Progress (Replacing W)) := do
  match ← e.poll with
  | .waiting e => return .waiting (.replaced e)
  | .done reply => return .done reply

def deferred {W : Type} (r : Route) (stages : List BoundFallback) (call : Deferred W) :
    Deferred (Replacing W) where
  start := fun args => do
    match ← call.start args with
    | .error text => return .error text
    | .ok w => return .ok (.trying args w)
  poll := fun state => do
    match state with
    | .trying args w =>
      match ← call.poll w with
      | .waiting w => return .waiting (.trying args w)
      | .done (.crashed text) => return .done (.crashed text)
      | .done (.ended o) =>
        match ← select r.method o stages with
        | none => return .done (.ended o)
        | some service =>
          match ← (r.deferred service).start args with
          | .error text => return .done (.crashed text)
          | .ok e => follow e
    | .replaced e => follow e
  drop := fun state =>
    match state with
    | .trying _ w => call.drop w
    | .replaced _ => pure ()
  timer
    | .trying _ w => call.timer w
    | .replaced _ => none

end BoundFallback

end CallGuard
