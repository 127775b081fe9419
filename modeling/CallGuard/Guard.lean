import CallGuard.Chain.Call

/-!
# Named guards

What the four kinds of named guards have in common: each can stand in a chain, shows something of
its state, and some can be operated by hand.
-/

namespace CallGuard

inductive Guard where
  | retry (r : Retry)
  | breaker (b : Breaker)
  | limiter (l : Limiter)
  | bulkhead (b : Bulkhead)

/-- What a guard shows of its state: the state of its circuit, or how many permissions or slots are
left. -/
inductive Showing where
  | nothing
  | state (s : CircuitState)
  | available (n : Int)
  deriving DecidableEq, Repr

/-- A guard and what it shows. -/
structure Description where
  guard : Guard
  showing : Showing

/-- Something done to a guard by hand. -/
inductive Manual where
  | acquire
  | succeed
  | fail (e : Fault)
  | forceOpen
  | reset
  | reserve (timeout : Nanos)
  | describe
  | inspect

/-- What comes of something done by hand. -/
inductive Answer where
  | nothing
  | granted (wait : Option Nanos)
  | refused (e : Fault)
  | description (d : Description)
  | text (s : String)

namespace Guard

/-- The guard as a layer that waits on the scheduler. -/
def layer (scheduler : Option Scheduler) : Guard → Layer
  | retry r => .retry r scheduler
  | breaker b => .breaker b
  | limiter l => .limiter l scheduler
  | bulkhead b => .bulkhead b scheduler

def showing (w : World) : Guard → Showing
  | retry _ => .nothing
  | breaker b => .state (b.circuit w).state
  | limiter l => .available (l.balance w).permissions
  | bulkhead b => .available (b.slots w).free

def describe (w : World) (g : Guard) : Description := ⟨g, g.showing w⟩

def inspect (w : World) : Guard → String
  | retry r => r.inspect
  | breaker b => b.inspect (b.circuit w).state
  | limiter l => l.inspect (l.balance w).permissions
  | bulkhead b => b.inspect (b.slots w).free

/-- Does something to the guard. What a guard does not offer does nothing. -/
def operate (g : Guard) (m : Manual) : Act Answer := do
  match m, g with
  | .acquire, breaker b =>
    match ← b.acquire with
    | .ok _ => return .granted none
    | .error e => return .refused e
  | .succeed, breaker b =>
    b.recordAs false
    return .nothing
  | .fail e, breaker b =>
    b.record (.fault e)
    return .nothing
  | .forceOpen, breaker b =>
    b.force .opened
    return .nothing
  | .reset, breaker b =>
    b.force .closed
    return .nothing
  | .reserve timeout, limiter l =>
    match ← l.reserve timeout with
    | .ok wait => return .granted (some wait)
    | .error e => return .refused e
  | .describe, g => return .description (g.describe (← get))
  | .inspect, g => return .text (g.inspect (← get))
  | _, _ => return .nothing

end Guard

namespace ResolvedStage

/-- How a stage is shown: as a guard, or else as a text. -/
def describe (w : World) : ResolvedStage → Description ⊕ String
  | .exceptions mappers =>
    .inr (record "ExceptionsDecorator" [("mappers", toString mappers.length)])
  | .fallback stages => .inr (listed (stages.map fun s => quoted s.type))
  | .retry r _ => .inl (Guard.describe w (.retry r))
  | .limiter l _ => .inl (Guard.describe w (.limiter l))
  | .breaker b => .inl (Guard.describe w (.breaker b))
  | .bulkhead b _ => .inl (Guard.describe w (.bulkhead b))

end ResolvedStage

end CallGuard
