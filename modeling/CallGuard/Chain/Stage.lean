import CallGuard.Policy
import CallGuard.Scheduler
import CallGuard.Service.Route

/-!
# Stages and chains

A chain leads from a method to the service that it is called on, through a list of layers of which
the outermost comes first. A layer is a stage whose parts are all known. While a chain is being
resolved the services of its fallbacks are still of any interface; they are bound to the method's
interface afterwards.
-/

namespace CallGuard

/-- One stage of a chain; `F` is what is known of a fallback's stages. -/
inductive Stage (F : Type) where
  | exceptions (mappers : List Mapper)
  | retry (r : Retry) (scheduler : Option Scheduler)
  | limiter (l : Limiter) (scheduler : Option Scheduler)
  | breaker (b : Breaker)
  | fallback (stages : List F)
  | bulkhead (b : Bulkhead) (scheduler : Option Scheduler)

namespace Stage

def capability {F : Type} : Stage F → Capability
  | exceptions _ => .exceptions
  | retry .. => .retry
  | limiter .. => .limiter
  | breaker _ => .breaker
  | fallback _ => .fallback
  | bulkhead .. => .bulkhead

end Stage

/-- What a fallback stage falls back to: an instance, or a factory. -/
inductive Alternative where
  | instance (i : Instance)
  | factory (f : Factory)

/-- A fallback stage with its source looked up. -/
structure ResolvedFallback where
  type : String
  alternative : Alternative
  handler : Handler

/-- Where a bound fallback stage takes its service from. -/
inductive Substitute where
  | service (number : Nat)
  | made (make : Option Fault → Service)

/-- A fallback stage whose services implement the interface of the method. -/
structure BoundFallback where
  substitute : Substitute
  handler : Handler

namespace ResolvedFallback

/-- The service behind the stage, if it implements the interface. -/
def substitute? (interface : String) (s : ResolvedFallback) : Option Substitute :=
  match s.alternative with
  | .instance (.service i number) => if i = interface then some (.service number) else none
  | .instance _ => none
  | .factory f => if f.interface = interface then some (.made f.make) else none

/-- The stage bound to a method, or the mistake of using it there. -/
def bind (m : Method) (s : ResolvedFallback) : Except Fault BoundFallback :=
  match s.substitute? m.interface with
  | some substitute => .ok ⟨substitute, s.handler⟩
  | none => .error (.fallbackMismatch s.type m.display)

end ResolvedFallback

abbrev ResolvedStage := Stage ResolvedFallback

abbrev Layer := Stage BoundFallback

namespace ResolvedStage

/-- The stage bound to a method. Only fallbacks can fail to fit. -/
def bind (m : Method) : ResolvedStage → Except Fault Layer
  | .exceptions mappers => .ok (.exceptions mappers)
  | .retry r s => .ok (.retry r s)
  | .limiter l s => .ok (.limiter l s)
  | .breaker b => .ok (.breaker b)
  | .fallback stages => do return .fallback (← stages.mapM (·.bind m))
  | .bulkhead b s => .ok (.bulkhead b s)

/-- The stages bound to a method, of which the innermost is bound first. -/
def bindAll (m : Method) : List ResolvedStage → Except Fault (List Layer)
  | [] => .ok []
  | s :: rest => do
    let inner ← bindAll m rest
    let layer ← s.bind m
    return layer :: inner

end ResolvedStage

structure Chain where
  route : Route
  /-- The service at the end of the chain. -/
  service : Nat
  layers : List Layer

end CallGuard
