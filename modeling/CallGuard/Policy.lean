import CallGuard.Context.Instance
import CallGuard.Fallback.Handler
import CallGuard.Registry

/-!
# Policies

A policy says for one capability how calls are to be guarded. A table declares policies for all
methods of an interface and for single methods; for one capability the method's policy takes the
place of the interface's. Main statements: `find?_declare_interface` and `find?_declare_method` say
what one more declaration changes.
-/

namespace CallGuard

inductive Capability where
  | exceptions
  | retry
  | limiter
  | breaker
  | fallback
  | bulkhead
  deriving DecidableEq, Repr

namespace Capability

/-- All capabilities, outermost first as they stand by default. -/
def all : List Capability := [exceptions, retry, limiter, breaker, fallback, bulkhead]

def name : Capability → String
  | exceptions => "exceptions"
  | retry => "retry"
  | limiter => "rate limiter"
  | breaker => "circuit breaker"
  | fallback => "fallback"
  | bulkhead => "bulkhead"

def inspect : Capability → String
  | exceptions => "Exceptions"
  | retry => "Retry"
  | limiter => "RateLimiter"
  | breaker => "CircuitBreaker"
  | fallback => "Fallback"
  | bulkhead => "Bulkhead"

end Capability

/-- Where the fallback stands: right around the bulkhead, or right inside the exception mapping. -/
inductive Placement where
  | inner
  | outer
  deriving DecidableEq, Repr

namespace Placement

def inspect : Placement → String
  | inner => "Inner"
  | outer => "Outer"

/-- The capabilities in the order in which a call meets them. -/
def order : Placement → List Capability
  | inner => Capability.all
  | outer => [.exceptions, .fallback, .retry, .limiter, .breaker, .bulkhead]

end Placement

/-- The use of a named guard. A provider's configuration comes before the policy's own. -/
structure GuardPolicy (C : Type) where
  name : String
  config : Option C
  provider : Option InstanceRef

namespace GuardPolicy

def inspect {C : Type} (p : GuardPolicy C) : String :=
  let provider := match p.provider with
    | some r => "Some(" ++ quoted r.type ++ ")"
    | none => "None"
  record "PrimitivePolicy"
    [("name", quoted p.name), ("inline", toString p.config.isSome), ("provider", provider)]

end GuardPolicy

/-- Makes a service for the fault that called for it, or for a value. -/
structure Factory where
  interface : String
  make : Option Fault → Service

/-- Where a fallback stage takes its service from. -/
inductive FallbackSource where
  | managed (ref : InstanceRef)
  | given (type interface : String) (service : Nat)
  | made (type : String) (factory : Factory)

namespace FallbackSource

def type : FallbackSource → String
  | managed ref => ref.type
  | given type _ _ => type
  | made type _ => type

end FallbackSource

structure FallbackStage where
  source : FallbackSource
  handler : Handler

/-- Where a mapper is taken from. -/
inductive MapperSource where
  | managed (ref : InstanceRef)
  | given (type : String) (m : Mapper)

namespace MapperSource

def type : MapperSource → String
  | managed ref => ref.type
  | given type _ => type

end MapperSource

inductive Policy where
  | exceptions (mappers : List MapperSource)
  | retry (p : GuardPolicy RetryConfig)
  | limiter (p : GuardPolicy LimiterConfig)
  | breaker (p : GuardPolicy BreakerConfig)
  | fallback (stages : List FallbackStage)
  | bulkhead (p : GuardPolicy BulkheadConfig)

namespace Policy

def capability : Policy → Capability
  | exceptions _ => .exceptions
  | retry _ => .retry
  | limiter _ => .limiter
  | breaker _ => .breaker
  | fallback _ => .fallback
  | bulkhead _ => .bulkhead

def inspect : Policy → String
  | exceptions mappers => listed (mappers.map fun m => quoted m.type)
  | retry p => p.inspect
  | limiter p => p.inspect
  | breaker p => p.inspect
  | fallback stages =>
    record "FallbackPolicy"
      [("stages", listed (stages.map fun s => openRecord "FallbackStage" [("source", s.source.type)]))]
  | bulkhead p => p.inspect

end Policy

/-- One line of a table. -/
inductive Declaration where
  | interface (p : Policy)
  | method (name : String) (p : Policy)

structure PolicyTable where
  interface : Registry Capability Policy
  methods : Registry String (Registry Capability Policy)

namespace PolicyTable

def empty : PolicyTable := ⟨.empty, .empty⟩

/-- The policies declared for the method alone. -/
def ofMethod (t : PolicyTable) (name : String) : Registry Capability Policy :=
  (t.methods.find? name).getD .empty

/-- The table with one more line, which takes the place of an earlier one of its capability. -/
def declare (t : PolicyTable) : Declaration → PolicyTable
  | .interface p => { t with interface := t.interface.insert p.capability p }
  | .method name p =>
    { t with methods := t.methods.insert name ((t.ofMethod name).insert p.capability p) }

def ofDeclarations (ds : List Declaration) : PolicyTable := ds.foldl declare empty

/-- The policy that applies to the method. -/
def find? (t : PolicyTable) (c : Capability) (method : String) : Option Policy :=
  ((t.ofMethod method).find? c).or (t.interface.find? c)

theorem find?_declare_interface (t : PolicyTable) (p : Policy) (c : Capability) (m : String) :
    (t.declare (.interface p)).find? c m =
      ((t.ofMethod m).find? c).or (if p.capability = c then some p else t.interface.find? c) := by
  simp [declare, find?, ofMethod, Registry.find?_insert]

theorem find?_declare_method (t : PolicyTable) (name : String) (p : Policy) (c : Capability)
    (m : String) :
    (t.declare (.method name p)).find? c m =
      if name = m ∧ p.capability = c then some p else t.find? c m := by
  by_cases hm : name = m
  · subst hm
    by_cases hc : p.capability = c <;>
      simp [declare, find?, ofMethod, Registry.find?_insert, hc]
  · simp [declare, find?, ofMethod, Registry.find?_insert, hm]

end PolicyTable

end CallGuard
