import CallGuard.Breaker.Config
import CallGuard.Bulkhead.Config
import CallGuard.Exceptions.Mapper
import CallGuard.Limiter.Config
import CallGuard.Retry.Config
import CallGuard.Service.Script

/-!
# Managed instances

A context keeps one instance for each type name: the service of a fallback, a mapper, a provider of
configurations, or a plain value. An instance is asked for in one role; whether it fits shows only
then. A reference may bring a recipe, from which the instance is made on first use.
-/

namespace CallGuard

/-- The configuration of a guard of some kind. -/
inductive GuardConfig where
  | retry (c : RetryConfig)
  | breaker (c : BreakerConfig)
  | limiter (c : LimiterConfig)
  | bulkhead (c : BulkheadConfig)

/-- Hands out the configuration of a guard. -/
structure Provider where
  type : String
  config : GuardConfig

inductive Instance where
  /-- The service of that number, as an implementation of the interface. -/
  | service (interface : String) (number : Nat)
  | mapper (m : Mapper)
  | provider (p : Provider)
  /-- A shared text; the serial tells texts apart that read the same. -/
  | text (serial : Nat) (s : String)
  | number (n : Int)
  | word

/-- What a plain value is made from. -/
inductive Sample where
  | text (s : String)
  | number (n : Int)
  /-- Cannot be made. -/
  | failing (message : String)
  /-- Cannot be made the first times. -/
  | flaky (failures : Nat) (s : String)
  /-- The text of another sample, looked up under its own key, and a suffix. -/
  | suffixed (key : String) (base : Sample) (suffix : String)
  /-- The text registered under the key, and a suffix. -/
  | suffixedRegistered (key suffix : String)
  deriving DecidableEq, Repr

inductive Product where
  | service (interface label : String) (script : List Plan)
  | mapper (m : Mapper)
  | provider (p : Provider)
  | sample (s : Sample)

structure Recipe where
  /-- Whether making the instance is written down. -/
  announced : Bool
  product : Product

/-- A reference to the instance of a type. Without a recipe it has to be registered beforehand. -/
structure InstanceRef where
  type : String
  recipe : Option Recipe

namespace InstanceRef

def inspect (r : InstanceRef) : String :=
  record "InstanceRef" [("key", r.type), ("constructible", toString r.recipe.isSome)]

end InstanceRef

end CallGuard
