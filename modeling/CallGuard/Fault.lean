import CallGuard.Breaker.State

/-!
# Faults

A call that does not return a value ends with a fault: one of the service's own, the refusal of a
guard, or a mistake in the setup of the chain that was to carry the call. Filters and mappers tell
faults apart by kind; `message` is the one place where a fault gets its wording.
-/

namespace CallGuard

/-- The kinds of faults that filters can name. All setup mistakes are of one kind. -/
inductive FaultKind where
  | transient
  | missing
  | checked
  | wrapped
  | io
  | callNotPermitted
  | requestNotPermitted
  | bulkheadFull
  | maxRetriesExceeded
  | configError
  deriving DecidableEq, Repr

namespace FaultKind

def name : FaultKind → String
  | transient => "Transient"
  | missing => "Missing"
  | checked => "Checked"
  | wrapped => "Wrapped"
  | io => "Io"
  | callNotPermitted => "CallNotPermitted"
  | requestNotPermitted => "RequestNotPermitted"
  | bulkheadFull => "BulkheadFull"
  | maxRetriesExceeded => "MaxRetriesExceeded"
  | configError => "ConfigError"

def all : List FaultKind :=
  [transient, missing, checked, wrapped, io, callNotPermitted, requestNotPermitted, bulkheadFull,
    maxRetriesExceeded, configError]

def ofName? (name : String) : Option FaultKind := all.find? fun k => k.name = name

end FaultKind

inductive Fault where
  | transient (text : String)
  | missing (text : String)
  | checked (text : String)
  /-- A transient fault inside another one. -/
  | wrapped (text : String)
  | io (text : String)
  /-- A bare text, which has no kind. -/
  | text (text : String)
  | callNotPermitted (breaker : String) (state : CircuitState)
  | requestNotPermitted (limiter : String)
  | bulkheadFull (bulkhead : String) (capacity : Nat)
  | maxRetriesExceeded (retry : String) (attempts : Nat)
  | fallbackMismatch (fallback method : String)
  | incompatibleMapper (mapper output method : String)
  | missingScheduler (capability method : String)
  | construction (type : String) (source : Fault)
  | noDefault (type : String)
  | wrongType (key expected : String)
  | signatureConflict (method : String)
  | schedulerFailed (source : Fault)
  deriving DecidableEq, Repr

namespace Fault

/-- The kind that a filter has to name to match the fault. -/
def kind? : Fault → Option FaultKind
  | transient _ => some .transient
  | missing _ => some .missing
  | checked _ => some .checked
  | wrapped _ => some .wrapped
  | io _ => some .io
  | text _ => none
  | callNotPermitted .. => some .callNotPermitted
  | requestNotPermitted _ => some .requestNotPermitted
  | bulkheadFull .. => some .bulkheadFull
  | maxRetriesExceeded .. => some .maxRetriesExceeded
  | fallbackMismatch .. | incompatibleMapper .. | missingScheduler .. | construction ..
  | noDefault _ | wrongType .. | signatureConflict _ | schedulerFailed _ => some .configError

/-- The fault's own name, finer than its kind where the setup is at fault. -/
def label : Fault → String
  | transient _ => "Transient"
  | missing _ => "Missing"
  | checked _ => "Checked"
  | wrapped _ => "Wrapped"
  | io _ => "Io"
  | text _ => "Text"
  | callNotPermitted .. => "CallNotPermitted"
  | requestNotPermitted _ => "RequestNotPermitted"
  | bulkheadFull .. => "BulkheadFull"
  | maxRetriesExceeded .. => "MaxRetriesExceeded"
  | fallbackMismatch .. => "ConfigError::FallbackMismatch"
  | incompatibleMapper .. => "ConfigError::IncompatibleMapper"
  | missingScheduler .. => "ConfigError::MissingScheduler"
  | construction .. => "ConfigError::Construction"
  | noDefault _ => "ConfigError::NoDefault"
  | wrongType .. => "ConfigError::WrongType"
  | signatureConflict _ => "ConfigError::SignatureConflict"
  | schedulerFailed _ => "ConfigError::Scheduler"

def message : Fault → String
  | transient t => "transient: " ++ t
  | missing t => "missing: " ++ t
  | checked t => "checked: " ++ t
  | wrapped t => "wrapped: " ++ t
  | io t => t
  | text t => t
  | callNotPermitted breaker state =>
    "circuit breaker '" ++ breaker ++ "' is " ++ state.name ++ " and does not permit further calls"
  | requestNotPermitted limiter =>
    "rate limiter '" ++ limiter ++ "' does not permit further calls"
  | bulkheadFull bulkhead capacity =>
    "bulkhead '" ++ bulkhead ++ "' is full: max concurrent calls (" ++ toString capacity ++
      ") reached"
  | maxRetriesExceeded retry attempts =>
    "retry '" ++ retry ++ "' exhausted " ++ toString attempts ++
      " attempts without an accepted result"
  | fallbackMismatch fallback method =>
    "fallback `" ++ fallback ++ "` does not implement the interface of `" ++ method ++ "`"
  | incompatibleMapper mapper output method =>
    "exception mapper `" ++ mapper ++ "` produces `" ++ output ++ "`, which `" ++ method ++
      "` does not declare"
  | missingScheduler capability method =>
    capability ++ " on `" ++ method ++ "` needs a scheduler, but the context has none"
  | construction type source => "failed to construct `" ++ type ++ "`: " ++ source.message
  | noDefault type =>
    "`" ++ type ++ "` has no default constructor and no instance is registered for it"
  | wrongType key expected =>
    "instance registered for `" ++ key ++ "` is not a `" ++ expected ++ "`"
  | signatureConflict method =>
    "`" ++ method ++ "` was invoked with a different signature than its cached chain"
  | schedulerFailed source => "failed to start the default scheduler: " ++ source.message

/-- The fault that brought this one about. -/
def source? : Fault → Option Fault
  | wrapped t => some (transient t)
  | construction _ source => some source
  | schedulerFailed source => some source
  | _ => none

/-- Whether the fault is of the given kind. -/
def isOf (e : Fault) (kind : FaultKind) : Bool := e.kind? = some kind

end Fault

/-- What a mapper turns faults into: something any method may end with, or a kind that only the
methods declaring it may end with. -/
inductive FaultClass where
  | unchecked
  | checked (kind : FaultKind)
  deriving DecidableEq, Repr

namespace FaultClass

def inspect : FaultClass → String
  | unchecked => "Unchecked"
  | checked kind => "Checked(" ++ kind.name ++ ")"

end FaultClass

end CallGuard
