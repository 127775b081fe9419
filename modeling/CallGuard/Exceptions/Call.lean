import CallGuard.Call

/-!
# Calls with exception mapping

A fault that is about to leave is offered to the mappers in their order, always as it came; the
first replacement leaves in its stead. Values and crashes pass.
-/

namespace CallGuard

namespace Mapper

/-- The fault that leaves in place of the given one. -/
def replaceFirst (e : Fault) : List Mapper → Act Fault
  | [] => pure e
  | m :: rest => do
    Act.write (.mapperAsked m.announced m.name e)
    match m.replace? e with
    | some replacement => pure replacement
    | none => replaceFirst e rest

/-- The reply that leaves in place of the given one. -/
def remap (mappers : List Mapper) : Reply → Act Reply
  | .ended (.fault e) => do return .ended (.fault (← replaceFirst e mappers))
  | reply => pure reply

def direct (mappers : List Mapper) (call : Direct) : Direct := fun args => do
  remap mappers (← call args)

def deferred {W : Type} (mappers : List Mapper) (call : Deferred W) : Deferred W where
  start := call.start
  poll := fun w => do
    match ← call.poll w with
    | .waiting w => return .waiting w
    | .done reply => return .done (← remap mappers reply)
  drop := call.drop
  timer := call.timer

end Mapper

end CallGuard
