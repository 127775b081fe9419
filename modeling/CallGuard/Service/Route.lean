import CallGuard.Method
import CallGuard.Service.Script

/-!
# Routes

A route leads from a method to the operation of a service that carries it out. The service answers
in the operation's own result type; the route turns the answer into the method's result.
-/

namespace CallGuard

/-- What an operation answers with when its script leaves it to the operation. -/
inductive Echo where
  | keyLength
  | key
  | count
  | constant (v : Value)
  deriving DecidableEq, Repr

namespace Echo

def answer : Echo → Args → Value
  | keyLength, args => .int args.key.length
  | key, args => .text args.key
  | count, args => .int args.count
  | constant v, _ => v

end Echo

structure Operation where
  name : String
  /-- Whether the operation is passed the key. -/
  takesKey : Bool
  /-- Whether the operation is passed the count. -/
  takesCount : Bool
  echo : Echo
  result : ResultType
  deriving DecidableEq, Repr

/-- The types of a method's arguments and of its result. -/
structure Signature where
  arguments : List ResultType
  result : ResultType
  deriving DecidableEq, Repr

structure Route where
  method : Method
  signature : Signature
  operation : Operation
  /-- Whether the method adds the count to the number that the operation answers. -/
  addsCount : Bool
  deriving DecidableEq, Repr

namespace Route

/-- What the operation is passed of the arguments. -/
def pass (r : Route) (args : Args) : Args where
  key := if r.operation.takesKey then args.key else ""
  count := if r.operation.takesCount then args.count else 0

/-- The method's result for an answer of the operation. -/
def finish (r : Route) (args : Args) (answer : Value) : Value :=
  let answer := r.operation.result.conform answer
  let answer := match r.addsCount, answer with
    | true, .int n => .int (wrap64 (n + args.count))
    | _, answer => answer
  r.signature.result.conform answer

/-- The method's reply for a reply of the operation. -/
def finishReply (r : Route) (args : Args) : Reply → Reply
  | .ended (.value v) => .ended (.value (r.finish args v))
  | reply => reply

/-- The reply that a plan leads to, as the operation gives it. -/
def planned (r : Route) (args : Args) : Ending → Reply
  | .value v => .ended (.value v)
  | .fault e => .ended (.fault e)
  | .crash text => .crashed text
  | .echo => .ended (.value (r.operation.echo.answer (r.pass args)))

end Route

end CallGuard
