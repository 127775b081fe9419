import CallGuard.Fault
import CallGuard.Text.Record

/-!
# Methods

A method is known by its name and the names of its parameter types; its interface, its shape and
the kinds of faults it declares go along.
-/

namespace CallGuard

/-- How a method hands over its result: at once, or as a call to wait for. -/
inductive Shape where
  | direct
  | deferred
  deriving DecidableEq, Repr

namespace Shape

def name : Shape → String
  | direct => "sync"
  | deferred => "async"

def inspect : Shape → String
  | direct => "Sync"
  | deferred => "Async"

end Shape

/-- What tells the methods of an interface apart. -/
structure MethodKey where
  name : String
  params : List String
  deriving DecidableEq, Repr

structure Method where
  interface : String
  key : MethodKey
  shape : Shape
  declared : List FaultKind
  deriving DecidableEq, Repr

namespace Method

def name (m : Method) : String := m.key.name

/-- Whether the method declares the kind of fault. -/
def declares (m : Method) (kind : FaultKind) : Bool := m.declared.contains kind

/-- The method as messages name it. -/
def display (m : Method) : String :=
  m.interface ++ "::" ++ m.key.name ++ "(" ++ ", ".intercalate m.key.params ++ ")"

def inspect (m : Method) : String :=
  let key := record "MethodKey"
    [("name", quoted m.key.name), ("params", listed (m.key.params.map quoted))]
  record "MethodDescriptor"
    [("interface", quoted m.interface), ("key", key), ("shape", m.shape.inspect),
      ("declared_errors", listed (m.declared.map FaultKind.name))]

end Method

end CallGuard
