import CallGuard.Event
import CallGuard.Outcome

/-!
# The journal

The journal lists in order what happened during a session. Reports show the entries that something
was set up to write down; the others are there to be reasoned about.
-/

namespace CallGuard

inductive Entry where
  /-- The service of that number was called. -/
  | called (time : Nanos) (service : Nat) (label operation : String) (args : Args)
  /-- The service of that number replied. -/
  | replied (service : Nat) (r : Reply)
  /-- A guard reported an event. -/
  | emitted (e : Event)
  /-- A listener wrote an event down. -/
  | heard (label : String) (e : Event)
  | handlerAsked (announced : Bool) (method : String) (o : Outcome)
  | mapperAsked (announced : Bool) (mapper : String) (e : Fault)
  | factoryAsked (e : Option Fault)
  | constructed (type : String)
  | configAsked (provider : String)
  | policySought (announced : Bool) (capability method : String)
  | permissionAsked (breaker : String) (granted : Bool)
  | delayAsked (length : Nanos)
  deriving DecidableEq, Repr

namespace Entry

/-- Whether reports show the entry. -/
def isShown : Entry → Bool
  | replied .. | emitted _ | permissionAsked .. | delayAsked _ => false
  | handlerAsked announced _ _ | mapperAsked announced _ _ | policySought announced _ _ => announced
  | called .. | heard .. | factoryAsked _ | constructed _ | configAsked _ => true

end Entry

end CallGuard
