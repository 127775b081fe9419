import CallGuard.Fault

/-!
# Mappers

A mapper is offered a fault that is about to leave a guarded method and may replace it. It declares
the class of the faults it makes.
-/

namespace CallGuard

structure Mapper where
  name : String
  /-- Whether the mapper writes down that it was asked. -/
  announced : Bool
  output : FaultClass
  replace? : Fault → Option Fault

end CallGuard
