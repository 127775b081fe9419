import CallGuard.Condition
import CallGuard.Method

/-!
# Handlers

A handler decides for one fallback stage which outcomes the stage replaces.
-/

namespace CallGuard

structure Handler where
  /-- Whether the handler writes down that it was asked. -/
  announced : Bool
  accepts : Method → Outcome → Bool

namespace Handler

/-- Accepts every fault. -/
def anyFault : Handler := ⟨false, fun _ o => o.fault?.isSome⟩

/-- Accepts faults of one kind. -/
def ofKind (kind : FaultKind) : Handler := ⟨false, fun _ o => o.fault?.any (·.isOf kind)⟩

/-- Accepts the faults that the filter accepts. -/
def onFault (filter : Fault → Bool) : Handler := ⟨false, fun _ o => o.fault?.any filter⟩

/-- Accepts the values that the filter accepts. -/
def onValue (filter : Value → Bool) : Handler where
  announced := false
  accepts := fun _ o => match o with
    | .value v => filter v
    | .fault _ => false

/-- Judges by the method alone, and writes down that it was asked. -/
def onMethod (judge : Method → Bool) : Handler := ⟨true, fun m _ => judge m⟩

end Handler

end CallGuard
