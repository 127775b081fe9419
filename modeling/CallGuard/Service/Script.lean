import CallGuard.Duration
import CallGuard.Outcome

/-!
# Scripted services

The code behind a service is given as a script: the n-th call follows the n-th plan, and the last
plan holds for all calls after it. A plan can hand out a value, a fault or a crash, take its time,
wait for a gate, never end, or call back into a guarded method.
-/

namespace CallGuard

/-- A call made by the code of a service. -/
structure Reentry where
  proxy : Nat
  method : String
  args : Args
  deriving DecidableEq, Repr

/-- How a call is meant to end; an echo ends as the operation itself would. -/
inductive Ending where
  | value (v : Value)
  | fault (e : Fault)
  | crash (text : String)
  | echo
  deriving DecidableEq, Repr

structure Plan where
  ending : Ending
  sleep : Nanos
  /-- A deferred call does not end before the gate of that name is open. -/
  gate : Option String
  /-- A deferred call never ends. -/
  hangs : Bool
  /-- A deferred call crashes while it is being started. -/
  eager : Bool
  /-- What a direct call makes before it ends, and ends as. -/
  reentry : Option Reentry
  deriving DecidableEq, Repr

namespace Plan

/-- Ends at once as planned. -/
def ofEnding (e : Ending) : Plan := ⟨e, 0, none, false, false, none⟩

end Plan

structure Service where
  label : String
  script : List Plan
  /-- Calls taken so far. -/
  taken : Nat
  deriving DecidableEq, Repr

namespace Service

/-- The plan of the n-th call. -/
def planAt (script : List Plan) (n : Nat) : Plan :=
  (script[n]?.or script.getLast?).getD (.ofEnding .echo)

/-- The plan of the next call. -/
def plan (s : Service) : Plan := planAt s.script s.taken

/-- The service after one more call. -/
def advance (s : Service) : Service := { s with taken := s.taken + 1 }

end Service

end CallGuard
