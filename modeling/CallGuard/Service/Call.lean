import CallGuard.Call

/-!
# Calls of a service

At the end of every chain a service is called. It follows its script: a direct call sleeps and then
ends as planned, a deferred one settles on its reply when it is started and hands it over when its
time has come and its gate is open.
-/

namespace CallGuard

namespace Service

/-- Takes a service in, and says its number. -/
def enroll (s : Service) : Act Nat := do
  let number := (← get).services.size
  modify fun w => { w with services := w.services.push s }
  return number

/-- Takes the next plan of the service for a call of the operation. -/
def take (number : Nat) (operation : String) (args : Args) : Act Plan := do
  let w ← get
  let s := (w.services[number]?).getD ⟨"", [], 0⟩
  Act.write (.called w.now number s.label operation args)
  modify fun w => { w with services := w.services.setIfInBounds number s.advance }
  return s.plan

end Service

/-- A deferred call that a service works on. -/
structure Errand where
  /-- The number of the service. -/
  service : Nat
  due : Nanos
  gate : Option String
  hangs : Bool
  reply : Reply

namespace Errand

/-- Whether the service is through with the errand. -/
def isOver (e : Errand) (w : World) : Bool :=
  !e.hangs && e.due ≤ w.now && e.gate.all w.gates.contains

def poll (e : Errand) : Act (Progress Errand) := do
  if e.isOver (← get) then
    Act.write (.replied e.service e.reply)
    return .done e.reply
  else return .waiting e

end Errand

namespace Route

/-- The call of the service of that number; `reenter` carries out what its code calls itself. -/
def direct (r : Route) (reenter : Reentry → Act Reply) (service : Nat) : Direct := fun args => do
  let plan ← Service.take service r.operation.name (r.pass args)
  Act.sleep plan.sleep
  let reply ← match plan.reentry with
    | some call => reenter call
    | none => pure (r.planned args plan.ending)
  let reply := r.finishReply args reply
  Act.write (.replied service reply)
  return reply

def deferred (r : Route) (service : Nat) : Deferred Errand where
  start := fun args => do
    let plan ← Service.take service r.operation.name (r.pass args)
    match plan.eager, r.planned args plan.ending with
    | true, .crashed text =>
      Act.write (.replied service (.crashed text))
      return .error text
    | _, reply =>
      return .ok ⟨service, (← get).now + plan.sleep, plan.gate, plan.hangs, r.finishReply args reply⟩
  poll := Errand.poll
  drop := fun _ => pure ()

end Route

end CallGuard
