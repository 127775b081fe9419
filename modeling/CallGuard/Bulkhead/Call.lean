import CallGuard.Call

/-!
# Calls through a bulkhead

A call holds a slot while what it guards is running. A deferred call asks for its slot at the first
poll; if it may wait it queues, and at each later poll looks for its slot first and at its timer
second. A direct call waits in the same way on a thread of its own. `Bulkhead.direct` is how it goes
when there is but one thread: nobody else gets to run while it waits, so it waits in vain.
-/

namespace CallGuard

namespace Bulkhead

/-- The slots as the world has them. -/
def slots (b : Bulkhead) (w : World) : Slots :=
  (w.slots[b.cell]?).getD (.ofCapacity b.config.capacity)

def emit (b : Bulkhead) (h : Happening) : Act Unit := Act.emit b.name b.config.listeners h

def update (b : Bulkhead) (s : Slots) : Act Unit :=
  modify fun w => { w with slots := w.slots.setIfInBounds b.cell s }

/-- Takes a free slot. -/
def take (b : Bulkhead) : Act Bool := do
  match (b.slots (← get)).take? with
  | some s =>
    b.update s
    return true
  | none => return false

/-- Takes up the slot assigned to the ticket. -/
def claim (b : Bulkhead) (ticket : Nat) : Act Bool := do
  match (b.slots (← get)).claim? ticket with
  | some s =>
    b.update s
    return true
  | none => return false

/-- Goes to the end of the queue. -/
def enqueue (b : Bulkhead) : Act Nat := do
  let (ticket, s) := (b.slots (← get)).enqueue
  b.update s
  return ticket

def withdraw (b : Bulkhead) (ticket : Nat) : Act Unit := do
  b.update ((b.slots (← get)).withdraw ticket)

/-- Announces a call that has just been given a slot. -/
def permit (b : Bulkhead) : Act Unit := do
  Act.raise "bulkhead_calls_permitted_total" [("bulkhead", b.name)]
  b.emit (.callPermitted (b.config.capacity - (b.slots (← get)).free))

/-- Announces that a call is turned away. -/
def reject (b : Bulkhead) : Act Reply := do
  Act.raise "bulkhead_calls_rejected_total" [("bulkhead", b.name)]
  b.emit (.callRejected b.config.capacity)
  return .refusal (.bulkheadFull b.name b.config.capacity)

/-- Announces that a call is over, and gives its slot back. -/
def finish (b : Bulkhead) : Act Unit := do
  b.emit .callFinished
  b.update (b.slots (← get)).release

/-- The scheduler on which calls wait for a slot, if they do. -/
def waitsOn (b : Bulkhead) (scheduler : Option Scheduler) : Option Scheduler :=
  if b.config.maxWait = 0 then none else scheduler

/-- A direct call on the only thread there is. Nobody gives a slot back while it waits, and so it does
without a place in the queue. Where there are more threads it is a deferred call, `Deferred.onThread`
within `Bulkhead.deferred`. -/
def direct (b : Bulkhead) (scheduler : Option Scheduler) (call : Direct) : Direct := fun args => do
  if ← b.take then
    b.permit
    let reply ← call args
    b.finish
    return reply
  else
    if let some s := b.waitsOn scheduler then
      Act.outwait (← Act.delay s b.config.maxWait)
    b.reject

end Bulkhead

/-- What a direct call on a thread of its own guards: as it waits for a slot it is polled when it comes
and whenever it wakes up, and once it is let in it runs to its end. -/
def Deferred.onThread (call : Direct) : Deferred Reply where
  start := fun args => return .ok (← call args)
  poll := fun reply => return .done reply
  drop := fun _ => pure ()

/-- How far a deferred call through a bulkhead has come. -/
inductive Housed (W : Type) where
  | fresh (args : Args)
  | queued (args : Args) (ticket : Nat) (timer : Timer)
  | running (w : W)

namespace Bulkhead

variable {W : Type}

/-- Polls the call that holds a slot. -/
def watch (b : Bulkhead) (call : Deferred W) (w : W) : Act (Progress (Housed W)) := do
  match ← call.poll w with
  | .waiting w => return .waiting (.running w)
  | .done reply =>
    b.finish
    return .done reply

/-- Starts the call that has just been given a slot, and polls it. -/
def enter (b : Bulkhead) (call : Deferred W) (args : Args) : Act (Progress (Housed W)) := do
  b.permit
  match ← call.start args with
  | .error text =>
    b.finish
    return .done (.crashed text)
  | .ok w => b.watch call w

/-- Looks whether a queued call has been given a slot, or has waited long enough. -/
def queue (b : Bulkhead) (call : Deferred W) (args : Args) (ticket : Nat) (timer : Timer) :
    Act (Progress (Housed W)) := do
  if ← b.claim ticket then b.enter call args
  else if ← Act.isOver timer then
    b.withdraw ticket
    return .done (← b.reject)
  else return .waiting (.queued args ticket timer)

def deferred (b : Bulkhead) (scheduler : Option Scheduler) (call : Deferred W) :
    Deferred (Housed W) where
  start := fun args => return .ok (.fresh args)
  poll := fun state => do
    match state with
    | .fresh args =>
      if ← b.take then b.enter call args
      else match b.waitsOn scheduler with
        | some s =>
          let ticket ← b.enqueue
          let timer ← Act.delay s b.config.maxWait
          b.queue call args ticket timer
        | none => return .done (← b.reject)
    | .queued args ticket timer => b.queue call args ticket timer
    | .running w => b.watch call w
  drop := fun state => do
    match state with
    | .fresh _ => return
    | .queued _ ticket _ => b.withdraw ticket
    | .running w =>
      call.drop w
      b.finish
  timer
    | .fresh _ => none
    | .queued _ _ timer => some timer
    | .running w => call.timer w

end Bulkhead

end CallGuard
