import CallGuard.Breaker.State
import CallGuard.Duration

/-!
# Events and listeners

Every guard reports what it does as events, and a configuration carries the listeners that hear
them. A listener that crashes has heard its event, and the listeners after it hear it as well.
-/

namespace CallGuard

/-- What a guard reports. -/
inductive Happening where
  | retried (attempt : Nat) (wait : Nanos)
  | succeeded (attempts : Nat)
  | exhausted (attempts : Nat)
  | ignoredFault
  | permitAcquired (wait : Nanos)
  | permitRejected (timeout : Nanos)
  | transitioned (source target : CircuitState)
  | breakerRejected (state : CircuitState)
  | successRecorded
  | failureRecorded
  | callPermitted (concurrent : Nat)
  | callRejected (capacity : Nat)
  | callFinished
  deriving DecidableEq, Repr

namespace Happening

/-- The topic that listeners subscribe to. -/
def topic : Happening → String
  | retried .. => "retry"
  | succeeded _ => "success"
  | exhausted _ => "error"
  | ignoredFault => "ignored_error"
  | permitAcquired _ => "permit_acquired"
  | permitRejected _ => "permit_rejected"
  | transitioned .. => "state_transition"
  | breakerRejected _ => "call_rejected"
  | successRecorded => "success_recorded"
  | failureRecorded => "failure_recorded"
  | callPermitted _ => "call_permitted"
  | callRejected _ => "call_rejected"
  | callFinished => "call_finished"

end Happening

/-- Something that happened at a guard, and when. -/
structure Event where
  guard : String
  time : Nanos
  happening : Happening
  deriving DecidableEq, Repr

/-- A listener writes its label down for each event it hears; without a label it writes nothing. -/
structure Listener where
  label : Option String
  /-- The one topic it hears, or every topic. -/
  topic : Option String
  crashes : Bool
  deriving DecidableEq, Repr

namespace Listener

/-- What the listener writes down about an event of the topic. -/
def hear? (l : Listener) (topic : String) : Option String :=
  if l.topic.all (· = topic) then l.label else none

/-- What all listeners write down, in the order in which they were added. -/
def hearAll (ls : List Listener) (topic : String) : List String := ls.filterMap (·.hear? topic)

/-- One listener for each of the topics, all with the same label. -/
def tracing (label : String) (topics : List String) : List Listener :=
  topics.map fun t => ⟨some label, some t, false⟩

/-- One listener for each of the topics, all of which crash without a word. -/
def crashing (topics : List String) : List Listener :=
  topics.map fun t => ⟨none, some t, true⟩

def inspectAll (ls : List Listener) : String :=
  "EventListeners \x7b len: " ++ toString ls.length ++ " \x7d"

end Listener

end CallGuard
