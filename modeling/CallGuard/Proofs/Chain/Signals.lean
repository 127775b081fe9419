import CallGuard.Proofs.Chain.Deeds

/-!
# Signals

What the stages of a chain do to one another can be read off the journal: attempts, requests with
their answers, recorded outcomes, calls of services and questions to mappers. A `Signal` is one of
these, and it is what a deed signals. Of a call of a service the journal does not tell whether the
service stands in for the target; a signal does.
-/

namespace CallGuard

inductive Signal where
  /-- A retried call is attempted once more. -/
  | again
  /-- A stage of the capability was asked to let a call through. -/
  | asked (c : Capability) (granted : Bool)
  /-- A breaker recorded an outcome. -/
  | recorded
  /-- The target was called. -/
  | called (service : Nat)
  /-- A fallback's service was called. -/
  | substituted (service : Nat)
  | mapped (mapper : String)
  deriving DecidableEq, Repr

namespace Signal

/-- What the journal tells of the signal. -/
def plain : Signal → Signal
  | substituted service => called service
  | signal => signal

/-- The service that was called as the target, as far as the signal tells. -/
def called? : Signal → Option Nat
  | called service => some service
  | _ => none

/-- The service that was called in place of the target. -/
def substituted? : Signal → Option Nat
  | substituted service => some service
  | _ => none

end Signal

/-- What an event signals. -/
def Happening.signal? : Happening → Option Signal
  | .retried .. => some .again
  | .permitAcquired _ => some (.asked .limiter true)
  | .permitRejected _ => some (.asked .limiter false)
  | .successRecorded | .failureRecorded => some .recorded
  | .callPermitted _ => some (.asked .bulkhead true)
  | .callRejected _ => some (.asked .bulkhead false)
  | .succeeded _ | .exhausted _ | .ignoredFault | .transitioned .. | .breakerRejected _
  | .callFinished => none

/-- What an entry signals. A breaker's answer is an entry of its own, and so is the event that it
has refused a call. -/
def Entry.signal? : Entry → Option Signal
  | .called _ service _ _ _ => some (.called service)
  | .emitted e => e.happening.signal?
  | .mapperAsked _ mapper _ => some (.mapped mapper)
  | .permissionAsked _ granted => some (.asked .breaker granted)
  | .replied .. | .heard .. | .handlerAsked .. | .factoryAsked _ | .constructed _ | .configAsked _
  | .policySought .. | .delayAsked _ => none

/-- What a deed signals. A breaker that refuses a call denies it a permission first. -/
def Deed.signal? : Deed → Option Signal
  | .called service => some (.called service)
  | .granted c => some (.asked c true)
  | .denied => some (.asked .breaker false)
  | .refused (.requestNotPermitted _) => some (.asked .limiter false)
  | .refused (.bulkheadFull ..) => some (.asked .bulkhead false)
  | .recorded _ => some .recorded
  | .told (.retried ..) => some .again
  | .mapperAsked mapper _ => some (.mapped mapper)
  | .replied .. | .refused _ | .told _ | .handlerAsked _ | .factoryAsked _ => none

/-- An entry signals what the deed does that it tells of. -/
theorem Entry.signal?_eq (e : Entry) : e.signal? = e.deed?.bind Deed.signal? := by
  cases e with
  | emitted e =>
    obtain ⟨guard, time, h⟩ := e
    cases h <;> rfl
  | permissionAsked breaker granted => cases granted <;> rfl
  | _ => rfl

theorem Entry.filterMap_signal? (entries : List Entry) :
    entries.filterMap Entry.signal? = (entries.filterMap Entry.deed?).filterMap Deed.signal? := by
  rw [List.filterMap_filterMap]
  exact congrArg entries.filterMap (funext Entry.signal?_eq)

end CallGuard
