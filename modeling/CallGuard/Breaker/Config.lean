import CallGuard.Decimal.Layout
import CallGuard.Event
import CallGuard.Fault
import CallGuard.Text.Record

/-!
# Configuration of a circuit breaker
-/

namespace CallGuard

structure BreakerConfig where
  /-- The circuit opens at this failure rate, in percent, and above. -/
  threshold : Float
  /-- How many of the latest outcomes the rate is taken over. -/
  window : Nat
  /-- How many outcomes it takes before the rate counts. -/
  minimum : Nat
  /-- How long the circuit stays open before it lets trial calls through. -/
  openWait : Nanos
  /-- How many trial calls decide whether it closes again. -/
  trialCalls : Nat
  /-- Which faults count as failures; without it all do. -/
  failureFilter : Option (Fault → Bool)
  listeners : List Listener
  window_pos : 0 < window
  minimum_pos : 0 < minimum
  trialCalls_pos : 0 < trialCalls

namespace BreakerConfig

/-- Half of the last hundred calls, a minute of waiting, ten trial calls. -/
def standard : BreakerConfig where
  threshold := 50
  window := 100
  minimum := 100
  openWait := Nanos.ofSeconds 60
  trialCalls := 10
  failureFilter := none
  listeners := []
  window_pos := by decide
  minimum_pos := by decide
  trialCalls_pos := by decide

def topics : List String := ["state_transition", "call_rejected"]

/-- A rate between 0 and 100. What is no number stays as it is. -/
def percent (x : Float) : Float := if x < 0 then 0 else if 100 < x then 100 else x

inductive Setting where
  | threshold (x : Float)
  | window (n : Nat)
  | minimum (n : Nat)
  | openWait (d : Nanos)
  | trialCalls (n : Nat)
  | counts (filter : Fault → Bool)
  | listen (label : String)
  | listenCrashing

def set (c : BreakerConfig) : Setting → BreakerConfig
  | .threshold x => { c with threshold := percent x }
  | .window n => { c with window := max n 1, window_pos := by omega }
  | .minimum n => { c with minimum := max n 1, minimum_pos := by omega }
  | .openWait d => { c with openWait := d }
  | .trialCalls n => { c with trialCalls := max n 1, trialCalls_pos := by omega }
  | .counts filter => { c with failureFilter := some filter }
  | .listen label => { c with listeners := c.listeners ++ Listener.tracing label topics }
  | .listenCrashing => { c with listeners := c.listeners ++ Listener.crashing topics }

def ofSettings (settings : List Setting) : BreakerConfig := settings.foldl set standard

/-- Whether the fault counts as a failure. -/
def countsAsFailure (c : BreakerConfig) (e : Fault) : Bool := c.failureFilter.all (· e)

def inspect (c : BreakerConfig) : String :=
  openRecord "CircuitBreakerConfig"
    [("failure_rate_threshold", NumberStyle.field.text c.threshold),
      ("sliding_window_size", toString c.window),
      ("minimum_number_of_calls", toString c.minimum),
      ("wait_duration_in_open_state", Nanos.text c.openWait),
      ("permitted_calls_in_half_open_state", toString c.trialCalls)]

end BreakerConfig

/-- A named breaker. Its circuit is kept in the cell of that number. -/
structure Breaker where
  name : String
  config : BreakerConfig
  cell : Nat

namespace Breaker

def inspect (b : Breaker) (state : CircuitState) : String :=
  record "CircuitBreaker" [("name", quoted b.name), ("state", state.inspect)]

end Breaker

end CallGuard
