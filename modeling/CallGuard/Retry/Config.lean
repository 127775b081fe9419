import CallGuard.Event
import CallGuard.Outcome
import CallGuard.Retry.Interval

/-!
# Configuration of a retry
-/

namespace CallGuard

structure RetryConfig where
  /-- The most attempts of one call, the first one included. -/
  maxAttempts : Nat
  interval : Interval
  /-- Faults of these kinds are retried. -/
  kinds : List FaultKind
  /-- Faults that it accepts are retried too. -/
  faultFilter : Option (Fault → Bool)
  /-- Values that it accepts are retried. -/
  valueFilter : Option (Value → Bool)
  /-- Whether a call whose last attempt gave a retried value ends with a fault. -/
  failsWhenExhausted : Bool
  listeners : List Listener
  maxAttempts_pos : 0 < maxAttempts

namespace RetryConfig

/-- Three attempts, half a second apart, on every fault. -/
def standard : RetryConfig where
  maxAttempts := 3
  interval := .fixed (Nanos.ofMillis 500)
  kinds := []
  faultFilter := none
  valueFilter := none
  failsWhenExhausted := false
  listeners := []
  maxAttempts_pos := by decide

/-- The topics that callbacks can be set on. -/
def topics : List String := ["retry", "success", "error"]

/-- One line of a configuration. -/
inductive Setting where
  | maxAttempts (n : Nat)
  | wait (d : Nanos)
  | exponential (initial : Nanos) (multiplier : Float)
  | interval (i : Interval)
  | retryOn (kind : FaultKind)
  | onFault (filter : Fault → Bool)
  | onValue (filter : Value → Bool)
  | failsWhenExhausted (b : Bool)
  | listen (label : String)
  | listenCrashing

/-- There is always a first attempt. -/
theorem attempts_pos (n : Nat) : 0 < max n 1 := by omega

/-- The configuration with one more line. Lines that say the same thing again replace what was said
before, except that kinds and listeners add up. -/
def set (c : RetryConfig) : Setting → RetryConfig
  | .maxAttempts n => { c with maxAttempts := max n 1, maxAttempts_pos := attempts_pos n }
  | .wait d => { c with interval := .fixed d }
  | .exponential initial multiplier =>
    { c with interval := .growing initial (Interval.atLeastOne multiplier) (Nanos.ofSeconds 60) }
  | .interval i => { c with interval := i }
  | .retryOn kind => { c with kinds := c.kinds ++ [kind] }
  | .onFault filter => { c with faultFilter := some filter }
  | .onValue filter => { c with valueFilter := some filter }
  | .failsWhenExhausted b => { c with failsWhenExhausted := b }
  | .listen label => { c with listeners := c.listeners ++ Listener.tracing label topics }
  | .listenCrashing => { c with listeners := c.listeners ++ Listener.crashing topics }

def ofSettings (settings : List Setting) : RetryConfig := settings.foldl set standard

/-- Whether the fault is to be retried: without any filter every fault is, and otherwise one that a
listed kind or the filter accepts. -/
def retriesFault (c : RetryConfig) (e : Fault) : Bool :=
  if c.kinds.isEmpty && c.faultFilter.isNone then true
  else c.kinds.any e.isOf || c.faultFilter.any (· e)

def retriesValue (c : RetryConfig) (v : Value) : Bool := c.valueFilter.any (· v)

/-- Whether another attempt is wanted after the outcome. -/
def retries (c : RetryConfig) : Outcome → Bool
  | .value v => c.retriesValue v
  | .fault e => c.retriesFault e

def inspect (c : RetryConfig) : String :=
  openRecord "RetryConfig"
    [("max_attempts", toString c.maxAttempts), ("interval", c.interval.inspect),
      ("retry_errors", listed (c.kinds.map FaultKind.name)),
      ("fail_after_max_attempts", toString c.failsWhenExhausted)]

end RetryConfig

/-- A named retry. It keeps no state between calls. -/
structure Retry where
  name : String
  config : RetryConfig

namespace Retry

def inspect (r : Retry) : String :=
  record "Retry"
    [("inner", record "Inner" [("name", quoted r.name), ("config", r.config.inspect)])]

end Retry

end CallGuard
