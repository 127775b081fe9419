import CallGuard.Event
import CallGuard.Text.Record

/-!
# Configuration of a rate limiter
-/

namespace CallGuard

structure LimiterConfig where
  /-- Permissions granted in each period. -/
  limit : Nat
  period : Nanos
  /-- The longest a call waits for its permission. -/
  timeout : Nanos
  listeners : List Listener

namespace LimiterConfig

/-- Fifty permissions in each half second, and five seconds to wait for one. -/
def standard : LimiterConfig := ⟨50, Nanos.ofMillis 500, Nanos.ofSeconds 5, []⟩

def topics : List String := ["permit_acquired", "permit_rejected"]

inductive Setting where
  | limit (n : Nat)
  | period (d : Nanos)
  | timeout (d : Nanos)
  | listen (label : String)
  | listenCrashing

def set (c : LimiterConfig) : Setting → LimiterConfig
  | .limit n => { c with limit := n }
  | .period d => { c with period := d }
  | .timeout d => { c with timeout := d }
  | .listen label => { c with listeners := c.listeners ++ Listener.tracing label topics }
  | .listenCrashing => { c with listeners := c.listeners ++ Listener.crashing topics }

def ofSettings (settings : List Setting) : LimiterConfig := settings.foldl set standard

def inspect (c : LimiterConfig) : String :=
  record "RateLimiterConfig"
    [("limit_for_period", toString c.limit), ("limit_refresh_period", Nanos.text c.period),
      ("timeout_duration", Nanos.text c.timeout),
      ("event_listeners", Listener.inspectAll c.listeners)]

end LimiterConfig

/-- A named limiter. Its balance is kept in the cell of that number. -/
structure Limiter where
  name : String
  config : LimiterConfig
  cell : Nat

namespace Limiter

def inspect (l : Limiter) (available : Int) : String :=
  record "RateLimiter"
    [("name", quoted l.name), ("available_permissions", toString available)]

end Limiter

end CallGuard
