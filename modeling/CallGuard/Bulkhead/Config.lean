import CallGuard.Event
import CallGuard.Text.Record

/-!
# Configuration of a bulkhead
-/

namespace CallGuard

structure BulkheadConfig where
  /-- The most calls in flight. -/
  capacity : Nat
  /-- The longest a call waits for a slot. -/
  maxWait : Nanos
  listeners : List Listener

namespace BulkheadConfig

/-- Twenty-five calls and no waiting. -/
def standard : BulkheadConfig := ⟨25, 0, []⟩

def topics : List String := ["call_permitted", "call_rejected"]

inductive Setting where
  | capacity (n : Nat)
  | maxWait (d : Nanos)
  | listen (label : String)
  | listenCrashing

def set (c : BulkheadConfig) : Setting → BulkheadConfig
  | .capacity n => { c with capacity := n }
  | .maxWait d => { c with maxWait := d }
  | .listen label => { c with listeners := c.listeners ++ Listener.tracing label topics }
  | .listenCrashing => { c with listeners := c.listeners ++ Listener.crashing topics }

def ofSettings (settings : List Setting) : BulkheadConfig := settings.foldl set standard

def inspect (c : BulkheadConfig) : String :=
  record "BulkheadConfig"
    [("max_concurrent_calls", toString c.capacity), ("max_wait_duration", Nanos.text c.maxWait),
      ("event_listeners", Listener.inspectAll c.listeners)]

end BulkheadConfig

/-- A named bulkhead. Its slots are kept in the cell of that number. -/
structure Bulkhead where
  name : String
  config : BulkheadConfig
  cell : Nat

namespace Bulkhead

def inspect (b : Bulkhead) (available : Nat) : String :=
  record "Bulkhead" [("name", quoted b.name), ("available", toString available)]

end Bulkhead

end CallGuard
