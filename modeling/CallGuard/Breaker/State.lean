/-!
# States of a circuit
-/

namespace CallGuard

/-- Closed lets calls pass, open refuses them, half-open admits a few trial calls. -/
inductive CircuitState where
  | closed
  | opened
  | halfOpen
  deriving DecidableEq, Repr

namespace CircuitState

/-- The state as messages and counters name it. -/
def name : CircuitState → String
  | closed => "CLOSED"
  | opened => "OPEN"
  | halfOpen => "HALF_OPEN"

/-- The state in a record. -/
def inspect : CircuitState → String
  | closed => "Closed"
  | opened => "Open"
  | halfOpen => "HalfOpen"

end CircuitState

end CallGuard
