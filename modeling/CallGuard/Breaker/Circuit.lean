import CallGuard.Breaker.Config

/-!
# The circuit of a breaker

A closed circuit keeps the latest outcomes and opens when too many of them are failures. An open one
refuses calls until its wait is over; the first request after that makes it half-open. A half-open
one hands out as many permits as it has trial calls, each stamped with the epoch, and closes or opens
by their outcomes. Every transition starts a new epoch and forgets what was recorded.

Each operation also says what happened, in order.
-/

namespace CallGuard

structure Circuit where
  state : CircuitState
  /-- The latest outcomes, oldest first; `true` is a failure. -/
  window : List Bool
  openedAt : Option Nanos
  /-- Permits handed out since the circuit became half-open. -/
  permits : Nat
  /-- Outcomes since the circuit became half-open. -/
  trials : List Bool
  /-- Counts the transitions, in 64 bits. -/
  epoch : Nat
  deriving DecidableEq, Repr

/-- The share of failures in percent; no outcomes count as none failed. -/
def failureRate (outcomes : List Bool) : Float :=
  if outcomes.isEmpty then 0
  else Float.ofNat (outcomes.count true) * 100 / Float.ofNat outcomes.length

namespace Circuit

/-- A new circuit. -/
def fresh : Circuit := ⟨.closed, [], none, 0, [], 0⟩

def epochs : Nat := 1 <<< 64

/-- Moves the circuit to another state. -/
def transition (c : Circuit) (target : CircuitState) (now : Nanos) : Circuit × List Happening :=
  if c.state = target then (c, [])
  else
    ({ state := target
       window := []
       openedAt := if target = .opened then some now else none
       permits := 0
       trials := []
       epoch := (c.epoch + 1) % epochs },
      [.transitioned c.state target])

/-- Whether an open circuit has waited long enough. -/
def isDue (c : Circuit) (config : BreakerConfig) (now : Nanos) : Bool :=
  c.state = .opened && c.openedAt.any fun t => config.openWait ≤ now - t

/-- Answers a request for permission: with the epoch of the permit when the circuit is half-open,
and with the state when the request is refused. -/
def acquire (c : Circuit) (config : BreakerConfig) (now : Nanos) :
    Except CircuitState (Option Nat) × Circuit × List Happening :=
  let (c, happened) := if c.isDue config now then c.transition .halfOpen now else (c, [])
  match c.state with
  | .closed => (.ok none, c, happened)
  | .opened => (.error .opened, c, happened)
  | .halfOpen =>
    if c.permits < config.trialCalls then
      (.ok (some c.epoch), { c with permits := c.permits + 1 }, happened)
    else (.error .halfOpen, c, happened)

/-- Takes back a permit whose call never had an outcome. Permits of another epoch are void. -/
def release (c : Circuit) (epoch : Nat) : Circuit :=
  if c.state = .halfOpen ∧ c.epoch = epoch then { c with permits := c.permits - 1 } else c

/-- Whether the outcomes call for an open circuit. -/
def trips (config : BreakerConfig) (outcomes : List Bool) : Bool :=
  config.threshold ≤ failureRate outcomes

/-- The window with one more outcome, of which the oldest drop out at the front. -/
def slide (config : BreakerConfig) (window : List Bool) (failed : Bool) : List Bool :=
  let longer := window ++ [failed]
  longer.drop (longer.length - config.window)

/-- Records the outcome of a call. -/
def record (c : Circuit) (config : BreakerConfig) (now : Nanos) (failed : Bool) :
    Circuit × List Happening :=
  let recorded := if failed then Happening.failureRecorded else Happening.successRecorded
  match c.state with
  | .closed =>
    let window := slide config c.window failed
    let c := { c with window := window }
    if min config.minimum config.window ≤ window.length && trips config window then
      let (c, happened) := c.transition .opened now
      (c, recorded :: happened)
    else (c, [recorded])
  | .halfOpen =>
    let trials := c.trials ++ [failed]
    let c := { c with trials := trials }
    if config.trialCalls ≤ trials.length then
      let (c, happened) := c.transition (if trips config trials then .opened else .closed) now
      (c, recorded :: happened)
    else (c, [recorded])
  | .opened => (c, [recorded])

end Circuit

end CallGuard
