import CallGuard.Duration

/-!
# Schedulers and timers

Deferred calls wait on a scheduler, and a scheduler goes by a clock. One that shares the session's
clock goes by that. A dedicated one has a clock of its own, which runs on while the session's clock
stands still and those who wait are blocked. A timer rings when the clock of its scheduler has reached
the millisecond tick of the deadline.
-/

namespace CallGuard

inductive Scheduler where
  | shared
  | dedicated
  deriving DecidableEq, Repr

namespace Scheduler

def isDedicated (s : Scheduler) : Bool := s = dedicated

def inspect (s : Scheduler) : String :=
  "Scheduler \x7b dedicated: " ++ toString s.isDedicated ++ " \x7d"

end Scheduler

/-- A timer rings at a millisecond tick of its scheduler's clock, or it is over from the start. -/
inductive Timer where
  | passed
  | set (s : Scheduler) (due : Nat)
  deriving DecidableEq, Repr

namespace Timer

/-- The timer of a wait of the given length that starts when the clock of the scheduler shows this. -/
def start (s : Scheduler) (now length : Nanos) : Timer :=
  if length = 0 then passed else set s (now + length).nextTick

/-- Whether it has rung when the clocks of the schedulers show this. -/
def isOver (t : Timer) (clock : Scheduler → Nanos) : Bool :=
  match t with
  | passed => true
  | set s due => due ≤ (clock s).tick

/-- When it rings, if it does so on a clock of its own. -/
def dedicatedDue? : Timer → Option Nat
  | set .dedicated due => some due
  | set .shared _ | passed => none

variable {s : Scheduler} {now length : Nanos} {clock : Scheduler → Nanos}

theorem start_of_ne_zero (h : length ≠ 0) : start s now length = set s (now + length).nextTick :=
  if_neg h

/-- A timer does not ring early on the clock of its scheduler. -/
theorem le_of_isOver (h : length ≠ 0) (rung : (start s now length).isOver clock) :
    now + length ≤ clock s := by
  rw [start_of_ne_zero h, isOver, decide_eq_true_eq] at rung
  exact Nanos.le_of_nextTick_le_tick rung

end Timer

end CallGuard
