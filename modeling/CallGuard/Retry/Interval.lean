import CallGuard.Decimal.Layout
import CallGuard.Duration.Seconds
import CallGuard.Text.Record

/-!
# Waits between attempts
-/

namespace CallGuard

/-- How long to wait before each retry. -/
inductive Interval where
  | fixed (wait : Nanos)
  /-- `initial * multiplier ^ (retry - 1)`, but never more than `most`. -/
  | growing (initial : Nanos) (multiplier : Float) (most : Nanos)

namespace Interval

/-- A multiplier below one, or one that is no number, counts as one. -/
def atLeastOne (multiplier : Float) : Float := if 1 ≤ multiplier then multiplier else 1

/-- The largest exponent that a growing wait is raised to. -/
def exponentLimit : Nat := (1 <<< 31) - 1

/-- The wait before the retry of the given number, counted from one. A growing wait that cannot be
held as a duration is the longest one the interval allows. -/
def wait : Interval → Nat → Nanos
  | fixed d, _ => d
  | growing initial multiplier most, retry =>
    let factor := Binary64.power (atLeastOne multiplier) (min (retry - 1) exponentLimit)
    match Nanos.ofSeconds? (Nanos.toSeconds initial * factor) with
    | some d => min d most
    | none => most

def inspect : Interval → String
  | fixed d => "Fixed(" ++ Nanos.text d ++ ")"
  | growing initial multiplier most =>
    record "Exponential"
      [("initial", Nanos.text initial), ("multiplier", NumberStyle.field.text multiplier),
        ("max", Nanos.text most)]

end Interval

end CallGuard
