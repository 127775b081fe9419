import CallGuard.Binary64
import CallGuard.Duration

/-!
# Durations as seconds

Growing a wait by a factor is done on seconds as binary64 numbers. The way there rounds as that
arithmetic does; the way back is exact on the number that came out.
-/

namespace CallGuard

namespace Nanos

/-- A duration as a number of seconds. -/
def toSeconds (d : Nanos) : Float :=
  Float.ofNat (d / perSecond) + Float.ofNat (d % perSecond) / 1e9

/-- A number of seconds to the nearest nanosecond, ties to even. There is none for a negative
number, for what is no number, and from `2 ^ 64` seconds on. -/
def ofSeconds? (x : Float) : Option Nanos :=
  match Binary64.read x with
  | .finite negative mantissa exponent =>
    let (p, q) := Binary64.ratio exponent
    if negative ∧ mantissa ≠ 0 ∨ (1 <<< 64) * q ≤ mantissa * p then none
    else some (Binary64.roundHalfEven (mantissa * p * perSecond) q)
  | _ => none

end Nanos

end CallGuard
