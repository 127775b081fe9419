/-!
# Durations

Durations and instants are natural numbers of nanoseconds, so that arithmetic on them is exact.
An instant counts from the start of a session. Timers run on a coarser clock, the millisecond tick.
-/

namespace CallGuard

/-- A duration, or an instant since the session began, in nanoseconds. -/
abbrev Nanos := Nat

namespace Nanos

def perMicro : Nat := 1000

def perMilli : Nat := 1000000

def perSecond : Nat := 1000000000

/-- The longest duration: `2 ^ 64 - 1` whole seconds and 999999999 nanoseconds. -/
def longest : Nanos := (1 <<< 64) * perSecond - 1

def ofMillis (n : Nat) : Nanos := n * perMilli

def ofSeconds (n : Nat) : Nanos := n * perSecond

/-- The millisecond tick that the instant lies in. -/
def tick (t : Nanos) : Nat := t / perMilli

/-- The first millisecond tick that starts at the instant or later. -/
def nextTick (t : Nanos) : Nat := (perMilli - 1 + t) / perMilli

theorem le_tick {n t : Nat} (h : n * perMilli ≤ t) : n ≤ tick t :=
  (Nat.le_div_iff_mul_le (by decide)).mpr h

/-- Nothing before an instant shares the tick that follows it. -/
theorem le_of_nextTick_le_tick {a b : Nat} (h : nextTick a ≤ tick b) : a ≤ b := by
  unfold nextTick tick perMilli at h
  omega

/-- `n` in decimal with at least `width` digits, and then without the zeros at its end. -/
def decimals (width n : Nat) : List Char :=
  let digits := (toString n).toList
  let padded := List.replicate (width - digits.length) '0' ++ digits
  (padded.reverse.dropWhile (· = '0')).reverse

/-- `n` in a unit that holds `10 ^ width` of a smaller one, with all of its decimals. -/
def inUnit (width n : Nat) (name : String) : String :=
  let rest := decimals width (n % Nat.pow 10 width)
  let fraction := if rest.isEmpty then "" else "." ++ String.ofList rest
  toString (n / Nat.pow 10 width) ++ fraction ++ name

/-- A duration in the largest unit of which it holds at least one. -/
def text (d : Nanos) : String :=
  if perSecond ≤ d then inUnit 9 d "s"
  else if perMilli ≤ d then inUnit 6 d "ms"
  else if perMicro ≤ d then inUnit 3 d "µs"
  else inUnit 0 d "ns"

end Nanos

end CallGuard
