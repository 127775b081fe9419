import CallGuard.Duration

/-!
# The balance of a rate limiter

Time since the limiter was made is divided into cycles of one period. Each new cycle adds the limit
to the balance, which never exceeds the limit. The balance may fall below zero: whoever is willing
to wait takes a permission of a later cycle now and is told when that cycle begins.

The balance is kept in 64 bits with a sign; the refill of many skipped cycles saturates there.
-/

namespace CallGuard

/-- The largest balance. -/
def balanceMax : Int := ((1 <<< 63 : Nat) : Int) - 1

/-- The smallest balance. -/
def balanceMin : Int := -((1 <<< 63 : Nat) : Int)

/-- The nearest number that a balance can hold. -/
def saturate (n : Int) : Int := max balanceMin (min n balanceMax)

structure Balance where
  limit : Int
  period : Nanos
  /-- When the limiter was made. -/
  origin : Nanos
  /-- The cycle that the permissions were last brought up to. -/
  cycle : Nat
  permissions : Int
  deriving DecidableEq, Repr

/-- The answer to a request: the wait until the permission is valid, or the wait that would have
been needed. -/
inductive Reservation where
  | granted (wait : Nanos)
  | refused (needed : Nanos)
  deriving DecidableEq, Repr

namespace Balance

/-- A full balance for a limiter made at the origin. -/
def ofLimit (limit : Nat) (period origin : Nanos) : Balance :=
  let limit := min (limit : Int) balanceMax
  ⟨limit, period, origin, 0, limit⟩

/-- A period lasts at least one nanosecond. -/
def span (b : Balance) : Nat := max b.period 1

def elapsed (b : Balance) (now : Nanos) : Nanos := now - b.origin

/-- The cycle that the instant lies in. -/
def cycleAt (b : Balance) (now : Nanos) : Nat := b.elapsed now / b.span

/-- The balance brought up to the cycle of the instant. -/
def refresh (b : Balance) (now : Nanos) : Balance :=
  if b.cycle < b.cycleAt now then
    let skipped := min ((b.cycleAt now - b.cycle : Nat) : Int) balanceMax
    let refilled := saturate (b.permissions + saturate (skipped * b.limit))
    { b with permissions := min refilled b.limit, cycle := b.cycleAt now }
  else b

/-- How long until a permission taken now is valid, as far as 64 bits of nanoseconds can say. -/
def wait (b : Balance) (now : Nanos) : Nanos :=
  if 0 < b.permissions then 0
  else if b.limit ≤ 0 then Nanos.longest
  else
    let untilNext := b.span * (b.cycle + 1) - b.elapsed now
    let deficit := 1 - b.permissions
    let cycles := (deficit + b.limit - 1) / b.limit
    let needed := untilNext + (cycles.toNat - 1) * b.span
    if needed < 1 <<< 64 then needed else Nanos.longest

/-- Takes one permission unless that would take longer than the timeout. -/
def reserve (b : Balance) (now timeout : Nanos) : Reservation × Balance :=
  let b := b.refresh now
  let needed := b.wait now
  if timeout < needed then (.refused needed, b)
  else (.granted needed, { b with permissions := b.permissions - 1 })

end Balance

end CallGuard
