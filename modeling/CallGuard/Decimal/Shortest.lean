import CallGuard.Binary64

/-!
# The fewest digits that read back

A decimal reads back to a binary64 number when it lies in the interval of reals that round to that
number. Among the grids of 1, 2, ... 17 digits the first with a point in the interval wins; of two
points on that grid the nearer one is taken, and the larger one when both are equally near.
-/

namespace CallGuard

/-- The number `digits * 10 ^ exponent`. -/
structure Decimal where
  digits : Nat
  exponent : Int
  deriving DecidableEq, Repr

namespace Decimal

/-- The two natural numbers whose quotient is `10 ^ e`. -/
def ratio (e : Int) : Nat × Nat :=
  if 0 ≤ e then (Nat.pow 10 e.toNat, 1) else (1, Nat.pow 10 (-e).toNat)

/-- The `k` with `10 ^ k ≤ num / den < 10 ^ (k + 1)`, for quotients of at least `10 ^ -400`. -/
def magnitude (num den : Nat) : Int :=
  if den ≤ num then ((toString (num / den)).length : Int) - 1
  else -((((List.range 400).find? fun j => den ≤ num * Nat.pow 10 j).getD 400 : Nat) : Int)

/-- The point of the grid `10 ^ k` that reads back to `mantissa * 2 ^ exponent`, if one does. The
interval reaches half a unit up, and half a unit down or a quarter below a power of two. -/
def onGrid? (mantissa : Nat) (exponent k : Int) : Option Decimal :=
  let (p, q) := Binary64.ratio exponent
  let (s, t) := ratio k
  let below := if mantissa = 1 <<< 52 ∧ -1074 < exponent then 1 else 2
  let point := fun c : Nat => c * s * (4 * q)
  let value := 4 * mantissa * p * t
  let low := (4 * mantissa - below) * p * t
  let high := (4 * mantissa + 2) * p * t
  let inside := fun c : Nat =>
    if mantissa % 2 = 0 then low ≤ point c ∧ point c ≤ high else low < point c ∧ point c < high
  let c := mantissa * p * t / (q * s)
  if inside (c + 1) then
    if inside c ∧ value - point c < point (c + 1) - value then some ⟨c, k⟩ else some ⟨c + 1, k⟩
  else if inside c then some ⟨c, k⟩
  else none

/-- The shortest decimal that reads back to `mantissa * 2 ^ exponent`, for a positive mantissa. -/
def shortest (mantissa : Nat) (exponent : Int) : Decimal :=
  let (p, q) := Binary64.ratio exponent
  let top := magnitude (mantissa * p) q
  ((List.range 17).findSome? fun n : Nat => onGrid? mantissa exponent (top - n)).getD
    ⟨mantissa * p / q, 0⟩

end Decimal

end CallGuard
