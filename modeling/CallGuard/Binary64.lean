/-!
# Exact readings of binary64 numbers

A finite number is a mantissa times a power of two, and everything that has to be exact is computed
on these two: rounding seconds to nanoseconds in `Duration.Seconds`, choosing digits in
`Decimal.Shortest`.
-/

namespace CallGuard

/-- What the bits of a number say. -/
inductive Reading where
  | notANumber
  | infinite (negative : Bool)
  /-- `mantissa * 2 ^ exponent`, negated when `negative` is set. -/
  | finite (negative : Bool) (mantissa : Nat) (exponent : Int)
  deriving DecidableEq, Repr

namespace Binary64

/-- The reading of the number with the given 64 bits. -/
def ofBits (bits : Nat) : Reading :=
  let negative : Bool := (bits >>> 63) % 2 = 1
  let field : Nat := (bits >>> 52) % (1 <<< 11)
  let fraction : Nat := bits % (1 <<< 52)
  if field = (1 <<< 11) - 1 then
    if fraction = 0 then .infinite negative else .notANumber
  else if field = 0 then .finite negative fraction (-1074)
  else .finite negative ((1 <<< 52) + fraction) ((field : Int) - 1075)

def read (x : Float) : Reading := ofBits x.toBits.toNat

/-- The two natural numbers whose quotient is `2 ^ e`. -/
def ratio (e : Int) : Nat × Nat :=
  if 0 ≤ e then (1 <<< e.toNat, 1) else (1, 1 <<< (-e).toNat)

/-- The natural number nearest to a quotient; of two equally near ones the even one. -/
def roundHalfEven (num den : Nat) : Nat :=
  let q := num / den
  let r := num % den
  if 2 * r < den ∨ 2 * r = den ∧ q % 2 = 0 then q else q + 1

/-- A number times itself `n` times over, by repeated squaring; `r` collects the product. -/
def powerOnto (r a : Float) (n : Nat) : Float :=
  let r := if n % 2 = 1 then r * a else r
  if n < 2 then r else powerOnto r (a * a) (n / 2)
termination_by n
decreasing_by omega

/-- `a ^ n`, rounded as repeated squaring rounds. -/
def power (a : Float) (n : Nat) : Float := powerOnto 1 a n

end Binary64

end CallGuard
