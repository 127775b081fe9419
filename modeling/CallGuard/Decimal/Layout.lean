import CallGuard.Decimal.Shortest

/-!
# The text of a number

Two styles are in use. A number that stands by itself is always written positionally; a number in a
record's field keeps a decimal place and turns to powers of ten far from one.
-/

namespace CallGuard

/-- How a number is laid out. -/
structure NumberStyle where
  /-- Whether a whole number shows `.0`. -/
  showsPlace : Bool
  /-- Whether numbers from `10 ^ 16` on and below `10 ^ -4` are written with a power of ten. -/
  usesPowers : Bool

namespace NumberStyle

/-- A number that stands by itself. -/
def plain : NumberStyle := ⟨false, false⟩

/-- A number in a record's field. -/
def field : NumberStyle := ⟨true, true⟩

end NumberStyle

namespace Decimal

/-- The decimal without zeros at the end of its digits. -/
def trim (d : Decimal) : Decimal :=
  if d.digits = 0 then ⟨0, 0⟩
  else if d.digits % 10 = 0 then trim ⟨d.digits / 10, d.exponent + 1⟩
  else d
termination_by d.digits
decreasing_by omega

/-- The decimal with all of its places written out. -/
def positional (d : Decimal) (showsPlace : Bool) : String :=
  let written := (toString d.digits).toList
  if 0 ≤ d.exponent then
    toString d.digits ++ String.ofList (List.replicate d.exponent.toNat '0') ++
      (if showsPlace then ".0" else "")
  else
    let places := (-d.exponent).toNat
    let padded := List.replicate (places + 1 - written.length) '0' ++ written
    let whole := padded.take (padded.length - places)
    String.ofList whole ++ "." ++ String.ofList (padded.drop (padded.length - places))

/-- The decimal as digits from 1 up to 10 times a power of ten. -/
def scientific (d : Decimal) : String :=
  let written := (toString d.digits).toList
  let rest := written.drop 1
  let power := d.exponent + (rest.length : Int)
  String.ofList (written.take 1) ++ (if rest.isEmpty then "" else "." ++ String.ofList rest) ++
    "e" ++ toString power

/-- Whether the decimal is at least `10 ^ 16` or below `10 ^ -4`. -/
def isFar (d : Decimal) : Bool :=
  let power := d.exponent + ((toString d.digits).length : Int) - 1
  16 ≤ power ∨ power < -4

end Decimal

namespace NumberStyle

/-- The text of a number with the given reading. -/
def write (style : NumberStyle) : Reading → String
  | .notANumber => "NaN"
  | .infinite negative => if negative then "-inf" else "inf"
  | .finite negative mantissa exponent =>
    let size :=
      if mantissa = 0 then Decimal.positional ⟨0, 0⟩ style.showsPlace
      else
        let d := (Decimal.shortest mantissa exponent).trim
        if style.usesPowers && d.isFar then d.scientific else d.positional style.showsPlace
    if negative then "-" ++ size else size

def text (style : NumberStyle) (x : Float) : String := style.write (Binary64.read x)

end NumberStyle

end CallGuard
