import BraceTemplate.Text.Basic
import BraceTemplate.Number.Binary64

/-!
# Decimals with an exponent

A non-negative decimal is a number of digits and a power of ten. Rounding one to a floating-point
number is exact; an exponent far outside the range of the format is decided by the count of digits
alone.
-/

namespace BraceTemplate

/-- The decimal `digits * 10 ^ exponent`. -/
structure Scientific where
  digits : Nat
  exponent : Int
deriving DecidableEq

namespace Scientific

/-- The exact value. -/
def toRat (s : Scientific) : Rat :=
  (s.digits : Rat) * (10 : Rat) ^ s.exponent

/-- The digits without zeros at the end. -/
def significant (s : Scientific) : Text :=
  Text.dropTrailing '0' (Text.ofNat s.digits)

/-- The place of the decimal point, counted from the first digit: the value is below
`10 ^ point` and, unless it is zero, at least `10 ^ (point - 1)`. -/
def point (s : Scientific) : Int :=
  (Text.ofNat s.digits).length + s.exponent

/-- Decimals whose point lies further away than this many places are infinite or zero when
rounded. -/
def pointLimit : Int := 400

/-- The floating-point number nearest to the value, with the given sign. -/
def toBinary64 (negative : Bool) (s : Scientific) : Binary64 :=
  if s.digits = 0 ∨ s.point < -pointLimit then .zero negative
  else if pointLimit < s.point then .infinite negative
  else .round negative s.toRat

end Scientific

end BraceTemplate
