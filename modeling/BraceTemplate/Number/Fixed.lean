import BraceTemplate.Number.DecimalNumber

/-!
# Fixed-point digits

The decimal expansion of an exact value to a fixed number of places, rounded to the nearest one and
away from zero on a tie. A negative number of places rounds to tens, hundreds and so on.
-/

namespace BraceTemplate

/-- The whole number nearest to a non-negative rational, the larger one of two. -/
def roundHalfUp (q : Rat) : Nat :=
  (q + 1 / 2).floor.toNat

/-- `units` steps of `10 ^ (-places)`: a whole part without superfluous zeros, and behind a point
exactly `places` digits. Without places there is no point. -/
def placeText (units places : Nat) : Text :=
  let digits := (Text.ofNat units).leftpad (places + 1) ('0' : CodePoint)
  let whole := digits.take (digits.length - places)
  let fraction := digits.drop (digits.length - places)
  if places = 0 then whole else whole ++ ('.' : CodePoint) :: fraction

/-- How many steps of `10 ^ (-places)` a non-negative rational has. -/
def roundedUnits (q : Rat) (places : Int) : Nat :=
  roundHalfUp (q * (10 : Rat) ^ places)

/-- A number of steps of `10 ^ (-places)`. If the step is ten or more, zeros fill the text up. -/
def unitsText (units : Nat) : Int → Text
  | .ofNat places => placeText units places
  | .negSucc n => Text.ofNat (units * Nat.pow 10 (n + 1))

/-- A non-negative rational to `places` places; a negative count rounds before the point. -/
def fixedText (q : Rat) (places : Int) : Text :=
  unitsText (roundedUnits q places) places

/-- Digits that a fixed-point text can hold before its point. -/
def fixedWholeDigits : Nat := 22

/-- Digits that fit in front of the last of so many places: as many as the precision allows, unless
the first one would stand too far to the left. -/
def fixedRoom (precision : Nat) (places : Int) : Nat :=
  min precision (DecimalNumber.maxExponent + 1 + places).toNat

/-- A size to `places` places behind its sign. Nothing is written for a size that has more digits
than fit. -/
def signedFixedText (precision : Nat) (negative : Bool) (size : Rat) (places : Int) :
    Except DecimalSignal Text :=
  if roundedUnits size places < Nat.pow 10 (fixedRoom precision places) then
    .ok ((if negative then (['-'] : Text) else []) ++ fixedText size places)
  else .error .invalidOperation

/-- An integer to `places` places. -/
def fixedInteger (i : Int) (precision : Nat) (places : Int) : Except DecimalSignal Text :=
  signedFixedText precision (i < 0) i.natAbs places

/-- A floating-point number to `places` places. A negative zero keeps its sign, what is not a number
its name, and there is no text for an infinity. -/
def Binary64.fixedDigits (x : Binary64) (precision : Nat) (places : Int) :
    Except DecimalSignal Text :=
  match x with
  | .finite negative m => signedFixedText precision negative m.toRat places
  | .infinite _ => .error .invalidOperation
  | .nan => .ok "NaN"

/-- A finite decimal number to `places` places. One with a point far to the left is zero and one
with a point far to the right has too many digits; neither is computed. -/
def Scientific.fixedDigits (negative : Bool) (s : Scientific) (precision : Nat) (places : Int) :
    Except DecimalSignal Text :=
  if s.digits = 0 ∨ s.point < -places then signedFixedText precision negative 0 places
  else if fixedRoom precision places < s.point + places then .error .invalidOperation
  else signedFixedText precision negative s.toRat places

/-- A decimal number to `places` places. What is not a number keeps as many of its digits as the
precision allows. -/
def DecimalNumber.fixedDigits (d : DecimalNumber) (precision : Nat) (places : Int) :
    Except DecimalSignal Text :=
  match d with
  | .finite negative coefficient exponent =>
    Scientific.fixedDigits negative ⟨coefficient, exponent⟩ precision places
  | .infinite _ => .error .invalidOperation
  | .nan negative false payload =>
    .ok (DecimalNumber.nan negative false (lastDigits precision payload)).text
  | .nan _ true _ => .error .invalidOperation

end BraceTemplate
