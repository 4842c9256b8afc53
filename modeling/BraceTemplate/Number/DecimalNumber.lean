import BraceTemplate.Number.Numeral

/-!
# Decimal floating-point numbers

Numbers of the general decimal arithmetic: a coefficient and a power of ten, where `1.5` and `1.50`
differ, with infinities and two sorts of what is not a number, which carry digits of their own. The
text keeps all digits, and reading one is exact. Multiplication and powers of ten are rounded to 28
digits and to the range of exponents, a tie to the even one; of the digits that what is not a number
carries, a product keeps the last 28.
-/

namespace BraceTemplate

inductive DecimalNumber where
  | finite (negative : Bool) (coefficient : Nat) (exponent : Int)
  | infinite (negative : Bool)
  | nan (negative : Bool) (signalling : Bool) (payload : Text)
deriving DecidableEq

/-- The conditions under which decimal arithmetic gives no number. -/
inductive DecimalSignal where
  | invalidOperation
  | overflow
  /-- A text writes no number. -/
  | conversionSyntax
deriving DecidableEq

def DecimalSignal.message : DecimalSignal → Text
  | .invalidOperation => "[<class 'decimal.InvalidOperation'>]"
  | .overflow => "[<class 'decimal.Overflow'>]"
  | .conversionSyntax => "[<class 'decimal.ConversionSyntax'>]"

namespace DecimalNumber

/-! ## Text -/

/-- Positional if the exponent is not positive and at most five zeros follow the point; otherwise
one digit, the others behind a point, and the exponent of the first. -/
def finiteText (coefficient : Nat) (exponent : Int) : Text :=
  let digits := Text.ofNat coefficient
  let left : Int := digits.length + exponent
  let point : Int := if exponent ≤ 0 ∧ -6 < left then left else 1
  let number : Text :=
    if point ≤ 0 then "0." ++ List.replicate point.natAbs ('0' : CodePoint) ++ digits
    else if digits.length ≤ point.toNat then
      digits ++ List.replicate (point.toNat - digits.length) ('0' : CodePoint)
    else digits.take point.toNat ++ ('.' : CodePoint) :: digits.drop point.toNat
  if left = point then number
  else
    number ++ ('E' : CodePoint) :: (if left < point then '-' else '+') ::
      Text.ofNat (left - point).natAbs

def text : DecimalNumber → Text
  | .finite negative coefficient exponent =>
    (if negative then (['-'] : Text) else []) ++ finiteText coefficient exponent
  | .infinite negative => (if negative then (['-'] : Text) else []) ++ ("Infinity" : Text)
  | .nan negative signalling payload =>
    (if negative then (['-'] : Text) else []) ++ (if signalling then (['s'] : Text) else []) ++
      ("NaN" : Text) ++
      payload

/-- The number that a text in ASCII writes. -/
def parse? (t : Text) : Option DecimalNumber :=
  let (negative, size) := Numeral.takeSign t
  let name := size.map CodePoint.toLower
  let payload? (rest : Text) : Option Text :=
    if rest.all CodePoint.isDigit then some (rest.dropWhile (· == ('0' : CodePoint))) else none
  if name = "inf" ∨ name = "infinity" then some (.infinite negative)
  else if name.take 3 = "nan" then (payload? (name.drop 3)).map (.nan negative false)
  else if name.take 4 = "snan" then (payload? (name.drop 4)).map (.nan negative true)
  else (Numeral.readDecimal? size).map fun s => .finite negative s.digits s.exponent

/-- Separators of information, which count as blanks here. -/
def isSeparator (c : CodePoint) : Bool :=
  decide ('\x1c' ≤ c) && decide (c ≤ '\x1f')

/-- The largest exponent that the leading digit of an exact number may have. -/
def exactMaxExponent : Int := 999999999999999999

/-- The smallest exponent that an exact coefficient may have. -/
def exactMinExponent : Int := -1999999999999999997

/-- The number as it is, if its exponents are in the widest range. -/
def exact (d : DecimalNumber) : Except DecimalSignal DecimalNumber :=
  match d with
  | .finite negative coefficient exponent =>
    if exactMinExponent ≤ exponent ∧
        (Text.ofNat coefficient).length + exponent - 1 ≤ exactMaxExponent then
      .ok (.finite negative coefficient exponent)
    else .error .invalidOperation
  | d => .ok d

/-- The number that a text writes in digits of any script, with blanks around it or not. Underscores
count for nothing, wherever they stand. -/
def read (t : Text) : Except DecimalSignal DecimalNumber :=
  let parsed := (Numeral.plain? t).bind fun ascii =>
    let numeral := Numeral.trimWhile (fun c => Numeral.isBlank c || isSeparator c) ascii
    parse? (numeral.filter (· != ('_' : CodePoint)))
  match parsed with
  | some d => d.exact
  | none => .error .conversionSyntax

/-! ## Rounding -/

/-- Digits of a rounded coefficient. -/
def precision : Nat := 28

/-- The largest exponent of a leading digit; its negation is the smallest of a normal number. -/
def maxExponent : Int := 999999

/-- The smallest exponent of a coefficient. -/
def minExponent : Int := -maxExponent - precision + 1

/-- Cuts the last `count` digits off a coefficient; a tie goes to the even one. A coefficient with
fewer digits is less than a tenth of a unit, and nothing is left of it. -/
def dropDigits (coefficient count : Nat) : Nat :=
  if (Text.ofNat coefficient).length < count then 0
  else (roundHalfEven (mkRat coefficient (Nat.pow 10 count))).toNat

/-- A number with at most `precision` digits and with exponents in range. -/
def normalise (negative : Bool) (coefficient : Nat) (exponent : Int) :
    Except DecimalSignal DecimalNumber :=
  if coefficient = 0 then
    .ok (.finite negative 0 (max minExponent (min exponent maxExponent)))
  else
    let length := (Text.ofNat coefficient).length
    let excess := max ((length : Int) - precision) (minExponent - exponent)
    let rounded := if 0 < excess then dropDigits coefficient excess.toNat else coefficient
    let exponent := if 0 < excess then exponent + excess else exponent
    let (rounded, exponent) :=
      if rounded = Nat.pow 10 precision then (Nat.pow 10 (precision - 1), exponent + 1)
      else (rounded, exponent)
    if maxExponent < (Text.ofNat rounded).length + exponent - 1 then .error .overflow
    else .ok (.finite negative rounded exponent)

/-- The largest power of ten, up or down, that is computed at all. -/
def maxShift : Int := 2 * (maxExponent + precision)

/-- Ten to a power. Below the smallest exponent of a coefficient it is zero, with that exponent. -/
def tenTo (exponent : Int) : Except DecimalSignal DecimalNumber :=
  if maxShift < exponent.natAbs then .error .invalidOperation else normalise false 1 exponent

/-- The places of a number behind its point; there are less than none if its last digit stands
further to the left. -/
def places : DecimalNumber → Int
  | .finite _ _ exponent => -exponent
  | _ => 0

/-- The last `count` digits, without zeros at the start. -/
def lastDigits (count : Nat) (payload : Text) : Text :=
  (payload.drop (payload.length - count)).dropWhile (· == ('0' : CodePoint))

/-- A hundred times the number. -/
def timesHundred : DecimalNumber → Except DecimalSignal DecimalNumber
  | .finite negative coefficient exponent => normalise negative (coefficient * 100) exponent
  | .infinite negative => .ok (.infinite negative)
  | .nan negative false payload => .ok (.nan negative false (lastDigits precision payload))
  | .nan _ true _ => .error .invalidOperation

end DecimalNumber

end BraceTemplate
