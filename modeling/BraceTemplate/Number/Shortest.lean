import BraceTemplate.Number.Scientific

/-!
# Shortest decimal text of a floating-point number

A finite number is written with the fewest decimal digits that round back to it, and among those
with the digits nearest to its exact value. The digits are found by trying grids of one to seventeen
digits: on each, only the two neighbours of the exact value can be hit. Small and large exponents
are written with `e`, the others positionally.
-/

namespace BraceTemplate

/-! ## Choosing the digits -/

/-- The number `k` with `10 ^ (k - 1) ≤ q < 10 ^ k`, for a positive `q`. -/
def decimalPoint (q : Rat) : Int :=
  if 1 ≤ q then (Text.ofNat q.floor.toNat).length
  else 1 - ((Text.ofNat ((q⁻¹).ceil.toNat - 1)).length : Int)

namespace Magnitude

/-- A decimal reads back as this magnitude. -/
def isReadFrom (m : Magnitude) (s : Scientific) : Bool :=
  s.toBinary64 false == .finite false m

/-- The neighbours of the exact value on the grid of `count` digits, the nearer one first. -/
def neighbours (m : Magnitude) (count : Nat) : List Scientific :=
  let step := decimalPoint m.toRat - count
  let scaled := m.toRat / (10 : Rat) ^ step
  let near := roundHalfEven scaled
  let far := if (near : Rat) ≤ scaled then near + 1 else near - 1
  [⟨near.toNat, step⟩, ⟨far.toNat, step⟩]

/-- All digits of the exact value. -/
def exactDecimal (m : Magnitude) : Scientific :=
  if 0 ≤ m.exponent then ⟨m.mantissa * Nat.pow 2 m.exponent.toNat, 0⟩
  else ⟨m.mantissa * Nat.pow 5 m.exponent.natAbs, m.exponent⟩

/-- The decimal of fewest digits that reads back. -/
def shortest (m : Magnitude) : Scientific :=
  let candidates := (List.range 17).flatMap fun n => m.neighbours (n + 1)
  (candidates.find? m.isReadFrom).getD m.exactDecimal

theorem shortest_eq_exactDecimal_or_isReadFrom (m : Magnitude) :
    m.shortest = m.exactDecimal ∨ m.isReadFrom m.shortest = true := by
  unfold shortest
  simp only
  cases h : ((List.range 17).flatMap fun n => m.neighbours (n + 1)).find? m.isReadFrom with
  | none => exact .inl rfl
  | some s => exact .inr (List.find?_some h)

end Magnitude

/-! ## Writing it down -/

/-- How a number is spelled: what follows the digits of a whole number, and the names of what has no
digits. -/
structure FloatStyle where
  wholeSuffix : Text
  infinity : Text
  nan : Text

namespace Scientific

/-- The exponents `-4` to `15` of the leading digit are written without `e`. -/
def isPositional (s : Scientific) : Bool :=
  decide (-4 < s.point ∧ s.point ≤ 16)

/-- Digits with a decimal point at its place, filled up with zeros to reach it. -/
def positional (wholeSuffix : Text) (digits : Text) (point : Int) : Text :=
  if point ≤ 0 then
    "0." ++ List.replicate point.natAbs ('0' : CodePoint) ++ digits
  else if digits.length ≤ point.toNat then
    digits ++ List.replicate (point.toNat - digits.length) ('0' : CodePoint) ++ wholeSuffix
  else
    digits.take point.toNat ++ ('.' : CodePoint) :: digits.drop point.toNat

/-- A sign and at least two digits. -/
def exponentText (exponent : Int) : Text :=
  (if exponent < 0 then '-' else '+') :: (Text.ofNat exponent.natAbs).leftpad 2 '0'

/-- The first digit, the others behind a point, and the exponent of the first. -/
def exponential (digits : Text) (point : Int) : Text :=
  let fraction := digits.drop 1
  digits.take 1 ++ (if fraction.isEmpty then [] else ('.' : CodePoint) :: fraction) ++
    ('e' : CodePoint) :: exponentText (point - 1)

def text (wholeSuffix : Text) (s : Scientific) : Text :=
  if s.isPositional then positional wholeSuffix s.significant s.point
  else exponential s.significant s.point

end Scientific

/-- The digits of a magnitude; those of zero are `0`. -/
def Magnitude.text (wholeSuffix : Text) (m : Magnitude) : Text :=
  if m.mantissa = 0 then '0' :: wholeSuffix else m.shortest.text wholeSuffix

namespace FloatStyle

/-- Numbers as a reader sees them. -/
def natural : FloatStyle := ⟨".0", "Infinity", "NaN"⟩

/-- Numbers as they are typed in. -/
def literal : FloatStyle := ⟨".0", "inf", "nan"⟩

/-- Parts of a complex number. -/
def component : FloatStyle := ⟨[], "inf", "nan"⟩

end FloatStyle

/-- The sign is written before all but what is not a number. -/
def Binary64.write (style : FloatStyle) : Binary64 → Text
  | .nan => style.nan
  | .infinite negative => (if negative then (['-'] : Text) else []) ++ style.infinity
  | .finite negative m => (if negative then (['-'] : Text) else []) ++ m.text style.wholeSuffix

/-- The natural text of a number. -/
def Binary64.text (x : Binary64) : Text :=
  x.write .natural

end BraceTemplate
