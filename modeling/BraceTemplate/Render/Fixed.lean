import BraceTemplate.Number.Fixed
import BraceTemplate.Render.Basic

/-!
# Fixed-point numbers and percentages

Real numbers with a fixed number of places, rounded from the exact value of the nearest
floating-point number. From a limit on, numbers keep their natural text and are not padded. A
percentage is a hundred times the number behind which `%` takes one place of the width.
-/

namespace BraceTemplate

/-- Magnitudes from `10 ^ 21` on have no fixed-point text. -/
def fixedLimit : Rat := 1000000000000000000000

namespace Value

/-- The floating-point number nearest to a real number; beyond their range it is infinite. -/
def toBinary64? : Value → Option Binary64
  | .int i => some (.ofInt i)
  | .float x => some x
  | .fraction q => some (.ofRat q)
  | _ => none

/-- A hundred times a number, in the arithmetic of its sort. -/
def timesHundred (v : Value) : Except Failure Value :=
  match v with
  | .int i => .ok (.int (i * 100))
  | .float x => .ok (.float x.timesHundred)
  | .fraction q => .ok (.fraction (q * 100))
  | .decimal d =>
    match d.timesHundred with
    | .ok product => .ok (.decimal product)
    | .error signal => .error (.decimalSignal signal)
  | .complex z => .ok (.complex z.timesHundred)
  | v => .error (.ofCause (.notNumeric v))

end Value

/-- The largest precision of decimal arithmetic. -/
def maxPrecision : Int := 999999999999999999

/-- The precision that makes room for a number and so many places. -/
def fixedPrecision (places : Int) : Except Failure Nat :=
  let precision := fixedWholeDigits + places
  if !DecimalParts.isMachineInteger precision then .error .widePrecision
  else if 1 ≤ precision ∧ precision ≤ maxPrecision then .ok precision.toNat
  else .error .noPrecision

/-- A text to so many places. Its last place is that of a power of ten, of which arithmetic has only
so many: behind the smallest one there are no further places. -/
def withPlaces (places : Int) (text : Nat → Int → Except DecimalSignal Text) :
    Except Failure Text := do
  let precision ← fixedPrecision places
  let unit ← (DecimalNumber.tenTo (-places)).mapError .decimalSignal
  (text precision unit.places).mapError .decimalSignal

/-- The exact value of a number to `places` places, without rounding it to a floating-point number
before. A value that is no number may stand for a decimal one. -/
def Value.fixedDigits (v : Value) (places : Int) : Except Failure Text :=
  match v with
  | .bool b => withPlaces places (fixedInteger (if b then 1 else 0))
  | .int i => withPlaces places (fixedInteger i)
  | .float x => withPlaces places x.fixedDigits
  | v =>
    match v.toDecimal with
    | .ok d => withPlaces places d.fixedDigits
    | .error defect => .error (.notDecimal defect)

namespace Render

/-- The padding and places that a text stands for. -/
def readFixedPadding (t : Text) : Except Failure FixedPadding :=
  match FixedPadding.parse? t with
  | some padding => .ok padding
  | none => .error (.ofCause (.invalidPadding t none))

/-- A floating-point number with fixed places, which are those of its size. Under the space flag a
number that is not negative has a blank where the sign would stand. -/
def fixedBinary64 (x : Binary64) (p : FixedPadding) (padding : Text) : Except Failure Text :=
  match x with
  | .finite _ m =>
    if fixedLimit ≤ m.toRat then .ok x.text
    else do
      let digits ← Value.fixedDigits (.float (.finite false m)) p.places
      let digits :=
        if p.padding.flag = .space ∧ !x.isNegative then (' ' : CodePoint) :: digits else digits
      applySign digits x.isNegative p.padding padding
  | x => .ok x.text

/-- A real number with fixed places; a percentage is one place narrower. -/
def fixed (v : Value) (padding : Text) (percentage : Bool) : Except Failure Text := do
  let p ← readFixedPadding padding
  match v.toBinary64? with
  | none => throw (.ofCause (.notReal v))
  | some x =>
    let width := if percentage then p.padding.width - 1 else p.padding.width
    fixedBinary64 x ⟨⟨p.padding.flag, width⟩, p.places⟩ padding

/-- A number in percent. -/
def percentage (v : Value) (padding : Text) : Except Failure Text := do
  let hundredfold ← v.timesHundred
  let number ← fixed hundredfold padding true
  return number ++ (['%'] : Text)

end Render

end BraceTemplate
