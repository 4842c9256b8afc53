import BraceTemplate.Value.Basic

/-!
# Kinds of values

The kind of a value decides which code shows it by default. Whether a fraction is whole is decided
after rounding it to a floating-point number, so a fraction beyond their range has no kind.
-/

namespace BraceTemplate

inductive Kind where
  | textLike
  | whole
  | fractional
  | other
deriving DecidableEq

namespace Kind

def name : Kind → Text
  | .textLike => "string"
  | .whole => "whole"
  | .fractional => "fractional"
  | .other => "other"

def all : List Kind := [.textLike, .whole, .fractional, .other]

def ofName? (name : Text) : Option Kind :=
  all.find? fun kind => kind.name == name

end Kind

/-- The nearest floating-point number to a fraction, if there is a finite one. -/
def roundedFraction? (q : Rat) : Option Binary64 :=
  let x := Binary64.ofRat q
  if x.isFinite then some x else none

/-- A floating-point number without fractional digits. Infinities count as whole. -/
def Binary64.isWhole : Binary64 → Bool
  | .nan => false
  | .infinite _ => true
  | x => x.toInt?.isSome

namespace Value

/-- Whole numbers are shown as integers; nothing is known of a fraction that is too large. -/
def isWhole? : Value → Option Bool
  | .int _ => some true
  | .float x => some x.isWhole
  | .fraction q => (roundedFraction? q).map Binary64.isWhole
  | _ => some false

/-- The kind of a value, unless it is a fraction that is too large. -/
def kind? (v : Value) : Option Kind :=
  match v with
  | .text _ | .bool _ => some .textLike
  | .int _ | .float _ | .fraction _ =>
    v.isWhole?.map fun whole => if whole then .whole else .fractional
  | _ => some .other

end Value

end BraceTemplate
