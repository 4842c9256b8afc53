import BraceTemplate.Render.Basic

/-!
# Integers

Whole numbers in base two, eight, ten or sixteen. Every real number without fractional digits is
taken for an integer, and so is a truth value; infinities and what is not a number keep their names.
-/

namespace BraceTemplate

/-- The bases in which integers are written. -/
inductive Radix where
  | binary
  | octal
  | decimal
  | hexadecimal
deriving DecidableEq

namespace Radix

def base : Radix → Nat
  | .binary => 2
  | .octal => 8
  | .decimal => 10
  | .hexadecimal => 16

/-- The digits of a number, without leading zeros and in lower case. -/
def digits (r : Radix) (n : Nat) : Text :=
  Text.digits r.base n

def ofBase (base : Int) : Except Failure Radix :=
  match base with
  | 2 => .ok .binary
  | 8 => .ok .octal
  | 10 => .ok .decimal
  | 16 => .ok .hexadecimal
  | _ => .error (.unknownBase base)

end Radix

namespace Render

/-- The integer that a value stands for. Of a fraction that rounds to a whole floating-point number,
it is the integer part. -/
def expectInteger (v : Value) (code : Option Text) : Except Failure Int :=
  match v with
  | .bool b => .ok (if b then 1 else 0)
  | .int i => .ok i
  | .float x =>
    match x.toInt? with
    | some i => .ok i
    | none => .error (.ofCause (.notIntegral v code))
  | .fraction q =>
    match roundedFraction? q with
    | none => .error .quotientTooLarge
    | some x =>
      if x.toInt?.isSome then .ok (q.num.tdiv q.den)
      else .error (.ofCause (.notIntegral v code))
  | v => .error (.ofCause (.notIntegral v code))

/-- The name of a floating-point number that is not finite. -/
def nonFiniteName? : Value → Option Text
  | .float x => if x.isFinite then none else some x.text
  | _ => none

/-- An integer with its sign, in a base. A name is only moved to the right. -/
def integer (v : Value) (padding : Text) (base : Int) (code : Option Text) :
    Except Failure Text := do
  let p ← readPadding padding code
  match nonFiniteName? v with
  | some name => return name.leftpad p.width ' '
  | none =>
    let i ← expectInteger v code
    let radix ← Radix.ofBase base
    applySign (radix.digits i.natAbs) (i < 0) p padding

end Render

end BraceTemplate
