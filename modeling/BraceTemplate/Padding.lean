import BraceTemplate.Text.Basic

/-!
# Paddings

The part of a specification in front of its code. It is a width in digits, which a flag may precede.
A fixed-point padding goes on with a point and a number of places.
-/

namespace BraceTemplate

inductive Flag where
  | absent
  | zero
  | space
  | plus
deriving DecidableEq

namespace Flag

def text : Flag → Text
  | .absent => []
  | .zero => ['0']
  | .space => [' ']
  | .plus => ['+']

/-- The flag that a character stands for. -/
def ofChar? : CodePoint → Option Flag
  | '0' => some .zero
  | ' ' => some .space
  | '+' => some .plus
  | _ => none

/-- What a number is filled up with. -/
def fill : Flag → CodePoint
  | .zero => '0'
  | _ => ' '

end Flag

structure Padding where
  flag : Flag
  width : Nat
deriving DecidableEq

namespace Padding

/-- A width in digits. No digits are no width. -/
def ofDigits? (flag : Flag) (digits : Text) : Option Padding :=
  if digits.all CodePoint.isDigit then some ⟨flag, Text.toNat digits⟩ else none

/-- Reads a padding. A flag counts only in front of further characters, so that a lone `0` is a
width. -/
def parse? (t : Text) : Option Padding :=
  match t with
  | c :: next :: rest =>
    match Flag.ofChar? c with
    | some flag => ofDigits? flag (next :: rest)
    | none => ofDigits? .absent t
  | _ => ofDigits? .absent t

end Padding

/-- A padding and the number of digits behind the decimal point. -/
structure FixedPadding where
  padding : Padding
  places : Nat
deriving DecidableEq

namespace FixedPadding

/-- The places where none are asked for. -/
def defaultPlaces : Nat := 6

/-- The places behind a point: digits, or the default if there are none. -/
def parsePlaces? (t : Text) : Option Nat :=
  if t.isEmpty then some defaultPlaces
  else if t.all CodePoint.isDigit then some (Text.toNat t)
  else none

/-- Reads a padding, which ends at the first point, and the places behind the point. -/
def parse? (t : Text) : Option FixedPadding :=
  match Padding.parse? (t.takeWhile (· != ('.' : CodePoint))),
    parsePlaces? ((t.dropWhile (· != ('.' : CodePoint))).drop 1) with
  | some padding, some places => some ⟨padding, places⟩
  | _, _ => none

end FixedPadding

end BraceTemplate
