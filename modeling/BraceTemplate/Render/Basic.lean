import BraceTemplate.Fault
import BraceTemplate.Padding

/-!
# Renderers

A renderer makes a text from a value and a padding, or fails. This module holds what the renderers
of numbers share: the check of a padding, and the sign.
-/

namespace BraceTemplate

/-- Turns a value into text, as a padding asks. -/
abbrev Renderer := Value → Text → Except Failure Text

namespace Render

/-- The padding that a text stands for. -/
def readPadding (t : Text) (code : Option Text) : Except Failure Padding :=
  match Padding.parse? t with
  | some padding => .ok padding
  | none => .error (.ofCause (.invalidPadding t code))

/-- Puts the sign in front of digits and fills them up to the width. Zeros go between sign and
digits, blanks before the sign. A negative number takes no plus sign. `source` is the padding as it
is written. -/
def applySign (digits : Text) (negative : Bool) (padding : Padding) (source : Text) :
    Except Failure Text :=
  match negative, padding.flag with
  | true, .plus => .error (.ofCause (.plusOnNegative source))
  | true, .zero => .ok ('-' :: digits.leftpad (padding.width - 1) '0')
  | true, _ => .ok ((('-' : CodePoint) :: digits).leftpad padding.width ' ')
  | false, .plus => .ok ((('+' : CodePoint) :: digits).leftpad padding.width ' ')
  | false, flag => .ok (digits.leftpad padding.width flag.fill)

end Render

end BraceTemplate
