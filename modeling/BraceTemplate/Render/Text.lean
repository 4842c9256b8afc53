import BraceTemplate.Render.Integer

/-!
# Texts and characters

The default text of a value, filled up on the right, and the character of a code point, filled up on
the left.
-/

namespace BraceTemplate.Render

/-- The default text of a value. Only the width of the padding counts. -/
def string (v : Value) (padding : Text) : Except Failure Text := do
  let p ← readPadding padding (some "s")
  return v.stringify.rightpad p.width ' '

/-- The largest code point. -/
def maxCodePoint : Int := 0x10FFFF

/-- The code point whose number is the value, which may be a surrogate. Only the width of the
padding counts. -/
def char (v : Value) (padding : Text) : Except Failure Text := do
  let p ← readPadding padding (some "c")
  match v with
  | .bool _ => throw (.ofCause (.notIntegral v (some "c")))
  | _ =>
    let point ← expectInteger v (some "c")
    if 0 ≤ point ∧ point ≤ maxCodePoint then
      return [CodePoint.ofNat point.toNat].leftpad p.width ' '
    else throw (.ofCause (.codePointOutOfRange point))

end BraceTemplate.Render
