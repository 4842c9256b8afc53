import BraceTemplate.Number.Shortest

/-!
# Complex numbers

A pair of floating-point numbers. A number whose real part is positive zero is written as its
imaginary part alone, any other as a sum in parentheses.
-/

namespace BraceTemplate

structure ComplexNumber where
  re : Binary64
  im : Binary64
deriving DecidableEq

namespace ComplexNumber

/-- The imaginary part behind its sign, which only a negative number brings along. -/
def signedPart (x : Binary64) : Text :=
  let digits := x.write .component
  if digits.head? = some ('-' : CodePoint) then digits else '+' :: digits

def text (z : ComplexNumber) : Text :=
  if z.re = .zero false then z.im.write .component ++ (['j'] : Text)
  else ('(' : CodePoint) :: z.re.write .component ++ signedPart z.im ++ ("j)" : Text)

/-- The product with `100 + 0i`, each part a difference or sum of rounded products. -/
def timesHundred (z : ComplexNumber) : ComplexNumber where
  re := .add (.mul z.re .hundred) (.neg (.mul z.im (.zero false)))
  im := .add (.mul z.re (.zero false)) (.mul z.im .hundred)

end ComplexNumber

end BraceTemplate
