import BraceTemplate.Text.Digit
import BraceTemplate.Number.Scientific

/-!
# Reading numerals

Two grammars for numbers that people type. A whole number is a sign and decimal digits. A decimal
has a point, an exponent, or is one of the names `inf`, `infinity` and `nan` in any case. In both,
the digits may come from any script, single underscores may stand between digits, and blanks may
stand around the numeral.
-/

namespace BraceTemplate.Numeral

/-! ## Characters -/

/-- Blanks outside ASCII. -/
def wideBlanks : List (Nat × Nat) :=
  [(0x85, 0x85), (0xA0, 0xA0), (0x1680, 0x1680), (0x2000, 0x200A), (0x2028, 0x2029),
   (0x202F, 0x202F), (0x205F, 0x205F), (0x3000, 0x3000)]

/-- The ASCII form of a character of a numeral, if it has one. -/
def plainChar? (c : CodePoint) : Option CodePoint :=
  if c.toNat < 0x80 then some c
  else if inRanges wideBlanks c then some (' ' : CodePoint)
  else (decimalValue? c).map CodePoint.digit

/-- Blanks and digits of all scripts become ASCII; any other character beyond ASCII spoils the
numeral. -/
def plain? (t : Text) : Option Text :=
  t.mapM plainChar?

/-- Blanks within ASCII: space, tab, and the four line ends. -/
def isBlank (c : CodePoint) : Bool :=
  c ∈ ([' ', '\t', '\n', '\x0b', '\x0c', '\r'] : Text)

/-- The text without the characters at both ends that pass a test. -/
def trimWhile (test : CodePoint → Bool) (t : Text) : Text :=
  ((t.dropWhile test).reverse.dropWhile test).reverse

/-- The text without the blanks at both ends. -/
def trim (t : Text) : Text :=
  trimWhile isBlank t

/-- Drops the underscores behind `before`, each of which must stand between two digits. -/
def ungroupAfter? (before : CodePoint) : Text → Option Text
  | [] => some []
  | '_' :: rest =>
    if before.isDigit && rest.head?.any CodePoint.isDigit then ungroupAfter? '_' rest else none
  | c :: rest => (ungroupAfter? c rest).map (c :: ·)

def ungroup? (t : Text) : Option Text :=
  ungroupAfter? ' ' t

/-- The numeral in ASCII, without blanks around it and underscores inside. -/
def normal? (t : Text) : Option Text :=
  (plain? t).bind fun ascii => ungroup? (trim ascii)

/-- Takes off a sign; the flag says that it is a minus. -/
def takeSign : Text → Bool × Text
  | '-' :: rest => (true, rest)
  | '+' :: rest => (false, rest)
  | t => (false, t)

/-! ## Whole numbers -/

/-- The most digits that a whole number may have. -/
def maxDigits : Nat := 4300

/-- The whole number that a text writes. -/
def readInt? (t : Text) : Option Int :=
  (normal? t).bind fun numeral =>
    let (negative, digits) := takeSign numeral
    if Text.isNumeral digits ∧ digits.length ≤ maxDigits then
      some (if negative then -(Text.toNat digits : Int) else Text.toNat digits)
    else none

/-! ## Decimals -/

/-- The exponent behind the digits of a decimal: nothing, or a letter `e`, a sign and digits. -/
def readExponent? : Text → Option Int
  | [] => some 0
  | c :: rest =>
    if c = 'e' ∨ c = 'E' then
      let (negative, digits) := takeSign rest
      if Text.isNumeral digits then
        some (if negative then -(Text.toNat digits : Int) else Text.toNat digits)
      else none
    else none

/-- Takes off a point and the digits behind it. -/
def takeFraction : Text → Text × Text
  | '.' :: rest => rest.span CodePoint.isDigit
  | t => ([], t)

/-- The decimal that an unsigned text writes: digits with at most one point among them, and an
exponent. -/
def readDecimal? (t : Text) : Option Scientific :=
  let (whole, rest) := t.span CodePoint.isDigit
  let (fraction, rest) := takeFraction rest
  if whole.isEmpty ∧ fraction.isEmpty then none
  else (readExponent? rest).map fun exponent =>
    ⟨Text.toNat (whole ++ fraction), exponent - fraction.length⟩

/-- The floating-point number nearest to the decimal that a text writes. -/
def readFloat? (t : Text) : Option Binary64 :=
  (normal? t).bind fun numeral =>
    let (negative, size) := takeSign numeral
    let name := size.map CodePoint.toLower
    if name = "nan" then some .nan
    else if name = "inf" ∨ name = "infinity" then some (.infinite negative)
    else (readDecimal? size).map (·.toBinary64 negative)

end BraceTemplate.Numeral
