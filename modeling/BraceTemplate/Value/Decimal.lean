import BraceTemplate.Value.Basic

/-!
# Values as decimal numbers

Besides decimal numbers themselves, a text can write one, and a sequence can consist of its three
parts: the sign, which is zero or one, the digits, and the exponent. A letter in the exponent's
place says that the number is not finite; the digits are then those that what is not a number
carries.
-/

namespace BraceTemplate

/-- Why a value is no decimal number. -/
inductive DecimalDefect where
  /-- Values of this type never are. -/
  | type (name : Text)
  | signal (s : DecimalSignal)
  /-- The number of parts is not three. -/
  | length
  | sign
  | digits
  | exponent
  /-- A text in the exponent's place is none of the letters. -/
  | letter
  /-- The sign or a digit is beyond the range of machine integers. -/
  | wideInteger
  | wideExponent
deriving DecidableEq

namespace DecimalDefect

def message : DecimalDefect → Text
  | .type name => "conversion from " ++ name ++ " to Decimal is not supported"
  | .signal s => s.message
  | .length => "argument must be a sequence of length 3"
  | .sign => "sign must be an integer with the value 0 or 1"
  | .digits => "coefficient must be a tuple of digits"
  | .exponent => "exponent must be an integer"
  | .letter => "string argument in the third position must be 'F', 'n' or 'N'"
  | .wideInteger => "Python int too large to convert to C long"
  | .wideExponent => "Python int too large to convert to C ssize_t"

end DecimalDefect

namespace DecimalParts

/-- Machine integers are at least the negation of this and below it. -/
def machineLimit : Int := 9223372036854775808

def isMachineInteger (i : Int) : Bool :=
  decide (-machineLimit ≤ i) && decide (i < machineLimit)

theorem isMachineInteger_iff {i : Int} :
    isMachineInteger i = true ↔ -machineLimit ≤ i ∧ i < machineLimit := by
  simp [isMachineInteger]

/-- A machine integer from zero to `largest`; `defect` is what any other one or no integer is. -/
def smallInteger (largest : Nat) (defect : DecimalDefect) (v : Value) :
    Except DecimalDefect Nat :=
  match v.integer? with
  | none => .error defect
  | some i =>
    if !isMachineInteger i then .error .wideInteger
    else if 0 ≤ i ∧ i ≤ largest then .ok i.toNat
    else .error defect

/-- The digits of a number, as characters. -/
def digits (v : Value) : Except DecimalDefect Text :=
  match v.items? with
  | none => .error .digits
  | some items => items.mapM fun item => (smallInteger 9 .digits item).map CodePoint.digit

/-- What stands in the exponent's place. -/
inductive Size where
  | finite (exponent : Int)
  | infinite
  | nan (signalling : Bool)

def size (v : Value) : Except DecimalDefect Size :=
  match v with
  | .text t =>
    if t = "F" then .ok .infinite
    else if t = "n" then .ok (.nan false)
    else if t = "N" then .ok (.nan true)
    else .error .letter
  | v =>
    match v.integer? with
    | none => .error .exponent
    | some i => if isMachineInteger i then .ok (.finite i) else .error .wideExponent

/-- The number with these parts, of which the digits are checked last. -/
def number : List Value → Except DecimalDefect DecimalNumber
  | [signPart, digitPart, sizePart] => do
    let sign ← smallInteger 1 .sign signPart
    let size ← size sizePart
    let digits ← digits digitPart
    match size with
    | .finite exponent =>
      (DecimalNumber.finite (sign == 1) (Text.toNat digits) exponent).exact.mapError .signal
    | .infinite => return .infinite (sign == 1)
    | .nan signalling =>
      return .nan (sign == 1) signalling (digits.dropWhile (· == ('0' : CodePoint)))
  | _ => .error .length

end DecimalParts

/-- The decimal number that a value is, writes, or consists of the parts of. -/
def Value.toDecimal (v : Value) : Except DecimalDefect DecimalNumber :=
  match v with
  | .decimal d => .ok d
  | .text t => (DecimalNumber.read t).mapError .signal
  | .list parts | .tuple parts => DecimalParts.number parts
  | v => .error (.type v.fullTypeName)

end BraceTemplate
