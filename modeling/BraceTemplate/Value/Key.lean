import BraceTemplate.Value.Basic

/-!
# Keys of mappings

Two keys are the same if they are equal texts or bytes, the same type, sequences of the same keys,
or numbers of equal value, whatever the sort of number; a truth value counts as one or zero. What is
not a number is never the same key again, nor is a function or an object. Values that can change
are no keys, nor is a signalling decimal number.
-/

namespace BraceTemplate

/-! ## Numbers -/

/-- How often two divides a positive number. -/
def twosIn (n : Nat) : Nat :=
  if n = 0 ∨ n % 2 = 1 then 0 else twosIn (n / 2) + 1

/-- A real number or an infinity. A number other than zero is `odd * 10 ^ tens` in one way only if
the numerator and the denominator of `odd` are odd, so that equal numbers have equal parts. -/
inductive Extended where
  | finite (odd : Rat) (tens : Int)
  | infinite (negative : Bool)
deriving DecidableEq

namespace Extended

def zero : Extended := .finite 0 0

/-- The number `q * 10 ^ exponent`. Its odd part is found without computing the power, which may be
huge. -/
def ofScaled (q : Rat) (exponent : Int) : Extended :=
  if q = 0 then zero
  else
    let twos : Int := (twosIn q.num.natAbs : Int) - twosIn q.den
    .finite (q / (10 : Rat) ^ twos) (exponent + twos)

def ofRat (q : Rat) : Extended := ofScaled q 0

/-- The first number is smaller. -/
def isBelow : Extended → Extended → Bool
  | .finite a m, .finite b n => decide (a * (10 : Rat) ^ m < b * (10 : Rat) ^ n)
  | .finite _ _, .infinite negative => !negative
  | .infinite negative, .finite _ _ => negative
  | .infinite a, .infinite b => a && !b

end Extended

/-- What a number is compared by: its exact value. A complex number without imaginary part is a real
one. -/
inductive NumericKey where
  | real (x : Extended)
  | complex (re im : Extended)
deriving DecidableEq

/-- The exact value of a floating-point number. -/
def Binary64.extended? : Binary64 → Option Extended
  | .nan => none
  | .infinite negative => some (.infinite negative)
  | .finite negative m => some (.ofRat (if negative then -m.toRat else m.toRat))

/-- The exact value of a decimal number. -/
def DecimalNumber.extended? : DecimalNumber → Option Extended
  | .nan _ _ _ => none
  | .infinite negative => some (.infinite negative)
  | .finite negative coefficient exponent =>
    some (.ofScaled (if negative then -(coefficient : Rat) else coefficient) exponent)

/-- The exact value of a complex number. -/
def ComplexNumber.key? (z : ComplexNumber) : Option NumericKey :=
  match z.re.extended?, z.im.extended? with
  | some re, some im => some (if im = .zero then .real re else .complex re im)
  | _, _ => none

/-! ## Keys -/

/-- Why a value is no key. -/
inductive KeyDefect where
  /-- Values of this type can change. -/
  | changeable (typeName : Text)
  | signallingNumber
deriving DecidableEq

def KeyDefect.message : KeyDefect → Text
  | .changeable typeName => "unhashable type: '" ++ typeName ++ "'"
  | .signallingNumber => "Cannot hash a signaling NaN value"

namespace Value

/-- The exact value of a number or truth value. -/
def numericKey? : Value → Option NumericKey
  | .bool b => some (.real (.ofRat (if b then 1 else 0)))
  | .int i => some (.real (.ofRat i))
  | .fraction q => some (.real (.ofRat q))
  | .float x => x.extended?.map .real
  | .decimal d => d.extended?.map .real
  | .complex z => z.key?
  | _ => none

mutual

/-- What keeps a value, or the first such item of a tuple, from being a key. -/
def keyDefect? : Value → Option KeyDefect
  | .tuple items => keyDefects? items
  | .decimal (.nan _ true _) => some .signallingNumber
  | .list _ => some (.changeable "list")
  | .mapping name entries => some (.changeable (Value.mapping name entries).fullTypeName)
  | _ => none

def keyDefects? : List Value → Option KeyDefect
  | [] => none
  | item :: rest => (keyDefect? item).or (keyDefects? rest)

end

mutual

/-- The two values are one key. -/
def sameKey : Value → Value → Bool
  | .text a, .text b => a == b
  | .null, .null => true
  | .bytes a, .bytes b => a == b
  | .type a _, .type b _ => a == b
  | .tuple a, .tuple b => sameKeys a b
  | a, b =>
    match a.numericKey?, b.numericKey? with
    | some x, some y => x == y
    | _, _ => false

/-- Sequences of the same length with the same keys at all places. -/
def sameKeys : List Value → List Value → Bool
  | [], [] => true
  | a :: as, b :: bs => sameKey a b && sameKeys as bs
  | _, _ => false

end

/-- The first key comes before the second; only texts, bytes, and real numbers have an order. -/
def precedes? : Value → Value → Option Bool
  | .text a, .text b => some (decide (a < b))
  | .bytes a, .bytes b => some (decide (a < b))
  | a, b =>
    match a.numericKey?, b.numericKey? with
    | some (.real x), some (.real y) => some (x.isBelow y)
    | _, _ => none

/-- The value stored under a key. -/
def lookup? (key : Value) (entries : List (Value × Value)) : Option Value :=
  Entries.find? (sameKey · key) entries

/-- The mapping of a list of pairs: of pairs with the same key the first gives the key and the last
the value. -/
def mappingOf (typeName : Text) (pairs : List (Value × Value)) : Value :=
  .mapping typeName (Entries.ofList sameKey pairs)

/-- Arguments given by name, as a mapping. -/
def ofNamed (named : List (Text × Value)) : Value :=
  .mapping "dict" (named.map fun (name, value) => (.text name, value))

end Value

end BraceTemplate
