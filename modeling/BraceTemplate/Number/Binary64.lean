/-!
# Binary floating-point numbers

The 64-bit binary format as exact data: a finite number is a sign and a magnitude
`mantissa * 2 ^ exponent`, written in the one way the format stores it. Rounding takes any
non-negative rational to the nearest number of the format, a tie to the even mantissa, and what lies
beyond the largest magnitude to infinity. Arithmetic is exact arithmetic followed by one rounding.
-/

namespace BraceTemplate

/-- A mantissa of 53 bits is at least `2 ^ 52`. -/
abbrev fullMantissa : Nat := 0x10000000000000

/-- A mantissa is below `2 ^ 53`. -/
abbrev mantissaLimit : Nat := 0x20000000000000

/-- A mantissa has at most 53 bits, and fewer only at the lowest exponent. -/
def Canonical (mantissa : Nat) (exponent : Int) : Prop :=
  mantissa < mantissaLimit ∧ -1074 ≤ exponent ∧ exponent ≤ 971 ∧
    (fullMantissa ≤ mantissa ∨ exponent = -1074)

instance (mantissa : Nat) (exponent : Int) : Decidable (Canonical mantissa exponent) :=
  inferInstanceAs (Decidable (_ ∧ _))

/-- The size of a finite number, `mantissa * 2 ^ exponent`. Two magnitudes of one value are equal.
-/
structure Magnitude where
  mantissa : Nat
  exponent : Int
  canonical : Canonical mantissa exponent
deriving DecidableEq

/-- A number of the 64-bit binary format. All patterns that are not a number are one. -/
inductive Binary64 where
  | nan
  | infinite (negative : Bool)
  | finite (negative : Bool) (magnitude : Magnitude)
deriving DecidableEq

namespace Magnitude

def zero : Magnitude := ⟨0, -1074, by decide⟩

/-- The exact value. -/
def toRat (m : Magnitude) : Rat :=
  (m.mantissa : Rat) * (2 : Rat) ^ m.exponent

end Magnitude

/-! ## Rounding -/

/-- The nearest integer; of two equally near ones the even one. -/
def roundHalfEven (q : Rat) : Int :=
  let k := q.floor
  if q - k < 1 / 2 then k
  else if 1 / 2 < q - k then k + 1
  else k + k % 2

/-- For a positive `q`, the exponent of the largest power of two that is not above it. -/
def binaryExponent (q : Rat) : Int :=
  let k : Int := (q.num.natAbs.log2 : Int) - (q.den.log2 : Int)
  if (2 : Rat) ^ k ≤ q then k else k - 1

namespace Binary64

def zero (negative : Bool) : Binary64 := .finite negative .zero

/-- The number with these parts, infinity if the exponent is too large for the format. -/
def ofParts (negative : Bool) (mantissa : Nat) (exponent : Int) : Binary64 :=
  if h : Canonical mantissa exponent then .finite negative ⟨mantissa, exponent, h⟩
  else .infinite negative

/-- The number nearest to a non-negative rational, with the given sign. The spacing of the format
around `q` is the power of two 52 places below its leading bit, but at least `2 ^ (-1074)`. -/
def round (negative : Bool) (q : Rat) : Binary64 :=
  if q ≤ 0 then zero negative
  else
    let exponent := max (-1074) (binaryExponent q - 52)
    let mantissa := (roundHalfEven (q / (2 : Rat) ^ exponent)).toNat
    if mantissa = mantissaLimit then ofParts negative fullMantissa (exponent + 1)
    else ofParts negative mantissa exponent

/-- The number nearest to a rational; zero is positive. -/
def ofRat (q : Rat) : Binary64 :=
  if q < 0 then round true (-q) else round false q

def ofInt (i : Int) : Binary64 := ofRat i

/-! ## Parts and classes -/

/-- The exact value of a finite number. -/
def toRat? : Binary64 → Option Rat
  | .finite negative m => some (if negative then -m.toRat else m.toRat)
  | _ => none

def isFinite : Binary64 → Bool
  | .finite _ _ => true
  | _ => false

/-- The value of a finite number that is a whole number. -/
def toInt? (x : Binary64) : Option Int :=
  x.toRat?.bind fun q => if q.den = 1 then some q.num else none

/-- Below zero; a negative zero is not. -/
def isNegative : Binary64 → Bool
  | .nan => false
  | .infinite negative => negative
  | .finite negative m => negative && m.mantissa != 0

/-! ## Stored bits -/

/-- The highest of 64 bits. -/
abbrev signBit : Nat := 0x8000000000000000

/-- The exponents that 11 bits can store. -/
abbrev exponentLimit : Nat := 0x800

/-- The number with this exponent field and fraction field. -/
def ofFields (negative : Bool) (exponent fraction : Nat) : Binary64 :=
  if exponent = 2047 then
    if fraction = 0 then .infinite negative else .nan
  else if exponent = 0 then ofParts negative fraction (-1074)
  else ofParts negative (fullMantissa + fraction) ((exponent : Int) - 1075)

/-- The number stored in 64 bits: a sign bit, 11 bits of exponent, 52 bits of fraction. -/
def ofBits (bits : Nat) : Binary64 :=
  ofFields (decide (bits / signBit % 2 = 1)) (bits / fullMantissa % exponentLimit)
    (bits % fullMantissa)

/-- The 64 bits that store a number; what is not a number has one pattern. -/
def toBits : Binary64 → Nat
  | .nan => 2047 * fullMantissa + 0x8000000000000
  | .infinite negative => (if negative then signBit else 0) + 2047 * fullMantissa
  | .finite negative m =>
    (if negative then signBit else 0) +
      if m.mantissa < fullMantissa then m.mantissa
      else (m.exponent + 1075).toNat * fullMantissa + (m.mantissa - fullMantissa)

theorem fields_of_word {s exponent fraction : Nat} (hs : s < 2) (he : exponent < exponentLimit)
    (hf : fraction < fullMantissa) :
    (s * signBit + (exponent * fullMantissa + fraction)) / signBit % 2 = s ∧
      (s * signBit + (exponent * fullMantissa + fraction)) / fullMantissa % exponentLimit =
        exponent ∧
      (s * signBit + (exponent * fullMantissa + fraction)) % fullMantissa = fraction := by
  simp only [signBit, fullMantissa, exponentLimit] at *
  refine ⟨?_, ?_, ?_⟩ <;> omega

theorem ofBits_fields (negative : Bool) {exponent fraction : Nat} (he : exponent < exponentLimit)
    (hf : fraction < fullMantissa) :
    ofBits ((if negative then signBit else 0) + (exponent * fullMantissa + fraction)) =
      ofFields negative exponent fraction := by
  cases negative
  · obtain ⟨h1, h2, h3⟩ := fields_of_word (s := 0) (by decide) he hf
    simp only [Nat.zero_mul] at h1 h2 h3
    simp only [ofBits, Bool.false_eq_true, if_false, h1, h2, h3]
    rfl
  · obtain ⟨h1, h2, h3⟩ := fields_of_word (s := 1) (by decide) he hf
    simp only [Nat.one_mul] at h1 h2 h3
    simp only [ofBits, if_true, h1, h2, h3]
    rfl

theorem toBits_of_subnormal (negative : Bool) (m : Magnitude) (hm : m.mantissa < fullMantissa) :
    toBits (.finite negative m) =
      (if negative then signBit else 0) + (0 * fullMantissa + m.mantissa) := by
  rw [toBits, if_pos hm, Nat.zero_mul, Nat.zero_add]

theorem toBits_of_normal (negative : Bool) (m : Magnitude) (hm : fullMantissa ≤ m.mantissa) :
    toBits (.finite negative m) =
      (if negative then signBit else 0) +
        ((m.exponent + 1075).toNat * fullMantissa + (m.mantissa - fullMantissa)) := by
  rw [toBits, if_neg (Nat.not_lt.2 hm)]

/-- Stored and taken out again, a number is unchanged. -/
theorem ofBits_toBits (x : Binary64) : ofBits (toBits x) = x := by
  match x with
  | .nan => decide
  | .infinite negative => cases negative <;> decide
  | .finite negative m =>
    obtain ⟨hm, hlo, hhi, hform⟩ := id m.canonical
    by_cases hs : m.mantissa < fullMantissa
    · have he : m.exponent = -1074 := hform.resolve_left (Nat.not_le.2 hs)
      rw [toBits_of_subnormal negative m hs, ofBits_fields negative (by decide) hs]
      have hc : Canonical m.mantissa (-1074) := he ▸ m.canonical
      obtain ⟨mantissa, exponent, _⟩ := m
      subst he
      simp [ofFields, ofParts, hc]
    · have hn : fullMantissa ≤ m.mantissa := Nat.not_lt.1 hs
      have hrest : m.mantissa - fullMantissa < fullMantissa := by
        simp only [fullMantissa, mantissaLimit] at *
        omega
      have hword : (m.exponent + 1075).toNat < exponentLimit := by
        simp only [exponentLimit]
        omega
      rw [toBits_of_normal negative m hn, ofBits_fields negative hword hrest]
      have h1 : (m.exponent + 1075).toNat ≠ 2047 := by omega
      have h2 : (m.exponent + 1075).toNat ≠ 0 := by omega
      have h3 : fullMantissa + (m.mantissa - fullMantissa) = m.mantissa := Nat.add_sub_cancel' hn
      have h4 : (((m.exponent + 1075).toNat : Nat) : Int) - 1075 = m.exponent := by omega
      simp only [ofFields, h1, h2, if_false, h3, h4]
      simp [ofParts, m.canonical]

/-! ## Arithmetic -/

/-- The number with its sign turned. -/
def neg : Binary64 → Binary64
  | .nan => .nan
  | .infinite negative => .infinite (!negative)
  | .finite negative m => .finite (!negative) m

def mul : Binary64 → Binary64 → Binary64
  | .nan, _ => .nan
  | _, .nan => .nan
  | .infinite a, .infinite b => .infinite (a ^^ b)
  | .infinite a, .finite b m => if m.mantissa = 0 then .nan else .infinite (a ^^ b)
  | .finite a m, .infinite b => if m.mantissa = 0 then .nan else .infinite (a ^^ b)
  | .finite a m, .finite b n => round (a ^^ b) (m.toRat * n.toRat)

/-- A sum that is exactly zero is negative only if both terms are. -/
def add : Binary64 → Binary64 → Binary64
  | .nan, _ => .nan
  | _, .nan => .nan
  | .infinite a, .infinite b => if a = b then .infinite a else .nan
  | .infinite a, .finite _ _ => .infinite a
  | .finite _ _, .infinite b => .infinite b
  | .finite a m, .finite b n =>
    let sum := (if a then -m.toRat else m.toRat) + (if b then -n.toRat else n.toRat)
    if sum = 0 then zero (a && b) else ofRat sum

def hundred : Binary64 := ofInt 100

/-- A hundred times the number, rounded once. -/
def timesHundred (x : Binary64) : Binary64 := mul x hundred

end Binary64

end BraceTemplate
