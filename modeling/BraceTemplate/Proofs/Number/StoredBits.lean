import BraceTemplate.Number.Binary64

/-!
# Numbers in 64 bits

A number takes up 64 bits: its sign, its exponent and its fraction. Taken out of them and stored
again, it gives the same bits, so that no two patterns are one number. The patterns that are no
number are the exception; all of them are the same.
-/

namespace BraceTemplate.Binary64

/-- The number of words of 64 bits. -/
abbrev wordCount : Nat := 0x10000000000000000

/-- The word with this sign, this exponent field and this fraction field. -/
def word (negative : Bool) (exponent fraction : Nat) : Nat :=
  (if negative then signBit else 0) + (exponent * fullMantissa + fraction)

variable {negative : Bool} {exponent fraction bits : Nat}

/-- A word is made of its three fields. -/
theorem word_of_fields (h : bits < wordCount) :
    word (decide (bits / signBit % 2 = 1)) (bits / fullMantissa % exponentLimit)
      (bits % fullMantissa) = bits := by
  have hsign : bits / signBit < 2 := by
    simp only [signBit, wordCount] at *
    omega
  by_cases hnegative : bits / signBit % 2 = 1
  · simp only [word, hnegative, decide_true, if_true]
    simp only [signBit, fullMantissa, exponentLimit] at *
    omega
  · simp only [word, hnegative, decide_false, Bool.false_eq_true, if_false]
    simp only [signBit, fullMantissa, exponentLimit] at *
    omega

theorem ofParts_of_canonical {mantissa : Nat} {e : Int} (h : Canonical mantissa e) :
    ofParts negative mantissa e = .finite negative ⟨mantissa, e, h⟩ := by
  rw [ofParts, dif_pos h]

/-- Fields that are taken out and stored again are the same, unless they are no number. -/
theorem toBits_ofFields (he : exponent < exponentLimit) (hf : fraction < fullMantissa)
    (hnumber : ofFields negative exponent fraction ≠ .nan) :
    toBits (ofFields negative exponent fraction) = word negative exponent fraction := by
  by_cases hlast : exponent = 2047
  · by_cases hzero : fraction = 0
    · simp only [ofFields, toBits, word, hlast, hzero, if_true, Nat.add_zero]
    · exact absurd (by simp only [ofFields, hlast, hzero, if_true, if_false]) hnumber
  · by_cases hfirst : exponent = 0
    · have hcanonical : Canonical fraction (-1074) :=
        ⟨Nat.lt_trans hf (by decide), by decide, by decide, .inr rfl⟩
      have hfields : ofFields negative exponent fraction =
          .finite negative ⟨fraction, -1074, hcanonical⟩ := by
        rw [ofFields, if_neg hlast, if_pos hfirst, ofParts_of_canonical hcanonical]
      rw [hfields, toBits_of_subnormal negative _ hf, word, hfirst]
    · have hcanonical : Canonical (fullMantissa + fraction) ((exponent : Int) - 1075) := by
        simp only [Canonical, fullMantissa, mantissaLimit, exponentLimit] at *
        omega
      have hfields : ofFields negative exponent fraction =
          .finite negative ⟨fullMantissa + fraction, (exponent : Int) - 1075, hcanonical⟩ := by
        rw [ofFields, if_neg hlast, if_neg hfirst, ofParts_of_canonical hcanonical]
      have hexponent : ((exponent : Int) - 1075 + 1075).toNat = exponent := by omega
      rw [hfields, toBits_of_normal negative _ (Nat.le_add_right _ _), word]
      simp only [hexponent, Nat.add_sub_cancel_left]

/-- **A number is stored in the bits that it was taken from.** -/
theorem toBits_ofBits (h : bits < wordCount) (hnumber : ofBits bits ≠ .nan) :
    toBits (ofBits bits) = bits := by
  have he : bits / fullMantissa % exponentLimit < exponentLimit := Nat.mod_lt _ (by decide)
  have hf : bits % fullMantissa < fullMantissa := Nat.mod_lt _ (by decide)
  calc toBits (ofBits bits)
      = word (decide (bits / signBit % 2 = 1)) (bits / fullMantissa % exponentLimit)
          (bits % fullMantissa) := toBits_ofFields he hf hnumber
    _ = bits := word_of_fields h

end BraceTemplate.Binary64
