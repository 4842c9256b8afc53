import BraceTemplate.Proofs.Number.Range

/-!
# Exact numbers

Rounding leaves a number of the format as it is, but for the sign of a zero, which a rational does
not have. So a floating-point number and the rational of the same value are rounded to the same
number, and so are their hundredfolds.
-/

namespace BraceTemplate

/-! ## The nearest integer and the leading bit -/

theorem roundHalfEven_intCast (n : Int) : roundHalfEven n = n := by
  have hfloor : (n : Rat).floor = n := Rat.floor_intCast n
  unfold roundHalfEven
  simp only [hfloor, sub_self]
  rw [if_pos (by norm_num)]

/-- Between two neighbouring powers of two, the lower one has the exponent. -/
theorem binaryExponent_eq {q : Rat} {e : Int} (hlow : (2 : Rat) ^ e ≤ q)
    (hhigh : q < (2 : Rat) ^ (e + 1)) : binaryExponent q = e := by
  obtain ⟨hlow', hhigh'⟩ := binaryExponent_bounds ((two_zpow_pos e).trans_le hlow)
  have hbelow : binaryExponent q < e + 1 :=
    (zpow_lt_zpow_iff_right₀ one_lt_two).mp (hlow'.trans_lt hhigh)
  have habove : e < binaryExponent q + 1 :=
    (zpow_lt_zpow_iff_right₀ one_lt_two).mp (hlow.trans_lt hhigh')
  omega

/-! ## Magnitudes -/

namespace Magnitude

theorem toRat_pos {m : Magnitude} (h : m.mantissa ≠ 0) : 0 < m.toRat :=
  mul_pos (by exact_mod_cast Nat.pos_of_ne_zero h) (two_zpow_pos _)

theorem toRat_of_mantissa_eq_zero {m : Magnitude} (h : m.mantissa = 0) : m.toRat = 0 := by
  simp [toRat, h]

/-- The zero magnitude is written in one way. -/
theorem eq_zero {m : Magnitude} (h : m.mantissa = 0) : m = zero := by
  obtain ⟨mantissa, exponent, hcanonical⟩ := m
  obtain rfl : mantissa = 0 := h
  obtain ⟨-, -, -, hfull⟩ := id hcanonical
  obtain rfl : exponent = -1074 := hfull.resolve_left (by decide)
  rfl

theorem toRat_lt (m : Magnitude) : m.toRat < (2 : Rat) ^ (m.exponent + (53 : Nat)) := by
  have hmantissa : (m.mantissa : Rat) < 2 ^ 53 := by
    exact_mod_cast m.canonical.1
  rw [two_zpow_add_natCast]
  exact mul_lt_mul_of_pos_right hmantissa (two_zpow_pos _)

/-- Rounding finds the exponent that a magnitude has. -/
theorem spacingExponent_toRat {m : Magnitude} (h : m.mantissa ≠ 0) :
    Binary64.spacingExponent m.toRat = m.exponent := by
  obtain ⟨-, hlowest, -, hfull⟩ := id m.canonical
  unfold Binary64.spacingExponent
  rcases hfull with hfull | hexponent
  · have hlow : (2 : Rat) ^ (m.exponent + (52 : Nat)) ≤ m.toRat := by
      rw [two_zpow_add_natCast]
      exact mul_le_mul_of_nonneg_right (by exact_mod_cast hfull) (two_zpow_pos _).le
    have hleading := binaryExponent_eq hlow (by
      rw [show m.exponent + (52 : Nat) + 1 = m.exponent + (53 : Nat) from by omega]
      exact m.toRat_lt)
    omega
  · -- the lowest exponent is kept, however small the magnitude is
    obtain ⟨hlow, -⟩ := binaryExponent_bounds (toRat_pos h)
    have hleading : binaryExponent m.toRat < m.exponent + (53 : Nat) :=
      (zpow_lt_zpow_iff_right₀ one_lt_two).mp (hlow.trans_lt m.toRat_lt)
    omega

theorem nearestMantissa_toRat {m : Magnitude} (h : m.mantissa ≠ 0) :
    Binary64.nearestMantissa m.toRat = m.mantissa := by
  have hquotient : m.toRat / (2 : Rat) ^ m.exponent = (m.mantissa : Int) := by
    rw [toRat, mul_div_assoc, div_self (two_zpow_pos _).ne', mul_one, Int.cast_natCast]
  rw [Binary64.nearestMantissa, spacingExponent_toRat h, hquotient, roundHalfEven_intCast]

/-- **A number of the format is rounded to itself.** -/
theorem round_toRat {m : Magnitude} (h : m.mantissa ≠ 0) (negative : Bool) :
    Binary64.round negative m.toRat = .finite negative m := by
  rw [Binary64.round_of_pos negative (toRat_pos h), nearestMantissa_toRat h,
    spacingExponent_toRat h, Int.toNat_natCast, if_neg m.canonical.1.ne, Binary64.ofParts,
    dif_pos m.canonical]

end Magnitude

namespace Binary64

/-! ## Values -/

/-- A number is an integer if its value is. -/
theorem toInt?_eq_some_iff {x : Binary64} {i : Int} :
    x.toInt? = some i ↔ x.toRat? = some (i : Rat) := by
  unfold toInt?
  constructor
  · intro h
    obtain ⟨q, hq, hi⟩ := Option.bind_eq_some_iff.mp h
    split at hi
    · rename_i hden
      rw [hq, ← Option.some.inj hi, Rat.coe_int_num_of_den_eq_one hden]
    · cases hi
  · intro h
    simp [h]

theorem toRat?_eq_some_iff {x : Binary64} {q : Rat} :
    x.toRat? = some q ↔
      ∃ negative m, x = .finite negative m ∧ q = if negative then -m.toRat else m.toRat := by
  cases x with
  | finite negative m => simp [toRat?, eq_comm]
  | _ => simp [toRat?]

theorem isFinite_of_toRat? {x : Binary64} {q : Rat} (h : x.toRat? = some q) :
    x.isFinite = true := by
  obtain ⟨negative, m, rfl, -⟩ := toRat?_eq_some_iff.mp h
  rfl

theorem toRat?_zero (negative : Bool) : (zero negative).toRat? = some 0 := by
  simp [zero, toRat?, Magnitude.toRat_of_mantissa_eq_zero (m := Magnitude.zero) rfl]

/-! ## Numbers that agree -/

/-- The numbers are equal, but that zeros may have either sign. -/
def Agrees (x y : Binary64) : Prop :=
  x = y ∨ (∃ a, x = zero a) ∧ ∃ b, y = zero b

theorem round_zero (negative : Bool) : round negative 0 = zero negative := by
  simp [round]

/-- A rational is rounded as its size is, with its sign. -/
theorem ofRat_signed {q : Rat} (hq : 0 < q) (negative : Bool) :
    ofRat (if negative then -q else q) = round negative q := by
  cases negative
  · exact if_neg hq.not_gt
  · simp [ofRat, hq]

/-- Every finite number agrees with what its value is rounded to. -/
theorem agrees_ofRat {x : Binary64} {q : Rat} (h : x.toRat? = some q) : Agrees x (ofRat q) := by
  obtain ⟨negative, m, rfl, rfl⟩ := toRat?_eq_some_iff.mp h
  by_cases hm : m.mantissa = 0
  · refine .inr ⟨⟨negative, by rw [Magnitude.eq_zero hm, zero]⟩, false, ?_⟩
    simp [Magnitude.toRat_of_mantissa_eq_zero hm, ofRat, round_zero]
  · exact .inl (by rw [ofRat_signed (Magnitude.toRat_pos hm), Magnitude.round_toRat hm])

/-- Numbers that agree have the same value. -/
theorem Agrees.toRat?_eq {x y : Binary64} (h : Agrees x y) : x.toRat? = y.toRat? := by
  rcases h with rfl | ⟨⟨a, rfl⟩, b, rfl⟩
  · rfl
  · rw [toRat?_zero, toRat?_zero]

/-! ## Hundredfolds -/

/-- The size of a hundred. -/
def hundredSize : Magnitude := ⟨0x19000000000000, -46, by decide⟩

theorem hundredSize_toRat : hundredSize.toRat = 100 := by
  norm_num [hundredSize, Magnitude.toRat]

theorem hundred_eq : hundred = .finite false hundredSize := by
  rw [← Magnitude.round_toRat (by decide) false, hundredSize_toRat, hundred, ofInt, ofRat]
  norm_num

/-- A hundred times a finite number is rounded as the rational hundredfold is. -/
theorem agrees_timesHundred {x : Binary64} {q : Rat} (h : x.toRat? = some q) :
    Agrees x.timesHundred (ofRat (q * 100)) := by
  obtain ⟨negative, m, rfl, rfl⟩ := toRat?_eq_some_iff.mp h
  have hproduct : timesHundred (.finite negative m) = round negative (m.toRat * 100) := by
    rw [timesHundred, hundred_eq, mul, hundredSize_toRat, Bool.xor_false]
  rw [hproduct]
  by_cases hm : m.mantissa = 0
  · have hzero := Magnitude.toRat_of_mantissa_eq_zero hm
    refine .inr ⟨⟨negative, by rw [hzero, zero_mul, round_zero]⟩, false, ?_⟩
    simp [hzero, ofRat, round_zero]
  · have hpos : 0 < m.toRat * 100 := mul_pos (Magnitude.toRat_pos hm) (by norm_num)
    refine .inl ?_
    rw [← ofRat_signed hpos negative]
    cases negative <;> simp

end Binary64

end BraceTemplate
