import BraceTemplate.Number.Binary64
import Mathlib.Algebra.Order.Field.Power
import Mathlib.Data.Rat.Floor
import Mathlib.Tactic.Linarith
import Mathlib.Tactic.Positivity
import Mathlib.Tactic.Ring

/-!
# The range of floating-point numbers

Rounding takes a rational to infinity exactly from a limit on: the middle between the largest number
of the format and the power of two that would come next. The middle itself is a tie, and goes up.
-/

namespace BraceTemplate

/-! ## The nearest integer -/

theorem floor_bounds (q : Rat) : (q.floor : Rat) ≤ q ∧ q < q.floor + 1 := by
  have hhigh := Rat.lt_floor_add_one q
  push_cast at hhigh
  exact ⟨Rat.floor_le q, hhigh⟩

/-- An integer that is not below a number is not below the nearest integer to it. -/
theorem roundHalfEven_le {q : Rat} {n : Int} (h : q ≤ n) : roundHalfEven q ≤ n := by
  obtain ⟨hlow, hhigh⟩ := floor_bounds q
  have hk : q.floor ≤ n := by exact_mod_cast hlow.trans h
  unfold roundHalfEven
  simp only
  split
  · exact hk
  · rename_i hhalf
    have hlt : q.floor < n := by
      by_contra hge
      have hn : (n : Rat) ≤ q.floor := by exact_mod_cast not_lt.mp hge
      linarith
    split <;> omega

/-- An even integer is reached from half a unit below it. -/
theorem le_roundHalfEven_iff {q : Rat} {n : Int} (hn : n % 2 = 0) :
    n ≤ roundHalfEven q ↔ (n : Rat) - 1 / 2 ≤ q := by
  obtain ⟨hlow, hhigh⟩ := floor_bounds q
  unfold roundHalfEven
  simp only
  split
  · rename_i hhalf
    constructor
    · intro h
      have hk : (n : Rat) ≤ q.floor := by exact_mod_cast h
      linarith
    · intro h
      have hk : (n : Rat) < q.floor + 1 := by linarith
      have hk' : n < q.floor + 1 := by exact_mod_cast hk
      omega
  · rename_i hhalf
    split
    · rename_i habove
      constructor
      · intro h
        have hk : (n : Rat) ≤ q.floor + 1 := by exact_mod_cast h
        linarith
      · intro h
        have hk : (n : Rat) < q.floor + 2 := by linarith
        have hk' : n < q.floor + 2 := by exact_mod_cast hk
        omega
    · rename_i habove
      -- a tie, which goes to an even integer
      have htie : q = q.floor + 1 / 2 := by linarith
      constructor
      · intro h
        have hk : n ≤ q.floor + 1 := by omega
        have hk' : (n : Rat) ≤ q.floor + 1 := by exact_mod_cast hk
        linarith
      · intro h
        have hk : (n : Rat) ≤ q.floor + 1 := by linarith
        have hk' : n ≤ q.floor + 1 := by exact_mod_cast hk
        omega

/-! ## The leading bit -/

theorem two_zpow_pos (e : Int) : 0 < (2 : Rat) ^ e :=
  zpow_pos two_pos e

theorem two_zpow_le {d e : Int} (h : d ≤ e) : (2 : Rat) ^ d ≤ (2 : Rat) ^ e :=
  zpow_le_zpow_right₀ one_le_two h

theorem two_zpow_add_natCast (e : Int) (n : Nat) :
    (2 : Rat) ^ (e + n) = 2 ^ n * (2 : Rat) ^ e := by
  rw [zpow_add₀ two_ne_zero, zpow_natCast, mul_comm]

theorem log2_bounds {n : Nat} (h : n ≠ 0) :
    (2 : Rat) ^ n.log2 ≤ n ∧ (n : Rat) < (2 : Rat) ^ (n.log2 + 1) :=
  ⟨by exact_mod_cast Nat.log2_self_le h, by exact_mod_cast Nat.lt_log2_self⟩

/-- The exponent of a positive number is that of its leading bit. -/
theorem binaryExponent_bounds {q : Rat} (hq : 0 < q) :
    (2 : Rat) ^ binaryExponent q ≤ q ∧ q < (2 : Rat) ^ (binaryExponent q + 1) := by
  have hnum : q.num.natAbs ≠ 0 := by
    simpa using hq.ne'
  obtain ⟨hn, hn'⟩ := log2_bounds hnum
  obtain ⟨hd, hd'⟩ := log2_bounds q.den_nz
  have hden : (0 : Rat) < q.den := by exact_mod_cast q.den_pos
  have hvalue : q * q.den = q.num.natAbs := by
    have habs : ((q.num.natAbs : Int) : Rat) = q.num := by
      rw [Int.natAbs_of_nonneg (Rat.num_nonneg.mpr hq.le)]
    rw [Rat.mul_den_eq_num, ← habs, Int.cast_natCast]
  rw [← hvalue] at hn hn'
  set a := q.num.natAbs.log2
  set b := q.den.log2
  have hscale : ∀ k : Int, (2 : Rat) ^ ((a : Int) - b + k) * 2 ^ b = 2 ^ k * 2 ^ a := by
    intro k
    rw [← zpow_natCast, ← zpow_natCast, ← zpow_add₀ two_ne_zero, ← zpow_add₀ two_ne_zero]
    congr 1
    omega
  -- the leading bits alone miss the exponent by one at most
  have hbelow : (2 : Rat) ^ ((a : Int) - b - 1) < q := by
    apply lt_of_mul_lt_mul_right _ hden.le
    calc (2 : Rat) ^ ((a : Int) - b - 1) * q.den
        < 2 ^ ((a : Int) - b - 1) * 2 ^ (b + 1) := mul_lt_mul_of_pos_left hd' (two_zpow_pos _)
      _ = 2 ^ a := by
        have h := hscale (-1)
        rw [pow_succ, ← mul_assoc, sub_eq_add_neg _ 1, h, zpow_neg_one]
        ring
      _ ≤ q * q.den := hn
  have habove : q < (2 : Rat) ^ ((a : Int) - b + 1) := by
    apply lt_of_mul_lt_mul_right _ (pow_pos two_pos b).le
    calc q * 2 ^ b ≤ q * q.den := mul_le_mul_of_nonneg_left hd hq.le
      _ < 2 ^ (a + 1) := hn'
      _ = 2 ^ ((a : Int) - b + 1) * 2 ^ b := by rw [hscale 1, zpow_one, pow_succ, mul_comm]
  unfold binaryExponent
  simp only
  split
  · rename_i h
    exact ⟨h, habove⟩
  · rename_i h
    exact ⟨hbelow.le, by simpa using h⟩

/-! ## The limit -/

namespace Binary64

/-- The middle between the largest number of the format and the power of two above it. -/
def overflowLimit : Rat := (2 ^ 54 - 1) * (2 : Rat) ^ (970 : Int)

/-- The exponent that rounding takes for a positive number. -/
def spacingExponent (q : Rat) : Int :=
  max (-1074) (binaryExponent q - 52)

/-- The mantissa that rounding takes for a positive number, unless it has 54 bits. -/
def nearestMantissa (q : Rat) : Int :=
  roundHalfEven (q / (2 : Rat) ^ spacingExponent q)

theorem isFinite_ofParts {negative : Bool} {mantissa : Nat} {exponent : Int} :
    (ofParts negative mantissa exponent).isFinite = true ↔ Canonical mantissa exponent := by
  unfold ofParts
  split <;> simp_all [isFinite]

theorem quotient_lt {q : Rat} (hq : 0 < q) : q / (2 : Rat) ^ spacingExponent q < 2 ^ 53 := by
  rw [div_lt_iff₀ (two_zpow_pos _), show (2 : Rat) ^ 53 * 2 ^ spacingExponent q =
    2 ^ (spacingExponent q + (53 : Nat)) from (two_zpow_add_natCast _ 53).symm]
  apply (binaryExponent_bounds hq).2.trans_le
  apply two_zpow_le
  unfold spacingExponent
  omega

theorem nearestMantissa_bounds {q : Rat} (hq : 0 < q) :
    0 ≤ nearestMantissa q ∧ nearestMantissa q ≤ 2 ^ 53 := by
  have hpos : 0 < q / (2 : Rat) ^ spacingExponent q := div_pos hq (two_zpow_pos _)
  constructor
  · apply (le_roundHalfEven_iff rfl).mpr
    push_cast
    linarith
  · apply roundHalfEven_le
    exact_mod_cast (quotient_lt hq).le

/-- The mantissa is a full one, unless the exponent is the lowest. -/
theorem nearestMantissa_full {q : Rat} (hq : 0 < q) (h : spacingExponent q ≠ -1074) :
    2 ^ 52 ≤ nearestMantissa q := by
  have hexponent : spacingExponent q + (52 : Nat) = binaryExponent q := by
    unfold spacingExponent at h ⊢
    omega
  have hquotient : (2 : Rat) ^ 52 ≤ q / (2 : Rat) ^ spacingExponent q := by
    rw [le_div_iff₀ (two_zpow_pos _), ← two_zpow_add_natCast, hexponent]
    exact (binaryExponent_bounds hq).1
  apply (le_roundHalfEven_iff rfl).mpr
  push_cast
  linarith

/-- A positive number has the nearest mantissa, and after a carry the next exponent. -/
theorem round_of_pos (negative : Bool) {q : Rat} (hq : 0 < q) :
    round negative q =
      if (nearestMantissa q).toNat = mantissaLimit then
        ofParts negative fullMantissa (spacingExponent q + 1)
      else ofParts negative (nearestMantissa q).toNat (spacingExponent q) := by
  rw [round, if_neg (not_le.mpr hq)]
  rfl

/-- The result is finite if the exponent is in the format, counted after a carry. -/
theorem isFinite_round_iff_exponent (negative : Bool) {q : Rat} (hq : 0 < q) :
    (round negative q).isFinite = true ↔
      spacingExponent q < 971 ∨ spacingExponent q = 971 ∧ nearestMantissa q < 2 ^ 53 := by
  obtain ⟨hnonneg, hle⟩ := nearestMantissa_bounds hq
  have hfull := nearestMantissa_full hq
  have hlowest : -1074 ≤ spacingExponent q := by
    unfold spacingExponent
    omega
  rw [round_of_pos negative hq]
  split
  · rw [isFinite_ofParts]
    unfold Canonical
    simp only [mantissaLimit, fullMantissa] at *
    omega
  · rw [isFinite_ofParts]
    unfold Canonical
    simp only [mantissaLimit, fullMantissa] at *
    omega

/-- At the highest exponent, the mantissa stays below 54 bits up to the limit. -/
theorem nearestMantissa_lt_iff {q : Rat} (h : spacingExponent q = 971) :
    nearestMantissa q < 2 ^ 53 ↔ q < overflowLimit := by
  have hlimit : overflowLimit = (2 ^ 53 - 1 / 2) * (2 : Rat) ^ (971 : Int) := by
    rw [overflowLimit, show (971 : Int) = 970 + (1 : Nat) from rfl, two_zpow_add_natCast]
    ring
  have hiff := le_roundHalfEven_iff (q := q / (2 : Rat) ^ (971 : Int)) (n := 2 ^ 53) rfl
  rw [nearestMantissa, h, ← not_le, hiff, not_le, div_lt_iff₀ (two_zpow_pos _), hlimit,
    Int.cast_pow, Int.cast_ofNat]

/-- **Rounding is finite below the limit and nowhere else.** -/
theorem isFinite_round_iff (negative : Bool) {q : Rat} (hq : 0 < q) :
    (round negative q).isFinite = true ↔ q < overflowLimit := by
  obtain ⟨hlow, hhigh⟩ := binaryExponent_bounds hq
  have hunit : (0 : Rat) < (2 : Rat) ^ (970 : Int) := two_zpow_pos _
  rw [isFinite_round_iff_exponent negative hq]
  -- only at the highest exponent does the mantissa decide
  rcases lt_trichotomy (spacingExponent q) 971 with hexponent | hexponent | hexponent
  · have hlt : q < overflowLimit := by
      calc q < (2 : Rat) ^ (binaryExponent q + 1) := hhigh
        _ ≤ 2 ^ ((970 : Int) + (53 : Nat)) := by
          apply two_zpow_le
          unfold spacingExponent at hexponent
          omega
        _ = 2 ^ 53 * 2 ^ (970 : Int) := two_zpow_add_natCast 970 53
        _ ≤ overflowLimit := mul_le_mul_of_nonneg_right (by norm_num) hunit.le
    simp [hexponent, hlt]
  · rw [← nearestMantissa_lt_iff hexponent]
    simp [hexponent]
  · have hle : overflowLimit ≤ q := by
      calc overflowLimit ≤ 2 ^ 54 * 2 ^ (970 : Int) :=
            mul_le_mul_of_nonneg_right (by norm_num) hunit.le
        _ = (2 : Rat) ^ ((970 : Int) + (54 : Nat)) := (two_zpow_add_natCast 970 54).symm
        _ ≤ 2 ^ binaryExponent q := by
          apply two_zpow_le
          unfold spacingExponent at hexponent
          omega
        _ ≤ q := hlow
    simp [hexponent.not_gt, hexponent.ne', hle]

/-- A rational has a finite nearest number if its size is below the limit. -/
theorem isFinite_ofRat_iff (q : Rat) : (ofRat q).isFinite = true ↔ |q| < overflowLimit := by
  rcases lt_trichotomy q 0 with hq | rfl | hq
  · rw [ofRat, if_pos hq, isFinite_round_iff true (neg_pos.mpr hq), abs_of_neg hq]
  · have hpos : 0 < overflowLimit := mul_pos (by norm_num) (two_zpow_pos _)
    simpa [ofRat, round, zero, isFinite] using hpos
  · rw [ofRat, if_neg hq.not_gt, isFinite_round_iff false hq, abs_of_pos hq]

end Binary64

end BraceTemplate
