import BraceTemplate.Number.Scientific
import BraceTemplate.Proofs.Number.Exact

/-!
# Rounding decimals

The place of its point tells the size of a decimal up to a factor of ten. So a decimal whose point
is far away lies outside the range of the format, and to decide it by its point alone is to round
it. A decimal is rounded as its value is, whatever its digits and its exponent are.
-/

namespace BraceTemplate

/-! ## Outside the range -/

theorem roundHalfEven_of_lt_half {q : Rat} (hpos : 0 < q) (h : q < 1 / 2) :
    roundHalfEven q = 0 := by
  obtain ⟨hlow, hhigh⟩ := floor_bounds q
  have habove : (-1 : Rat) < q.floor := by linarith
  have hbelow : (q.floor : Rat) < 1 := by linarith
  have hfloor : q.floor = 0 := by
    have habove' : (-1 : Int) < q.floor := by exact_mod_cast habove
    have hbelow' : q.floor < 1 := by exact_mod_cast hbelow
    omega
  unfold roundHalfEven
  simp only [hfloor, Int.cast_zero, sub_zero, if_pos h]

namespace Binary64

theorem ofParts_of_not_finite {negative : Bool} {mantissa : Nat} {exponent : Int}
    (h : (ofParts negative mantissa exponent).isFinite = false) :
    ofParts negative mantissa exponent = .infinite negative := by
  unfold ofParts at h ⊢
  split
  · rename_i hcanonical
    simp [hcanonical, isFinite] at h
  · rfl

/-- From the limit on, rounding goes to infinity. -/
theorem round_of_large (negative : Bool) {q : Rat} (h : overflowLimit ≤ q) :
    round negative q = .infinite negative := by
  have hpos : 0 < q := (mul_pos (by norm_num) (two_zpow_pos _)).trans_le h
  have hinfinite : (round negative q).isFinite = false := by
    rw [Bool.eq_false_iff, ne_eq, isFinite_round_iff negative hpos]
    exact not_lt.mpr h
  rw [round_of_pos negative hpos] at hinfinite ⊢
  split at hinfinite
  · rename_i hcarry
    rw [if_pos hcarry]
    exact ofParts_of_not_finite hinfinite
  · rename_i hcarry
    rw [if_neg hcarry]
    exact ofParts_of_not_finite hinfinite

/-- Below half of the smallest number, rounding goes to zero. -/
theorem round_of_small (negative : Bool) {q : Rat} (hpos : 0 < q)
    (h : q < (2 : Rat) ^ (-1075 : Int)) : round negative q = zero negative := by
  have hleading : binaryExponent q < -1075 :=
    (zpow_lt_zpow_iff_right₀ one_lt_two).mp ((binaryExponent_bounds hpos).1.trans_lt h)
  have hspacing : spacingExponent q = -1074 := by
    unfold spacingExponent
    omega
  have hquotient : q / (2 : Rat) ^ (-1074 : Int) < 1 / 2 := by
    rw [div_lt_iff₀ (two_zpow_pos _)]
    calc q < (2 : Rat) ^ (-1075 : Int) := h
      _ = 1 / 2 * (2 : Rat) ^ (-1074 : Int) := by
        rw [show (-1074 : Int) = -1075 + (1 : Nat) from rfl, two_zpow_add_natCast]
        ring
  have hmantissa : nearestMantissa q = 0 := by
    rw [nearestMantissa, hspacing]
    exact roundHalfEven_of_lt_half (div_pos hpos (two_zpow_pos _)) hquotient
  rw [round_of_pos negative hpos, hmantissa, hspacing]
  rfl

end Binary64

/-! ## The place of the point -/

namespace Scientific

variable {s : Scientific}

theorem ten_zpow_pos (e : Int) : 0 < (10 : Rat) ^ e :=
  zpow_pos (by norm_num) e

theorem ten_zpow_le {d e : Int} (h : d ≤ e) : (10 : Rat) ^ d ≤ (10 : Rat) ^ e :=
  zpow_le_zpow_right₀ (by norm_num) h

theorem length_ofNat_le_iff {n k : Nat} (hk : 0 < k) :
    (Text.ofNat n).length ≤ k ↔ n < 10 ^ k := by
  rw [Text.ofNat, Text.digits, List.length_map]
  exact Nat.length_toDigits_le_iff (by decide) hk

/-- The number of its digits tells the size of a number. -/
theorem length_ofNat_bounds {n : Nat} (h : n ≠ 0) :
    10 ^ ((Text.ofNat n).length - 1) ≤ n ∧ n < 10 ^ (Text.ofNat n).length := by
  refine ⟨?_, (length_ofNat_le_iff (Text.length_ofNat_pos n)).mp le_rfl⟩
  rcases Nat.eq_zero_or_pos ((Text.ofNat n).length - 1) with hone | hmore
  · rw [hone]
    omega
  · rw [← not_lt, ← length_ofNat_le_iff hmore]
    omega

/-- The point tells the size of a decimal. -/
theorem point_bounds (h : s.digits ≠ 0) :
    (10 : Rat) ^ (s.point - 1) ≤ s.toRat ∧ s.toRat < (10 : Rat) ^ s.point := by
  obtain ⟨hlow, hhigh⟩ := length_ofNat_bounds h
  have hpos : 0 < (Text.ofNat s.digits).length := Text.length_ofNat_pos _
  have hsplit : ∀ k : Nat, (10 : Rat) ^ ((k : Int) + s.exponent) = 10 ^ k * 10 ^ s.exponent := by
    intro k
    rw [zpow_add₀ (by norm_num), zpow_natCast]
  have hpoint : s.point - 1 = (((Text.ofNat s.digits).length - 1 : Nat) : Int) + s.exponent := by
    unfold point
    omega
  constructor
  · rw [hpoint, hsplit, toRat]
    exact mul_le_mul_of_nonneg_right (by exact_mod_cast hlow) (ten_zpow_pos _).le
  · rw [point, hsplit, toRat]
    exact mul_lt_mul_of_pos_right (by exact_mod_cast hhigh) (ten_zpow_pos _)

theorem toRat_pos (h : s.digits ≠ 0) : 0 < s.toRat :=
  (ten_zpow_pos _).trans_le (point_bounds h).1

/-- Behind the limit of points, decimals are beyond the largest number of the format. -/
theorem overflowLimit_le_ten_zpow : Binary64.overflowLimit ≤ (10 : Rat) ^ (400 : Int) := by
  calc Binary64.overflowLimit ≤ 2 ^ 54 * (2 : Rat) ^ (970 : Int) :=
        mul_le_mul_of_nonneg_right (by norm_num) (two_zpow_pos _).le
    _ = 2 ^ ((970 : Int) + (54 : Nat)) := (two_zpow_add_natCast 970 54).symm
    _ ≤ 2 ^ ((1200 : Nat) : Int) := two_zpow_le (by decide)
    _ = (2 ^ 3) ^ 400 := by rw [zpow_natCast, ← pow_mul]
    _ ≤ 10 ^ 400 := pow_le_pow_left₀ (by norm_num) (by norm_num) 400
    _ = (10 : Rat) ^ (400 : Int) := (zpow_natCast 10 400).symm

/-- Before it on the other side, they are below half of the smallest number. -/
theorem ten_zpow_le_two_zpow : (10 : Rat) ^ (-401 : Int) ≤ (2 : Rat) ^ (-1075 : Int) := by
  have hpow : (2 : Rat) ^ (1075 : Nat) ≤ 10 ^ (401 : Nat) := by
    calc (2 : Rat) ^ (1075 : Nat) ≤ 2 ^ (3 * 401) := pow_le_pow_right₀ (by norm_num) (by norm_num)
      _ = (2 ^ 3) ^ 401 := pow_mul 2 3 401
      _ ≤ 10 ^ 401 := pow_le_pow_left₀ (by norm_num) (by norm_num) 401
  rw [zpow_neg, zpow_neg]
  exact inv_anti₀ (two_zpow_pos _) (by exact_mod_cast hpow)

/-- **A decimal is rounded as its value is.** -/
theorem toBinary64_eq_round (negative : Bool) (s : Scientific) :
    s.toBinary64 negative = .round negative s.toRat := by
  unfold toBinary64
  by_cases hzero : s.digits = 0
  · rw [if_pos (.inl hzero), toRat, hzero, Nat.cast_zero, zero_mul, Binary64.round_zero]
  · obtain ⟨hlow, hhigh⟩ := point_bounds hzero
    by_cases hsmall : s.point < -pointLimit
    · have hlt : s.toRat < (2 : Rat) ^ (-1075 : Int) := by
        calc s.toRat < (10 : Rat) ^ s.point := hhigh
          _ ≤ 10 ^ (-401 : Int) := ten_zpow_le (by unfold pointLimit at hsmall; omega)
          _ ≤ 2 ^ (-1075 : Int) := ten_zpow_le_two_zpow
      rw [if_pos (.inr hsmall), Binary64.round_of_small negative (toRat_pos hzero) hlt]
    · rw [if_neg (by simp [hzero, hsmall])]
      by_cases hlarge : pointLimit < s.point
      · have hle : Binary64.overflowLimit ≤ s.toRat := by
          calc Binary64.overflowLimit ≤ (10 : Rat) ^ (400 : Int) := overflowLimit_le_ten_zpow
            _ ≤ 10 ^ (s.point - 1) := ten_zpow_le (by unfold pointLimit at hlarge; omega)
            _ ≤ s.toRat := hlow
        rw [if_pos hlarge, Binary64.round_of_large negative hle]
      · rw [if_neg hlarge]

end Scientific

end BraceTemplate
