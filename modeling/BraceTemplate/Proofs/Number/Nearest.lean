import BraceTemplate.Proofs.Number.Exact

/-!
# Numbers that are rounded to integers

Rounding moves a number by half of the spacing of the format at most. So the floating-point number
nearest to a rational is an integer only if an integer is as near as that. The converse holds too:
where the spacing is less than one, every integer is an even multiple of it and wins a tie, and
where it is not, all floating-point numbers are integers.
-/

namespace BraceTemplate

/-! ## The nearest integer -/

theorem abs_sub_roundHalfEven_le (q : Rat) : |q - roundHalfEven q| ≤ 1 / 2 := by
  obtain ⟨hlow, hhigh⟩ := floor_bounds q
  unfold roundHalfEven
  simp only
  rw [abs_le]
  split
  · constructor <;> linarith
  · split
    · constructor <;> push_cast <;> linarith
    · -- a tie is moved by half a unit, up or down
      have htie : q = q.floor + 1 / 2 := by linarith
      rcases Int.emod_two_eq_zero_or_one q.floor with heven | hodd
      · rw [heven, add_zero]
        constructor <;> linarith
      · rw [hodd]
        constructor <;> push_cast <;> linarith

/-- An even integer at half a unit or less is the nearest one, also in a tie. -/
theorem roundHalfEven_eq_of_even {q : Rat} {n : Int} (hn : n % 2 = 0) (h : |q - n| ≤ 1 / 2) :
    roundHalfEven q = n := by
  obtain ⟨hlow, hhigh⟩ := abs_le.mp h
  obtain ⟨hbelow, habove⟩ := abs_le.mp (abs_sub_roundHalfEven_le q)
  refine le_antisymm ?_ ((le_roundHalfEven_iff hn).mpr (by linarith))
  by_contra hgt
  have hnext : n + 1 ≤ roundHalfEven q := by omega
  have hle : (roundHalfEven q : Rat) ≤ n + 1 := by linarith
  have hodd : roundHalfEven q = n + 1 := by
    have hle' : roundHalfEven q ≤ n + 1 := by exact_mod_cast hle
    omega
  -- only the tie is left, and it goes to the even neighbour below
  have hodd' : (roundHalfEven q : Rat) = n + 1 := by exact_mod_cast hodd
  have hfloor : q.floor = n := by
    obtain ⟨hfloor, hfloor'⟩ := floor_bounds q
    have hlt : (q.floor : Rat) < n + 1 := by linarith
    have hgt : (n : Rat) < q.floor + 1 := by linarith
    have hlt' : q.floor < n + 1 := by exact_mod_cast hlt
    have hgt' : n < q.floor + 1 := by exact_mod_cast hgt
    omega
  unfold roundHalfEven at hodd
  simp only [hfloor] at hodd
  split at hodd
  · omega
  · split at hodd
    · linarith
    · omega

namespace Binary64

/-! ## The value of the nearest number -/

/-- Below the limit, rounding gives the nearest mantissa its exponent. -/
theorem toRat?_round (negative : Bool) {q : Rat} (hq : 0 < q) (hlimit : q < overflowLimit) :
    (round negative q).toRat? =
      some (if negative then -(nearestMantissa q * (2 : Rat) ^ spacingExponent q)
        else nearestMantissa q * (2 : Rat) ^ spacingExponent q) := by
  have hfinite := (isFinite_round_iff negative hq).mpr hlimit
  have hmantissa : ((nearestMantissa q).toNat : Rat) = nearestMantissa q := by
    exact_mod_cast Int.toNat_of_nonneg (nearestMantissa_bounds hq).1
  have hparts : ∀ mantissa exponent, (ofParts negative mantissa exponent).isFinite = true →
      (ofParts negative mantissa exponent).toRat? =
        some (if negative then -((mantissa : Rat) * (2 : Rat) ^ exponent)
          else (mantissa : Rat) * (2 : Rat) ^ exponent) := by
    intro mantissa exponent h
    rw [ofParts, dif_pos (isFinite_ofParts.mp h)]
    rfl
  rw [round_of_pos negative hq] at hfinite ⊢
  split at hfinite
  · rename_i hcarry
    have hvalue : ((fullMantissa : Nat) : Rat) * (2 : Rat) ^ (spacingExponent q + 1) =
        nearestMantissa q * (2 : Rat) ^ spacingExponent q := by
      rw [← hmantissa, hcarry, zpow_add_one₀ two_ne_zero]
      norm_num [fullMantissa, mantissaLimit]
      ring
    rw [if_pos hcarry, hparts _ _ hfinite, hvalue]
  · rename_i hcarry
    rw [if_neg hcarry, hparts _ _ hfinite, hmantissa]

/-! ## Integers nearby -/

/-- Half of the spacing of the format at the size of a number. -/
def halfSpacing (q : Rat) : Rat :=
  (2 : Rat) ^ spacingExponent |q| / 2

/-- An integer is at most half of the spacing away. -/
def NearInteger (q : Rat) : Prop :=
  ∃ n : Int, |q - n| ≤ halfSpacing q

theorem nearInteger_intCast (n : Int) : NearInteger n := by
  refine ⟨n, ?_⟩
  rw [sub_self, abs_zero]
  exact div_nonneg (two_zpow_pos _).le two_pos.le

theorem nearInteger_neg_iff {q : Rat} : NearInteger (-q) ↔ NearInteger q := by
  have hhalf : ∀ q : Rat, NearInteger q → NearInteger (-q) := by
    rintro q ⟨n, hn⟩
    refine ⟨-n, ?_⟩
    rw [halfSpacing, abs_neg, Int.cast_neg, sub_neg_eq_add, neg_add_eq_sub, abs_sub_comm]
    exact hn
  refine ⟨fun h => ?_, hhalf q⟩
  simpa using hhalf _ h

/-- A positive number is rounded by half of the spacing at most. -/
theorem abs_sub_nearest_le {q : Rat} (hq : 0 < q) :
    |q - nearestMantissa q * (2 : Rat) ^ spacingExponent q| ≤ halfSpacing q := by
  have hunit := two_zpow_pos (spacingExponent q)
  have herror := abs_sub_roundHalfEven_le (q / (2 : Rat) ^ spacingExponent q)
  have hscaled : q - nearestMantissa q * (2 : Rat) ^ spacingExponent q =
      (q / (2 : Rat) ^ spacingExponent q - nearestMantissa q) * (2 : Rat) ^ spacingExponent q := by
    rw [sub_mul, div_mul_cancel₀ _ hunit.ne']
  rw [hscaled, abs_mul, abs_of_pos hunit, halfSpacing, abs_of_pos hq]
  calc |q / (2 : Rat) ^ spacingExponent q - nearestMantissa q| * (2 : Rat) ^ spacingExponent q
      ≤ 1 / 2 * (2 : Rat) ^ spacingExponent q := mul_le_mul_of_nonneg_right herror hunit.le
    _ = (2 : Rat) ^ spacingExponent q / 2 := by ring

/-- An integer at half of the spacing or less is what a positive number is rounded to, if the
spacing is below one. -/
theorem nearest_eq_of_fine {q : Rat} (hq : 0 < q) {n : Int} (h : |q - n| ≤ halfSpacing q)
    (hfine : spacingExponent q < 0) :
    nearestMantissa q * (2 : Rat) ^ spacingExponent q = n := by
  obtain ⟨k, hk⟩ : ∃ k : Nat, spacingExponent q = -((k + 1 : Nat) : Int) :=
    ⟨(-spacingExponent q - 1).toNat, by omega⟩
  have hscale : ∀ x : Rat, x / (2 : Rat) ^ spacingExponent q = x * 2 ^ (k + 1) := by
    intro x
    rw [hk, zpow_neg, zpow_natCast, div_inv_eq_mul]
  have heven : (n * 2 ^ (k + 1)) % 2 = 0 := by
    rw [pow_succ, ← mul_assoc, Int.mul_emod_left]
  have hnear : |q / (2 : Rat) ^ spacingExponent q - ((n * 2 ^ (k + 1) : Int) : Rat)| ≤ 1 / 2 := by
    have hpos : (0 : Rat) < 2 ^ (k + 1) := by positivity
    rw [halfSpacing, abs_of_pos hq, hk, zpow_neg, zpow_natCast] at h
    rw [hscale]
    push_cast
    rw [← sub_mul, abs_mul, abs_of_pos hpos]
    calc |q - n| * 2 ^ (k + 1) ≤ (2 ^ (k + 1))⁻¹ / 2 * 2 ^ (k + 1) :=
          mul_le_mul_of_nonneg_right h hpos.le
      _ = 1 / 2 := by field_simp
  rw [nearestMantissa, roundHalfEven_eq_of_even heven hnear, hk, zpow_neg, zpow_natCast]
  push_cast
  field_simp

/-- A positive number is rounded to an integer if one is near. -/
theorem exists_nearest_eq_iff {q : Rat} (hq : 0 < q) :
    (∃ n : Int, nearestMantissa q * (2 : Rat) ^ spacingExponent q = n) ↔ NearInteger q := by
  constructor
  · rintro ⟨n, hn⟩
    exact ⟨n, hn ▸ abs_sub_nearest_le hq⟩
  · rintro ⟨n, hn⟩
    rcases lt_or_ge (spacingExponent q) 0 with hfine | hcoarse
    · exact ⟨n, nearest_eq_of_fine hq hn hfine⟩
    · -- every multiple of the spacing is an integer
      obtain ⟨k, hk⟩ := Int.eq_ofNat_of_zero_le hcoarse
      refine ⟨nearestMantissa q * 2 ^ k, ?_⟩
      rw [hk, zpow_natCast]
      push_cast
      rfl

theorem isSome_toInt?_iff {x : Binary64} :
    x.toInt?.isSome = true ↔ ∃ n : Int, x.toRat? = some (n : Rat) := by
  rw [Option.isSome_iff_exists]
  exact exists_congr fun n => toInt?_eq_some_iff

/-- **Exactly the numbers near an integer are rounded to one.** -/
theorem isSome_toInt?_ofRat_iff {q : Rat} (hlimit : |q| < overflowLimit) :
    (ofRat q).toInt?.isSome = true ↔ NearInteger q := by
  rw [isSome_toInt?_iff]
  rcases lt_trichotomy q 0 with hq | rfl | hq
  · have hpos : 0 < -q := neg_pos.mpr hq
    rw [abs_of_neg hq] at hlimit
    rw [ofRat, if_pos hq, toRat?_round true hpos hlimit, if_pos rfl, ← nearInteger_neg_iff,
      ← exists_nearest_eq_iff hpos]
    constructor
    · rintro ⟨n, hn⟩
      exact ⟨-n, by rw [Int.cast_neg, ← Option.some.inj hn, neg_neg]⟩
    · rintro ⟨n, hn⟩
      exact ⟨-n, by rw [hn, Int.cast_neg]⟩
  · refine iff_of_true ⟨0, ?_⟩ (by simpa using nearInteger_intCast 0)
    simp [ofRat, round_zero, toRat?_zero]
  · rw [abs_of_pos hq] at hlimit
    rw [ofRat, if_neg hq.not_gt, toRat?_round false hq hlimit, ← exists_nearest_eq_iff hq]
    simp

end Binary64

end BraceTemplate
