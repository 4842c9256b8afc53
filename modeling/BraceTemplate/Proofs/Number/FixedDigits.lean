import BraceTemplate.Proofs.Number.Numeral
import BraceTemplate.Proofs.Number.Radix
import BraceTemplate.Render.Fixed

/-!
# Decimals with a fixed number of places

A decimal of so many places has that many digits behind its point, and no superfluous zeros before
it. Every floating-point number below the limit is written as one: the digits are those of the exact
value, rounded to the nearest step, and the text always holds them. There is a last place behind
which nothing is written, though some more places can be asked for; if too many are, there is no
text at all.
-/

namespace BraceTemplate

/-! ## Decimals -/

/-- Digits before a point and `places` digits behind it. -/
structure FixedDecimal (places : Nat) where
  whole : Text
  fraction : Text
  whole_ne_nil : whole ≠ []
  isDigits_whole : whole.IsDigits
  leading : whole.head? = some ('0' : CodePoint) → whole = ['0']
  isDigits_fraction : fraction.IsDigits
  length_fraction : fraction.length = places

namespace FixedDecimal

variable {places : Nat}

/-- Without places, there is no point. -/
def text (x : FixedDecimal places) : Text :=
  if places = 0 then x.whole else x.whole ++ ('.' : CodePoint) :: x.fraction

/-- The value in steps of `10 ^ (-places)`. -/
def units (x : FixedDecimal places) : Nat :=
  Text.toNat (x.whole ++ x.fraction)

/-- What is read from the text is the value, also behind further zeros. -/
theorem readDecimal?_zeros_append_text (count : Nat) (x : FixedDecimal places) :
    (Numeral.readDecimal? (List.replicate count ('0' : CodePoint) ++ x.text)).map Scientific.toRat =
      some ((x.units : Rat) / 10 ^ places) := by
  have hne : List.replicate count ('0' : CodePoint) ++ x.whole ≠ [] :=
    List.append_ne_nil_of_right_ne_nil _ x.whole_ne_nil
  have hwhole := (Text.isDigits_replicate_zero count).append x.isDigits_whole
  have hunits : Text.toNat (List.replicate count ('0' : CodePoint) ++ x.whole ++ x.fraction) =
      x.units := by
    rw [List.append_assoc, Text.toNat_zeros_append, units]
  have hvalue : Scientific.toRat ⟨x.units, -(places : Int)⟩ = (x.units : Rat) / 10 ^ places := by
    rw [Scientific.toRat, zpow_neg, zpow_natCast, div_eq_mul_inv]
  have hread : Numeral.readDecimal? (List.replicate count ('0' : CodePoint) ++ x.text) =
      some ⟨x.units, -(places : Int)⟩ := by
    rw [← hunits]
    unfold text
    split
    · rename_i hplaces
      subst hplaces
      have hread := Numeral.readDecimal?_whole hne hwhole Numeral.endsDigits_nil (by simp)
      rw [List.append_nil] at hread
      rw [hread, List.length_eq_zero_iff.mp x.length_fraction, List.append_nil]
      rfl
    · have hread := Numeral.readDecimal?_point hne hwhole x.isDigits_fraction
        Numeral.endsDigits_nil
      rw [List.append_nil, x.length_fraction] at hread
      rw [← List.append_assoc, hread, ← zero_sub]
      rfl
  rw [hread, Option.map_some, hvalue]

/-- Characters of the text are digits and the point. -/
theorem isDigit_of_mem_text {x : FixedDecimal places} {c : CodePoint} (h : c ∈ x.text) :
    c.isDigit = true ∨ c = '.' := by
  unfold text at h
  split at h
  · exact .inl (x.isDigits_whole c h)
  · rcases List.mem_append.mp h with hwhole | hrest
    · exact .inl (x.isDigits_whole c hwhole)
    · exact (List.mem_cons.mp hrest).symm.imp_left (x.isDigits_fraction c)

end FixedDecimal

/-! ## Steps -/

section Steps

variable (units places : Nat)

/-- The digits of a number of steps, at least one more than there are places. -/
def stepDigits : Text :=
  (Text.ofNat units).leftpad (places + 1) '0'

theorem stepDigits_eq :
    stepDigits units places =
      List.replicate (places + 1 - (Text.ofNat units).length) ('0' : CodePoint) ++
        Text.ofNat units :=
  rfl

theorem length_stepDigits :
    (stepDigits units places).length = max (places + 1) (Text.ofNat units).length :=
  List.length_leftpad

theorem isDigits_stepDigits : (stepDigits units places).IsDigits :=
  (Text.isDigits_replicate_zero _).append (Text.isDigits_ofNat units)

theorem toNat_stepDigits : Text.toNat (stepDigits units places) = units := by
  rw [stepDigits_eq, Text.toNat_zeros_append, Text.toNat_ofNat]

/-- Zeros only stand in front where there are no more digits than a zero before the point needs. -/
theorem head?_stepDigits_ne (h : places + 1 < (stepDigits units places).length) :
    (stepDigits units places).head? ≠ some ('0' : CodePoint) := by
  rw [length_stepDigits] at h
  have hlong : places + 1 < (Text.ofNat units).length := by omega
  have hunits : units ≠ 0 := by
    rintro rfl
    simp [Text.ofNat, Text.digits, Nat.toDigits_zero] at hlong
  have hpad : places + 1 - (Text.ofNat units).length = 0 := by omega
  rw [stepDigits_eq, hpad]
  exact Radix.decimal.head?_digits_ne units hunits

/-- Digits that stand before the point. -/
def wholeCount : Nat :=
  (stepDigits units places).length - places

theorem wholeCount_add : 1 ≤ wholeCount units places ∧
    wholeCount units places + places = (stepDigits units places).length := by
  have hlength := length_stepDigits units places
  unfold wholeCount
  omega

theorem length_take_wholeCount :
    ((stepDigits units places).take (wholeCount units places)).length =
      wholeCount units places := by
  have hcount := wholeCount_add units places
  rw [List.length_take]
  omega

/-- A number of steps as a decimal. -/
def FixedDecimal.ofUnits : FixedDecimal places where
  whole := (stepDigits units places).take (wholeCount units places)
  fraction := (stepDigits units places).drop (wholeCount units places)
  whole_ne_nil := by
    rw [← List.length_pos_iff_ne_nil, length_take_wholeCount]
    exact (wholeCount_add units places).1
  isDigits_whole := fun c hc => isDigits_stepDigits units places c (List.mem_of_mem_take hc)
  leading := by
    intro hhead
    have hcount := wholeCount_add units places
    have hlength := length_take_wholeCount units places
    by_cases hone : wholeCount units places = 1
    · obtain ⟨c, hc⟩ := List.length_eq_one_iff.mp (hlength.trans hone)
      rw [hc] at hhead ⊢
      simpa using hhead
    · rw [List.head?_take, if_neg (by omega)] at hhead
      exact absurd hhead (head?_stepDigits_ne units places (by omega))
  isDigits_fraction := fun c hc => isDigits_stepDigits units places c (List.mem_of_mem_drop hc)
  length_fraction := by
    have hcount := wholeCount_add units places
    rw [List.length_drop]
    omega

theorem FixedDecimal.units_ofUnits : (ofUnits units places).units = units := by
  rw [FixedDecimal.units, ofUnits, List.take_append_drop, toNat_stepDigits]

end Steps

/-! ## Rounding -/

/-- The nearest multiple of `10 ^ (-places)`; of two, the larger one. -/
def roundedUp (q : Rat) (places : Nat) : Rat :=
  ⌊q * 10 ^ places + 1 / 2⌋ / 10 ^ places

theorem natCast_roundHalfUp {q : Rat} (h : 0 ≤ q) : (roundHalfUp q : Int) = ⌊q + 1 / 2⌋ :=
  have hnonneg : 0 ≤ ⌊q + 1 / 2⌋ := Int.floor_nonneg.mpr (by linarith)
  Int.toNat_of_nonneg hnonneg

theorem natCast_roundedUnits {q : Rat} (h : 0 ≤ q) (places : Nat) :
    (roundedUnits q places : Rat) / 10 ^ places = roundedUp q places := by
  have hscaled : 0 ≤ q * (10 : Rat) ^ (places : Int) := mul_nonneg h (Scientific.ten_zpow_pos _).le
  have hunits := natCast_roundHalfUp hscaled
  rw [zpow_natCast] at hunits
  rw [roundedUp, ← hunits, roundedUnits, zpow_natCast, Int.cast_natCast]

/-- The multiple tells the number of steps. -/
theorem roundedUnits_eq {q : Rat} (h : 0 ≤ q) {places units : Nat}
    (hrounded : roundedUp q places = units / 10 ^ places) : roundedUnits q places = units := by
  rw [← natCast_roundedUnits h, div_left_inj' (by positivity)] at hrounded
  exact_mod_cast hrounded

/-- A multiple is half a step away at most, and above the number in a tie. -/
theorem roundedUp_sub_mem (q : Rat) (places : Nat) :
    roundedUp q places - q ∈ Set.Ioc (-(1 / 2 / 10 ^ places)) (1 / 2 / 10 ^ places : Rat) := by
  have hpos : (0 : Rat) < 10 ^ places := by positivity
  have hlow := Int.floor_le (q * 10 ^ places + 1 / 2)
  have hhigh := Int.lt_floor_add_one (q * 10 ^ places + 1 / 2)
  have hscaled : roundedUp q places - q =
      (⌊q * 10 ^ places + 1 / 2⌋ - q * 10 ^ places) / 10 ^ places := by
    rw [roundedUp, sub_div, mul_div_cancel_right₀ _ hpos.ne']
  rw [hscaled, Set.mem_Ioc, ← neg_div]
  exact ⟨div_lt_div_of_pos_right (by linarith) hpos,
    div_le_div_of_nonneg_right (by linarith) hpos.le⟩

/-- Below the limit, a number has no more digits than fit in front of its last place. -/
theorem roundedUnits_lt {q : Rat} (h : 0 ≤ q) (hlimit : q < fixedLimit) (places : Nat) :
    roundedUnits q places < 10 ^ (fixedWholeDigits + places) := by
  have hpos : (1 : Rat) ≤ 10 ^ places := one_le_pow₀ (by norm_num)
  have hscaled : 0 ≤ q * (10 : Rat) ^ (places : Int) := mul_nonneg h (Scientific.ten_zpow_pos _).le
  have hunits : ((roundedUnits q places : Int) : Rat) ≤ q * 10 ^ places + 1 / 2 := by
    rw [roundedUnits, natCast_roundHalfUp hscaled, zpow_natCast]
    exact Int.floor_le _
  have hbound : (roundedUnits q places : Rat) < 10 ^ (fixedWholeDigits + places) := by
    calc (roundedUnits q places : Rat) ≤ q * 10 ^ places + 1 / 2 := by exact_mod_cast hunits
      _ < fixedLimit * 10 ^ places + 10 ^ places := by
        have hmul := mul_lt_mul_of_pos_right hlimit (lt_of_lt_of_le one_pos hpos)
        linarith
      _ ≤ 10 ^ fixedWholeDigits * 10 ^ places := by
        rw [fixedLimit, fixedWholeDigits, ← add_one_mul]
        exact mul_le_mul_of_nonneg_right (by norm_num) (by linarith)
      _ = 10 ^ (fixedWholeDigits + places) := (pow_add 10 _ places).symm
  exact_mod_cast hbound

/-! ## The last place -/

/-- The last place behind the point that a power of ten has. -/
def lastPlace : Nat := 1000026

/-- The most places that can be asked for. Those behind the last one are left out. -/
def maxPlaces : Nat := 2000054

/-- What asking for too many places fails with. -/
def placesFailure (places : Nat) : Failure :=
  if DecimalParts.machineLimit ≤ fixedWholeDigits + places then .widePrecision
  else if maxPrecision < fixedWholeDigits + places then .noPrecision
  else .decimalSignal .invalidOperation

section LastPlace

variable {places : Nat}

theorem minExponent_eq : DecimalNumber.minExponent = -(lastPlace : Nat) := rfl

theorem maxShift_eq : DecimalNumber.maxShift = (maxPlaces : Nat) := rfl

/-- A rounded one is one, or zero if its place is too far to the right. -/
theorem normalise_one (exponent : Int) (h : exponent ≤ 0) :
    ∃ coefficient, DecimalNumber.normalise false 1 exponent =
      .ok (.finite false coefficient (max exponent DecimalNumber.minExponent)) := by
  have hlengths : (Text.ofNat 1).length = 1 ∧ (Text.ofNat 0).length = 1 := by decide
  have hlarge : ∀ e : Int, e ≤ 0 → ¬ DecimalNumber.maxExponent < ((1 : Nat) : Int) + e - 1 := by
    intro e he
    rw [show DecimalNumber.maxExponent = 999999 from rfl]
    omega
  have hcarry : ∀ n ≤ 1, n ≠ Nat.pow 10 DecimalNumber.precision := by decide
  unfold DecimalNumber.normalise
  simp only [one_ne_zero, if_false, hlengths]
  by_cases hfar : exponent < DecimalNumber.minExponent
  · have hexcess : max (((1 : Nat) : Int) - (DecimalNumber.precision : Nat))
        (DecimalNumber.minExponent - exponent) = DecimalNumber.minExponent - exponent := by
      rw [show DecimalNumber.precision = 28 from rfl]
      omega
    have hnothing : DecimalNumber.dropDigits 1 (DecimalNumber.minExponent - exponent).toNat = 0 := by
      unfold DecimalNumber.dropDigits
      split
      · rfl
      · rename_i hshort
        have hone : (DecimalNumber.minExponent - exponent).toNat = 1 := by
          rw [hlengths.1] at hshort
          omega
        rw [hone]
        decide +kernel
    refine ⟨0, ?_⟩
    simp only [hexcess, if_pos (sub_pos.mpr hfar), hnothing, if_neg (hcarry 0 (by decide)),
      hlengths, add_sub_cancel, max_eq_right hfar.le]
    exact if_neg (hlarge _ (by decide))
  · have hexcess : ¬ 0 < max (((1 : Nat) : Int) - (DecimalNumber.precision : Nat))
        (DecimalNumber.minExponent - exponent) := by
      rw [show DecimalNumber.precision = 28 from rfl]
      omega
    refine ⟨1, ?_⟩
    simp only [if_neg hexcess, if_neg (hcarry 1 (by decide)), hlengths,
      max_eq_left (not_lt.mp hfar)]
    exact if_neg (hlarge _ h)

/-- The power of ten that marks the last of so many places. -/
theorem places_of_tenTo (h : places ≤ maxPlaces) :
    ∃ unit, DecimalNumber.tenTo (-(places : Int)) = .ok unit ∧
      unit.places = (min places lastPlace : Nat) := by
  have hnear : ¬ DecimalNumber.maxShift < ((-(places : Int)).natAbs : Int) := by
    rw [maxShift_eq]
    omega
  obtain ⟨coefficient, hone⟩ := normalise_one (-(places : Int)) (by omega)
  refine ⟨_, by rw [DecimalNumber.tenTo, if_neg hnear, hone], ?_⟩
  rw [DecimalNumber.places, minExponent_eq]
  omega

theorem fixedPrecision_eq (h : places ≤ maxPlaces) :
    fixedPrecision places = .ok (fixedWholeDigits + places) := by
  have hplaces : places ≤ 2000054 := h
  have hwhole : ((fixedWholeDigits : Nat) : Int) = 22 := rfl
  have hmachine : DecimalParts.isMachineInteger ((fixedWholeDigits : Int) + places) = true := by
    rw [DecimalParts.isMachineInteger_iff, DecimalParts.machineLimit, hwhole]
    omega
  have hrange : 1 ≤ (fixedWholeDigits : Int) + places ∧
      (fixedWholeDigits : Int) + places ≤ maxPrecision := by
    rw [maxPrecision, hwhole]
    omega
  simp only [fixedPrecision, hmachine, Bool.not_true, Bool.false_eq_true, if_false, if_pos hrange]
  rfl

/-- Up to the limit, a text has the places that are asked for, but none behind the last one. -/
theorem withPlaces_of_le (h : places ≤ maxPlaces) (text : Nat → Int → Except DecimalSignal Text) :
    withPlaces places text =
      (text (fixedWholeDigits + places) (min places lastPlace : Nat)).mapError .decimalSignal := by
  obtain ⟨unit, hunit, hplaces⟩ := places_of_tenTo h
  simp only [withPlaces, fixedPrecision_eq h, hunit, ← hplaces]
  rfl

/-- Beyond the limit there is no text. -/
theorem withPlaces_of_lt (h : maxPlaces < places) (text : Nat → Int → Except DecimalSignal Text) :
    withPlaces places text = .error (placesFailure places) := by
  have hfar : DecimalNumber.maxShift < ((-(places : Int)).natAbs : Int) := by
    rw [maxShift_eq]
    omega
  have hmachine : DecimalParts.isMachineInteger ((fixedWholeDigits : Int) + places) = true ↔
      (fixedWholeDigits : Int) + places < DecimalParts.machineLimit := by
    rw [DecimalParts.isMachineInteger_iff, DecimalParts.machineLimit]
    omega
  have hpositive : 1 ≤ (fixedWholeDigits : Int) + places := by
    rw [show ((fixedWholeDigits : Nat) : Int) = 22 from rfl]
    omega
  unfold withPlaces fixedPrecision placesFailure
  simp only [DecimalNumber.tenTo, if_pos hfar, hpositive, true_and, Bool.not_eq_true',
    ← Bool.not_eq_true, hmachine, not_lt]
  split
  · rfl
  · by_cases hprecision : (fixedWholeDigits : Int) + places ≤ maxPrecision
    · rw [if_pos hprecision, if_neg hprecision.not_gt]
      rfl
    · rw [if_neg hprecision, if_pos (not_le.mp hprecision)]
      rfl

end LastPlace

/-! ## Floating-point numbers -/

theorem Magnitude.toRat_nonneg (m : Magnitude) : 0 ≤ m.toRat :=
  mul_nonneg (Nat.cast_nonneg _) (two_zpow_pos _).le

/-- The text of a number of places is a decimal with as many. -/
theorem fixedText_eq (q : Rat) (places : Nat) :
    fixedText q places = (FixedDecimal.ofUnits (roundedUnits q places) places).text :=
  rfl

theorem readDecimal?_zeros_append_fixedText (count : Nat) {q : Rat} (h : 0 ≤ q) (places : Nat) :
    (Numeral.readDecimal?
      (List.replicate count ('0' : CodePoint) ++ fixedText q places)).map Scientific.toRat =
      some (roundedUp q places) := by
  rw [fixedText_eq, FixedDecimal.readDecimal?_zeros_append_text, FixedDecimal.units_ofUnits,
    natCast_roundedUnits h]

/-- Digits that fit in front of a place fit for a number below the limit. -/
theorem roundedUnits_lt_room {q : Rat} (h : 0 ≤ q) (hlimit : q < fixedLimit) (places : Nat) :
    roundedUnits q (min places lastPlace : Nat) <
      Nat.pow 10 (fixedRoom (fixedWholeDigits + places) (min places lastPlace : Nat)) := by
  have hroom : fixedWholeDigits + min places lastPlace ≤
      fixedRoom (fixedWholeDigits + places) (min places lastPlace : Nat) := by
    rw [fixedRoom, show DecimalNumber.maxExponent = 999999 from rfl,
      show fixedWholeDigits = 22 from rfl]
    omega
  exact (roundedUnits_lt h hlimit _).trans_le (Nat.pow_le_pow_right (by decide) hroom)

/-- A finite number below the limit has a text for as many places as can be asked for. -/
theorem fixedDigits_finite (negative : Bool) {m : Magnitude} (hlimit : m.toRat < fixedLimit)
    (places : Nat) :
    Value.fixedDigits (.float (.finite negative m)) places =
      if places ≤ maxPlaces then
        .ok ((if negative then (['-'] : Text) else []) ++
          fixedText m.toRat (min places lastPlace : Nat))
      else .error (placesFailure places) := by
  change withPlaces places (Binary64.finite negative m).fixedDigits = _
  by_cases hplaces : places ≤ maxPlaces
  · have hfits := roundedUnits_lt_room m.toRat_nonneg hlimit places
    rw [if_pos hplaces, withPlaces_of_le hplaces, Binary64.fixedDigits, signedFixedText,
      if_pos hfits]
    rfl
  · rw [if_neg hplaces, withPlaces_of_lt (not_le.mp hplaces)]

/-- **Fixed-point digits are the exact value, correctly rounded**, as long as not too many places
are asked for. A finite number below the limit then has a text: a minus exactly under its sign bit,
then digits without superfluous zeros, and behind a point as many digits as there are places, up to
the last one. What is read from it is the multiple of its last place nearest to the exact size, and
in a tie the one that is larger. For more places there is no text. -/
theorem fixedDigits_exact (negative : Bool) {m : Magnitude} (hlimit : m.toRat < fixedLimit)
    (places : Nat) :
    (places ≤ maxPlaces →
      ∃ x : FixedDecimal (min places lastPlace),
        Value.fixedDigits (.float (.finite negative m)) places =
            .ok ((if negative then (['-'] : Text) else []) ++ x.text) ∧
          (Numeral.readDecimal? x.text).map Scientific.toRat =
            some (roundedUp m.toRat (min places lastPlace)) ∧
          roundedUp m.toRat (min places lastPlace) - m.toRat ∈
            Set.Ioc (-(1 / 2 / 10 ^ min places lastPlace))
              (1 / 2 / 10 ^ min places lastPlace : Rat)) ∧
      (maxPlaces < places →
        Value.fixedDigits (.float (.finite negative m)) places = .error (placesFailure places)) := by
  rw [fixedDigits_finite negative hlimit]
  constructor
  · intro hplaces
    refine ⟨.ofUnits (roundedUnits m.toRat (min places lastPlace : Nat)) _, if_pos hplaces, ?_,
      roundedUp_sub_mem _ _⟩
    exact readDecimal?_zeros_append_fixedText 0 m.toRat_nonneg _
  · intro hplaces
    exact if_neg hplaces.not_ge

/-- The number `0.125`. -/
def eighth : Magnitude := ⟨fullMantissa, -55, by decide⟩

theorem eighth_toRat : eighth.toRat = 1 / 8 := by
  norm_num [eighth, Magnitude.toRat]

theorem eighth_lt_fixedLimit : eighth.toRat < fixedLimit := by
  norm_num [eighth_toRat, fixedLimit]

/-- A tie of a negative number: it is rounded away from zero. -/
theorem fixedDigits_exact_of_tie :
    eighth.toRat < fixedLimit ∧ 2 ≤ maxPlaces ∧
      Value.fixedDigits (.float (.finite true eighth)) 2 = .ok "-0.13" ∧
      (Numeral.readDecimal? "0.13").map Scientific.toRat = some (13 / 100) ∧
      roundedUp eighth.toRat 2 = 13 / 100 := by
  have hplaces : 2 ≤ maxPlaces := by decide
  have hrounded : roundedUp eighth.toRat 2 = 13 / 100 := by
    rw [roundedUp, eighth_toRat]
    norm_num
  have hunits : roundedUnits eighth.toRat (min 2 lastPlace : Nat) = 13 :=
    roundedUnits_eq eighth.toRat_nonneg (hrounded.trans (by norm_num [lastPlace]))
  have hshown : Value.fixedDigits (.float (.finite true eighth)) 2 = .ok "-0.13" := by
    refine (fixedDigits_finite true eighth_lt_fixedLimit 2).trans ?_
    rw [if_pos hplaces, fixedText, hunits]
    rfl
  obtain ⟨htexts, -⟩ := fixedDigits_exact true eighth_lt_fixedLimit 2
  obtain ⟨x, htext, hvalue, -⟩ := htexts hplaces
  have heq : ('-' : CodePoint) :: ("0.13" : Text) = ('-' : CodePoint) :: x.text :=
    Except.ok.inj (hshown.symm.trans htext)
  have hx : ("0.13" : Text) = x.text := List.tail_eq_of_cons_eq heq
  rw [← hx] at hvalue
  exact ⟨eighth_lt_fixedLimit, hplaces, hshown, hvalue.trans (congrArg some hrounded), hrounded⟩

/-- An eighth has no text with one place more than can be asked for. -/
theorem fixedDigits_eighth_beyond_maxPlaces :
    eighth.toRat < fixedLimit ∧
      Value.fixedDigits (.float (.finite false eighth)) 2000055 =
        .error (.decimalSignal .invalidOperation) := by
  refine ⟨eighth_lt_fixedLimit, ?_⟩
  refine (fixedDigits_finite false eighth_lt_fixedLimit 2000055).trans ?_
  exact if_neg (by decide)

end BraceTemplate
