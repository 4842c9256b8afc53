import BraceTemplate.Proofs.Rendering.DefaultCode
import BraceTemplate.Proofs.Rendering.FixedText
import BraceTemplate.Proofs.Rendering.IntegerText
import BraceTemplate.Proofs.Rendering.Integral

/-!
# Numbers without places

A whole number with no places is shown as the integer that it is. The one renderer rounds the exact
value of a floating-point number and the other writes an integer in base ten, but under every
padding without the space flag they make the same text or refuse for the same reason.
-/

namespace BraceTemplate

/-! ## Digits -/

theorem roundedUnits_natCast (n : Nat) : roundedUnits (n : Rat) (0 : Nat) = n := by
  have hfloor : ⌊(n : Rat) + 1 / 2⌋ = n := by
    rw [Int.floor_eq_iff]
    constructor <;> push_cast <;> linarith
  refine roundedUnits_eq (Nat.cast_nonneg n) ?_
  rw [roundedUp, pow_zero, mul_one, hfloor]
  rfl

/-- An integer without places is its decimal digits. -/
theorem fixedText_natCast (n : Nat) : fixedText (n : Rat) (0 : Nat) = Text.ofNat n := by
  have hlength : 1 - (Text.ofNat n).length = 0 :=
    Nat.sub_eq_zero_of_le (List.length_pos_of_ne_nil (Text.ofNat_ne_nil n))
  have hdigits : stepDigits n 0 = Text.ofNat n := by
    rw [stepDigits_eq, Nat.zero_add, hlength]
    rfl
  rw [fixedText_eq, roundedUnits_natCast]
  simp [FixedDecimal.text, FixedDecimal.ofUnits, wholeCount, hdigits]

/-- Only the space flag asks for more room. -/
theorem Layout.spaced_eq_filled {p : Padding} (h : p.flag ≠ .space) (negative : Bool)
    (digits : Text) : spaced p negative digits = filled p negative digits := by
  simp [spaced, h]

/-! ## Outcomes -/

/-- Two renderers make the same text, or both refuse the sign, or both the padding. -/
inductive SameOutcome (r s : Except Failure Text) : Prop where
  | text {t : Text} (left : r = .ok t) (right : s = .ok t)
  | sign (left : RefusesSign r) (right : RefusesSign s)
  | padding (left : RefusesPadding r) (right : RefusesPadding s)

theorem RefusesPadding.not_refusesSign {r : Except Failure Text} (h : RefusesPadding r) :
    ¬ RefusesSign r := by
  obtain ⟨f, rfl, hkind⟩ := h
  rintro ⟨g, hg, hsign⟩
  obtain rfl : f = g := by simpa using hg
  rw [hkind] at hsign
  cases hsign

/-- Once the padding is read, only the sign can be refused. -/
theorem not_refusesPadding_ite {c : Prop} [Decidable c] {source t : Text} :
    ¬ RefusesPadding (if c then .error (.ofCause (.plusOnNegative source)) else .ok t) := by
  rintro ⟨f, hf, hkind⟩
  split at hf
  · cases hf
    cases hkind
  · cases hf

section Whole

variable {v : Value} {i : Int} {x : Binary64} {padding : Text} {p : Padding}

/-- A value of an integer that some floating-point number has stands for the integer. -/
theorem standsFor_of_toRat? (hv : v.toRat? = some (i : Rat)) (hx : x.toInt? = some i) :
    StandsFor v i := by
  cases v with
  | int j =>
    obtain rfl : j = i := by simpa [Value.toRat?] using hv
    exact standsFor_int j
  | float y => exact standsFor_float (Binary64.toInt?_eq_some_iff.mpr hv)
  | fraction q =>
    obtain rfl : q = i := by simpa [Value.toRat?] using hv
    exact standsFor_fraction hx
  | _ => cases hv

/-- With no places, the digits of the integer are laid out. -/
theorem fixed_of_standsFor (h : StandsFor v i) (hx : x.toRat? = some (i : Rat))
    (hlimit : |(i : Rat)| < fixedLimit) (hp : Padding.parse? padding = some p)
    (hspace : p.flag ≠ .space) :
    Render.fixed v (padding ++ (['.', '0'] : Text)) false =
      if p.flag = .plus ∧ i < 0 then
        .error (.ofCause (.plusOnNegative (padding ++ (['.', '0'] : Text))))
      else .ok (Layout.filled p (decide (i < 0)) (Text.ofNat i.natAbs)).text := by
  -- the value is one of the floating-point numbers, so taking it as one changes nothing
  have hrounded : (Binary64.ofInt i).toRat? = some (i : Rat) := by
    rw [Binary64.ofInt, ← (Binary64.agrees_ofRat hx).toRat?_eq, hx]
  have hpadding : FixedPadding.parse? (padding ++ (['.', '0'] : Text)) = some ⟨p, 0⟩ := by
    rw [FixedPadding.parse?_append_zero, hp]
    rfl
  have hsize : |(i : Rat)| = (i.natAbs : Nat) := by
    rw [Nat.cast_natAbs, Int.cast_abs]
  have hdigits : fixedText |(i : Rat)| ((0 : Nat) : Int) = Text.ofNat i.natAbs := by
    rw [hsize, fixedText_natCast]
  have hplace : FixedPadding.lastPlace ⟨p, 0⟩ = 0 := Nat.zero_min _
  rw [h.fixed_eq, fixed_eq_fixedBinary64 rfl hpadding, fixedBinary64_eq hrounded hlimit,
    if_pos (Nat.zero_le maxPlaces)]
  simp only [Bool.false_eq_true, if_false, hplace, hdigits, Layout.spaced_eq_filled hspace,
    Int.cast_lt_zero]

/-- **A whole number without places is shown as an integer.** -/
theorem fixed_zeroPlaces_sameOutcome (hv : v.toRat? = some (i : Rat))
    (hx : x.toRat? = some (i : Rat)) (hlimit : |(i : Rat)| < fixedLimit)
    (hspace : ∀ p, Padding.parse? padding = some p → p.flag ≠ .space) (code : Option Text) :
    let fixed := Render.fixed v (padding ++ (['.', '0'] : Text)) false
    let integer := Render.integer v padding 10 code
    SameOutcome fixed integer ∧
      (RefusesPadding fixed ∧ RefusesPadding integer ↔ ¬ IsPadding padding) ∧
      (RefusesSign fixed ∧ RefusesSign integer ↔
        ∃ p, Padding.parse? padding = some p ∧ p.flag = .plus ∧ i < 0) := by
  intro fixed integer
  have h := standsFor_of_toRat? hv (Binary64.toInt?_eq_some_iff.mpr hx)
  cases hp : Padding.parse? padding with
  | none =>
    -- both refuse the padding before they look at the value
    have hinvalid : ¬ IsPadding padding := by
      rw [← Padding.exists_parse?_iff, hp]
      simp
    have hinvalid' : ¬ IsFixedPadding (padding ++ (['.', '0'] : Text)) := by
      rw [← FixedPadding.exists_parse?_iff, FixedPadding.parse?_append_zero, hp]
      simp
    have hfixed : RefusesPadding fixed :=
      (refusesPadding_readFixedPadding_iff.mpr hinvalid').bind _
    have hinteger : RefusesPadding integer :=
      (refusesPadding_readPadding_iff.mpr hinvalid).bind _
    exact ⟨.padding hfixed hinteger, iff_of_true ⟨hfixed, hinteger⟩ hinvalid,
      iff_of_false (fun hsign => hfixed.not_refusesSign hsign.1) (by simp)⟩
  | some p =>
    have hfixed : fixed = _ := fixed_of_standsFor h hx hlimit hp (hspace p hp)
    have hinteger : integer = _ := integer_of_expectInteger hp h.unnamed (h.integer code) .decimal
    have hsign : RefusesSign fixed ∧ RefusesSign integer ↔ p.flag = .plus ∧ i < 0 := by
      rw [hfixed, hinteger, refusesSign_ite, refusesSign_ite, and_self]
    have hpadding : ¬ RefusesPadding fixed := hfixed ▸ not_refusesPadding_ite
    refine ⟨?_, iff_of_false (fun hboth => hpadding hboth.1) ?_, hsign.trans (by simp)⟩
    · by_cases hplus : p.flag = .plus ∧ i < 0
      · obtain ⟨hleft, hright⟩ := hsign.mpr hplus
        exact .sign hleft hright
      · rw [if_neg hplus] at hfixed hinteger
        exact .text hfixed hinteger
    · exact not_not_intro (Padding.isPadding_of_parse? hp)

end Whole

/-- The number `-2 ^ 69`, which has 21 digits. -/
def longBelow : Binary64 :=
  .finite true ⟨fullMantissa, 17, by decide⟩

theorem toRat?_longBelow : longBelow.toRat? = some ((-590295810358705651712 : Int) : Rat) := by
  norm_num [longBelow, Binary64.toRat?, Magnitude.toRat]

/-- Zeros behind the sign of a fraction that is a long integer. -/
theorem fixed_zeroPlaces_sameOutcome_of_zeros :
    (Value.fraction (-590295810358705651712 : Int)).toRat? =
        some ((-590295810358705651712 : Int) : Rat) ∧
      longBelow.toRat? = some ((-590295810358705651712 : Int) : Rat) ∧
      |((-590295810358705651712 : Int) : Rat)| < fixedLimit ∧
      Padding.parse? "025" = some ⟨.zero, 25⟩ ∧
      Render.integer (.fraction (-590295810358705651712 : Int)) "025" 10 none =
        .ok "-000590295810358705651712" ∧
      Render.fixed (.fraction (-590295810358705651712 : Int)) "025.0" false =
        .ok "-000590295810358705651712" := by
  have hvalue : (Value.fraction (-590295810358705651712 : Int)).toRat? =
      some ((-590295810358705651712 : Int) : Rat) := rfl
  have hlimit : |((-590295810358705651712 : Int) : Rat)| < fixedLimit := by
    norm_num [fixedLimit, abs_of_neg]
  have hp : Padding.parse? "025" = some ⟨.zero, 25⟩ := rfl
  have hspace : ∀ p, Padding.parse? "025" = some p → p.flag ≠ .space := by
    rintro p ⟨⟩
    decide
  have hint := (standsFor_of_toRat? hvalue (Binary64.toInt?_eq_some_iff.mpr toRat?_longBelow)).integer
  have hinteger : Render.integer (.fraction (-590295810358705651712 : Int)) "025" 10 none =
      .ok "-000590295810358705651712" := by
    exact integer_of_expectInteger hp rfl (hint none) .decimal
  obtain ⟨hsame, -, -⟩ :=
    fixed_zeroPlaces_sameOutcome hvalue toRat?_longBelow hlimit hspace none
  have hfixed : Render.fixed (.fraction (-590295810358705651712 : Int)) "025.0" false =
      .ok "-000590295810358705651712" := by
    cases hsame with
    | text left right =>
      obtain rfl := Except.ok.inj (right.symm.trans hinteger)
      exact left
    | sign _ right =>
      obtain ⟨f, hf, -⟩ := right
      cases hf.symm.trans hinteger
    | padding _ right =>
      obtain ⟨f, hf, -⟩ := right
      cases hf.symm.trans hinteger
  exact ⟨hvalue, toRat?_longBelow, hlimit, hp, hinteger, hfixed⟩

end BraceTemplate
