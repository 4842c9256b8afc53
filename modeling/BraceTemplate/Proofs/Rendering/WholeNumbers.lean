import BraceTemplate.Proofs.Number.Nearest
import BraceTemplate.Proofs.Rendering.DefaultCode
import BraceTemplate.Proofs.Rendering.IntegerText

/-!
# Whole numbers

Kinds and renderers decide by tests of their own whether a number is an integer, and both round a
fraction to a floating-point number before. They always agree. Of integers and floating-point
numbers they accept exactly those with an integral value, which is then shown without loss. Of
fractions they also accept some that are no integers: those nearer to an integer than the format can
tell apart. Of such a fraction the integer part is shown.
-/

namespace BraceTemplate

/-- A fraction that is no integer but is rounded to one. -/
def RoundedToInteger (v : Value) : Prop :=
  ∃ q, v = .fraction q ∧ q.den ≠ 1 ∧ Binary64.NearInteger q

/-- What a number is taken for: an integer, the one in front of its fractional digits, or no
integer. -/
inductive TakenAs (v : Value) (q : Rat) (code : Option Text) : Prop where
  | integer (value : q.den = 1 ∨ RoundedToInteger v) (kind : v.kind? = some .whole)
      (accepted : Render.expectInteger v code = .ok (q.num.tdiv q.den))
  | fractional (value : q.den ≠ 1 ∧ ¬ RoundedToInteger v) (kind : v.kind? = some .fractional)
      (refused : Render.expectInteger v code = .error (.ofCause (.notIntegral v code)))

section

variable {v : Value} {q : Rat}

theorem not_roundedToInteger (h : ∀ q, v ≠ .fraction q) : ¬ RoundedToInteger v := by
  rintro ⟨q, hv, -⟩
  exact h q hv

theorem nearInteger_of_den_eq_one (h : q.den = 1) : Binary64.NearInteger q := by
  rw [← Rat.coe_int_num_of_den_eq_one h]
  exact Binary64.nearInteger_intCast q.num

theorem nearInteger_iff :
    Binary64.NearInteger q ↔ q.den = 1 ∨ RoundedToInteger (.fraction q) := by
  constructor
  · intro h
    by_cases hden : q.den = 1
    · exact .inl hden
    · exact .inr ⟨q, rfl, hden, h⟩
  · rintro (hden | ⟨q', hq, -, h⟩)
    · exact nearInteger_of_den_eq_one hden
    · obtain rfl : q = q' := by simpa using hq
      exact h

theorem takenAs_float {x : Binary64} (h : x.toRat? = some q) (code : Option Text) :
    TakenAs (.float x) q code := by
  have hint : x.toInt? = if q.den = 1 then some q.num else none := by
    rw [Binary64.toInt?, h]
    rfl
  obtain ⟨negative, m, rfl, -⟩ := Binary64.toRat?_eq_some_iff.mp h
  by_cases hden : q.den = 1
  · rw [if_pos hden] at hint
    refine .integer (.inl hden) ?_ ?_
    · simp [Value.kind?, Value.isWhole?, Binary64.isWhole, hint]
    · simp [Render.expectInteger, hint, hden]
  · rw [if_neg hden] at hint
    refine .fractional ⟨hden, not_roundedToInteger (by simp)⟩ ?_ ?_
    · simp [Value.kind?, Value.isWhole?, Binary64.isWhole, hint]
    · simp [Render.expectInteger, hint]

theorem takenAs_fraction (h : |q| < Binary64.overflowLimit) (code : Option Text) :
    TakenAs (.fraction q) q code := by
  have hfinite := (Binary64.isFinite_ofRat_iff q).mpr h
  have hrounded : roundedFraction? q = some (.ofRat q) := by simp [roundedFraction?, hfinite]
  have hnear := (Binary64.isSome_toInt?_ofRat_iff h).trans nearInteger_iff
  have hwhole : (Binary64.ofRat q).isWhole = (Binary64.ofRat q).toInt?.isSome := by
    cases hx : Binary64.ofRat q with
    | finite negative m => rfl
    | _ =>
      rw [hx] at hfinite
      cases hfinite
  by_cases hvalue : q.den = 1 ∨ RoundedToInteger (.fraction q)
  · have hint := hnear.mpr hvalue
    refine .integer hvalue ?_ ?_
    · simp [Value.kind?, Value.isWhole?, hrounded, hwhole, hint]
    · simp [Render.expectInteger, hrounded, hint]
  · have hint := mt hnear.mp hvalue
    refine .fractional (not_or.mp hvalue) ?_ ?_
    · simp [Value.kind?, Value.isWhole?, hrounded, hwhole, hint]
    · simp [Render.expectInteger, hrounded, hint]

/-- Kinds and renderers take every number in range for the same. -/
theorem takenAs_of_toRat? (hv : v.toRat? = some q) (hrange : InRange v) (code : Option Text) :
    TakenAs v q code := by
  cases v with
  | int i =>
    obtain rfl : (i : Rat) = q := by simpa [Value.toRat?] using hv
    exact .integer (.inl rfl) rfl (by simp [Render.expectInteger])
  | float x => exact takenAs_float hv code
  | fraction q' =>
    obtain rfl : q' = q := by simpa [Value.toRat?] using hv
    exact takenAs_fraction (hrange q' rfl) code
  | _ => cases hv

theorem nonFiniteName?_of_toRat? (hv : v.toRat? = some q) : Render.nonFiniteName? v = none := by
  cases v with
  | float x => simp [Render.nonFiniteName?, Binary64.isFinite_of_toRat? hv]
  | _ => rfl

/-- The integer part is the value unless there are fractional digits. -/
theorem intCast_tdiv_eq_iff : ((q.num.tdiv q.den : Int) : Rat) = q ↔ q.den = 1 := by
  constructor
  · intro h
    rw [← h]
    rfl
  · intro h
    rw [h, Nat.cast_one, Int.tdiv_one, Rat.coe_int_num_of_den_eq_one h]

theorem den_ne_one_of_roundedToInteger (hv : v.toRat? = some q) (h : RoundedToInteger v) :
    q.den ≠ 1 := by
  obtain ⟨q', rfl, hden, -⟩ := h
  obtain rfl : q' = q := by simpa [Value.toRat?] using hv
  exact hden

/-- **Integers are told from other numbers up to the precision of the format.** A number in range is
refused by the codes for integers if and only if its value is no integer and is not rounded to one,
and is whole by kind in all other cases. From the text that is shown, the integer part of the value
is read in the base of the code, which is the value itself unless that is rounded to an integer. -/
theorem integer_exact_iff (hv : v.toRat? = some q) (hrange : InRange v) {padding : Text}
    {p : Padding} (hp : Padding.parse? padding = some p) (r : Radix) (code : Option Text) :
    ((∃ f, Render.integer v padding r.base code = .error (.fault f) ∧ f.kind = .type) ↔
        q.den ≠ 1 ∧ ¬ RoundedToInteger v) ∧
      (∀ t, Render.integer v padding r.base code = .ok t →
        ∃ i : Int, r.readInt? t = some i ∧ i = q.num.tdiv q.den ∧
          ((i : Rat) = q ↔ ¬ RoundedToInteger v)) ∧
      (v.kind? = some .whole ↔ q.den = 1 ∨ RoundedToInteger v) := by
  have hname := nonFiniteName?_of_toRat? hv
  cases takenAs_of_toRat? hv hrange code with
  | integer hvalue hkind haccepted =>
    have hshown := integer_of_expectInteger hp hname haccepted r
    refine ⟨iff_of_false ?_ ?_, ?_, iff_of_true hkind hvalue⟩
    · rintro ⟨f, hf, htype⟩
      rw [hshown] at hf
      split at hf
      · cases hf
        cases htype
      · cases hf
    · exact fun hother => hvalue.elim hother.1 hother.2
    · intro t ht
      refine ⟨_, readInt?_of_integer hp hname haccepted ht, rfl, intCast_tdiv_eq_iff.trans ?_⟩
      constructor
      · exact fun hden hrounded => den_ne_one_of_roundedToInteger hv hrounded hden
      · exact fun hrounded => hvalue.resolve_right hrounded
  | fractional hvalue hkind hrefused =>
    have hshown : Render.integer v padding r.base code =
        .error (.ofCause (.notIntegral v code)) := by
      rw [integer_eq_bind hp hname, hrefused]
      rfl
    rw [hshown, hkind]
    refine ⟨iff_of_true ⟨_, rfl, rfl⟩ hvalue, ?_, iff_of_false (by simp) ?_⟩
    · intro t ht
      cases ht
    · exact fun hother => hother.elim hvalue.1 hvalue.2

end

/-- The number `-2 ^ 53`, beyond which the format skips integers. -/
def skipsBelow : Binary64 :=
  .finite true ⟨fullMantissa, 1, by decide⟩

theorem toRat?_skipsBelow : skipsBelow.toRat? = some (-9007199254740992) := by
  norm_num [skipsBelow, Binary64.toRat?, Magnitude.toRat]

/-- A large number in hexadecimal digits, with zeros behind its sign. -/
theorem integer_exact_iff_of_zeros :
    (Value.float skipsBelow).toRat? = some (-9007199254740992) ∧ InRange (.float skipsBelow) ∧
      Padding.parse? "017" = some ⟨.zero, 17⟩ ∧
      Render.integer (.float skipsBelow) "017" 16 none = .ok "-0020000000000000" ∧
      Radix.hexadecimal.readInt? "-0020000000000000" = some (-9007199254740992) := by
  have hvalue : (Value.float skipsBelow).toRat? = some (-9007199254740992) := toRat?_skipsBelow
  have hrange : InRange (.float skipsBelow) := by
    intro q hq
    cases hq
  have hp : Padding.parse? "017" = some ⟨.zero, 17⟩ := rfl
  have hint : Render.expectInteger (.float skipsBelow) none = .ok (-9007199254740992) := by
    have hi : skipsBelow.toInt? = some (-9007199254740992) :=
      Binary64.toInt?_eq_some_iff.mpr (by exact_mod_cast toRat?_skipsBelow)
    simp only [Render.expectInteger, hi]
  have hshown : Render.integer (.float skipsBelow) "017" 16 none = .ok "-0020000000000000" := by
    exact integer_of_expectInteger hp rfl hint .hexadecimal
  obtain ⟨-, hread, -⟩ := integer_exact_iff hvalue hrange hp .hexadecimal none
  obtain ⟨i, hi, rfl, -⟩ := hread _ hshown
  exact ⟨hvalue, hrange, hp, hshown, hi⟩

/-- The fraction `2 ^ 53 + 1 / 2`. -/
def halfAbove : Rat :=
  mkRat 18014398509481985 2

theorem halfAbove_eq : halfAbove = 2 ^ 53 + 1 / 2 := by
  norm_num [halfAbove, Rat.mkRat_eq_div]

theorem halfAbove_pos : 0 < halfAbove := by
  norm_num [halfAbove_eq]

theorem nearInteger_halfAbove : Binary64.NearInteger halfAbove := by
  have hleading : binaryExponent halfAbove = 53 := by
    apply binaryExponent_eq <;> norm_num [halfAbove_eq]
  refine ⟨2 ^ 53, ?_⟩
  rw [Binary64.halfSpacing, Binary64.spacingExponent, abs_of_pos halfAbove_pos, hleading, halfAbove_eq]
  norm_num

/-- The fraction `2 ^ 53 + 1 / 2` is no integer, and it is shown as one and whole by kind. -/
theorem not_refused_halfAbove :
    InRange (.fraction halfAbove) ∧ halfAbove.den ≠ 1 ∧
      Render.integer (.fraction halfAbove) "" 10 none = .ok "9007199254740992" ∧
      (¬ ∃ f, Render.integer (.fraction halfAbove) "" 10 none = .error (.fault f) ∧
        f.kind = .type) ∧
      (Value.fraction halfAbove).kind? = some .whole := by
  have hden : halfAbove.den = 2 := rfl
  have hlimit : |halfAbove| < Binary64.overflowLimit := by
    rw [abs_of_pos halfAbove_pos, halfAbove_eq]
    calc (2 : Rat) ^ 53 + 1 / 2 < 2 ^ 54 - 1 := by norm_num
      _ ≤ Binary64.overflowLimit :=
        le_mul_of_one_le_right (by norm_num) (one_le_zpow₀ one_le_two (by norm_num))
  have hrange : InRange (.fraction halfAbove) := by
    intro q hq
    cases hq
    exact hlimit
  have hshown : Render.integer (.fraction halfAbove) "" 10 none = .ok "9007199254740992" ∧
      (Value.fraction halfAbove).kind? = some .whole := by
    cases takenAs_fraction hlimit none with
    | integer _ hkind haccepted =>
      have hp : Padding.parse? "" = some ⟨.absent, 0⟩ := rfl
      exact ⟨integer_of_expectInteger hp rfl haccepted .decimal, hkind⟩
    | fractional hvalue _ _ =>
      exact absurd ⟨_, rfl, hvalue.1, nearInteger_halfAbove⟩ hvalue.2
  refine ⟨hrange, by rw [hden]; decide, hshown.1, ?_, hshown.2⟩
  rintro ⟨f, hf, -⟩
  rw [hshown.1] at hf
  cases hf

end BraceTemplate
