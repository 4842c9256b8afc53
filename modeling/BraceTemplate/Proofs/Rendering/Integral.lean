import BraceTemplate.Proofs.Number.Exact
import BraceTemplate.Proofs.Rendering.Reported

/-!
# Numbers that stand for an integer

An integer can be given as such, as a floating-point number without fractional digits, or as a
fraction. Renderers other than the one for texts see no difference: all three have the same kind,
are the same integer, and are rounded to the same number, as their hundredfolds are.
-/

namespace BraceTemplate

/-! ## Standing for an integer -/

/-- All that a renderer can see of the value is the integer. -/
structure StandsFor (v : Value) (i : Int) : Prop where
  kind : v.kind? = some .whole
  unnamed : Render.nonFiniteName? v = none
  integer : ∀ code, Render.expectInteger v code = .ok i
  rounded : ∃ x, v.toBinary64? = some x ∧ x.Agrees (.ofInt i)
  hundredfold : ∃ w x, v.timesHundred = .ok w ∧ w.toBinary64? = some x ∧
    x.Agrees (.ofInt (i * 100))

theorem standsFor_int (i : Int) : StandsFor (.int i) i where
  kind := rfl
  unnamed := rfl
  integer _ := rfl
  rounded := ⟨_, rfl, .inl rfl⟩
  hundredfold := ⟨_, _, rfl, rfl, .inl rfl⟩

section Representations

variable {x : Binary64} {i : Int}

theorem isWhole_of_toInt? (h : x.toInt? = some i) : x.isWhole = true := by
  cases x with
  | nan => cases h
  | infinite negative => rfl
  | finite negative m => exact Option.isSome_iff_exists.mpr ⟨i, h⟩

theorem standsFor_float (h : x.toInt? = some i) : StandsFor (.float x) i where
  kind := by simp [Value.kind?, Value.isWhole?, isWhole_of_toInt? h]
  unnamed := by
    simp [Render.nonFiniteName?, Binary64.isFinite_of_toRat? (Binary64.toInt?_eq_some_iff.mp h)]
  integer code := by simp [Render.expectInteger, h]
  rounded := ⟨x, rfl, Binary64.agrees_ofRat (Binary64.toInt?_eq_some_iff.mp h)⟩
  hundredfold := by
    have hagrees := Binary64.agrees_timesHundred (Binary64.toInt?_eq_some_iff.mp h)
    exact ⟨_, _, rfl, rfl, by simpa [Binary64.ofInt] using hagrees⟩

/-- An integer that a floating-point number has is no fraction out of range. -/
theorem roundedFraction?_intCast (h : x.toInt? = some i) :
    ∃ y, roundedFraction? i = some y ∧ y.toInt? = some i := by
  have hvalue := Binary64.toInt?_eq_some_iff.mp h
  have hrounded : (Binary64.ofRat i).toRat? = some (i : Rat) := by
    rw [← (Binary64.agrees_ofRat hvalue).toRat?_eq, hvalue]
  refine ⟨.ofRat i, ?_, Binary64.toInt?_eq_some_iff.mpr hrounded⟩
  simp [roundedFraction?, Binary64.isFinite_of_toRat? hrounded]

theorem standsFor_fraction (h : x.toInt? = some i) : StandsFor (.fraction i) i := by
  obtain ⟨y, hrounded, hy⟩ := roundedFraction?_intCast h
  refine ⟨?_, rfl, ?_, ⟨_, rfl, .inl rfl⟩, ⟨_, _, rfl, rfl, .inl ?_⟩⟩
  · simp [Value.kind?, Value.isWhole?, hrounded, isWhole_of_toInt? hy]
  · intro code
    simp [Render.expectInteger, hrounded, hy]
  · simp [Binary64.ofInt]

end Representations

/-! ## Renderers -/

/-- The sign of a zero is not shown. -/
theorem fixedBinary64_of_agrees {x y : Binary64} (h : x.Agrees y) (p : FixedPadding)
    (source : Text) : Render.fixedBinary64 x p source = Render.fixedBinary64 y p source := by
  rcases h with rfl | ⟨⟨a, rfl⟩, b, rfl⟩
  · rfl
  · have hsmall : ¬ fixedLimit ≤ Magnitude.zero.toRat := by
      norm_num [fixedLimit, Magnitude.zero, Magnitude.toRat]
    have hzero : Magnitude.zero.mantissa = 0 := rfl
    simp [Render.fixedBinary64, Binary64.zero, hsmall, Binary64.isNegative, hzero]

/-- Numbers that are rounded to the same have the same fixed-point text. -/
theorem fixed_of_agrees {v w : Value} {x y : Binary64} (hv : v.toBinary64? = some x)
    (hw : w.toBinary64? = some y) (h : x.Agrees y) (padding : Text) (percentage : Bool) :
    Render.fixed v padding percentage = Render.fixed w padding percentage := by
  simp only [Render.fixed, hv, hw, fixedBinary64_of_agrees h]

namespace StandsFor

variable {v : Value} {i : Int}

theorem ne_bool (h : StandsFor v i) (b : Bool) : v ≠ .bool b := by
  rintro rfl
  cases h.kind

theorem integer_eq (h : StandsFor v i) (padding : Text) (base : Int) (code : Option Text) :
    Render.integer v padding base code = Render.integer (.int i) padding base code := by
  have hint := standsFor_int i
  simp only [Render.integer, h.unnamed, h.integer, hint.unnamed, hint.integer]

theorem upperHexadecimal_eq (h : StandsFor v i) (padding : Text) :
    Render.upperHexadecimal v padding = Render.upperHexadecimal (.int i) padding := by
  simp only [Render.upperHexadecimal, h.integer_eq]

/-- Only truth values are refused before they are taken for integers. -/
theorem char_eq (h : StandsFor v i) (padding : Text) :
    Render.char v padding = Render.char (.int i) padding := by
  have hint := standsFor_int i
  unfold Render.char
  congr 1
  funext p
  split
  · exact absurd rfl (h.ne_bool _)
  · simp only [h.integer, hint.integer]

theorem fixed_eq (h : StandsFor v i) (padding : Text) :
    Render.fixed v padding false = Render.fixed (.int i) padding false := by
  obtain ⟨x, hx, hagrees⟩ := h.rounded
  exact fixed_of_agrees hx rfl hagrees padding false

theorem percentage_eq (h : StandsFor v i) (padding : Text) :
    Render.percentage v padding = Render.percentage (.int i) padding := by
  obtain ⟨w, x, hw, hx, hagrees⟩ := h.hundredfold
  have hint : (Value.int i).timesHundred = .ok (.int (i * 100)) := rfl
  have hfixed : Render.fixed w padding true = Render.fixed (.int (i * 100)) padding true :=
    fixed_of_agrees hx rfl hagrees padding true
  simp only [Render.percentage, hw, hint]
  exact congrArg (· >>= fun number => pure (number ++ (['%'] : Text))) hfixed

/-- A specification shows the value as it shows the integer, unless it asks for its text. -/
theorem renderValue_eq (h : StandsFor v i) (padding : Text) {code : CodePoint}
    (hcode : code ≠ 's') :
    renderValue .builtin v (some (padding ++ [code])) =
      renderValue .builtin (.int i) (some (padding ++ [code])) := by
  rw [renderValue_concat, renderValue_concat]
  split
  · rw [defaultCode_builtin _ h.kind, defaultCode_builtin _ (standsFor_int i).kind]
    exact h.integer_eq _ 10 (some (['d'] : Text))
  · rw [renderer_builtin]
    split
    · exact absurd rfl hcode
    · exact h.char_eq padding
    · exact h.integer_eq padding 10 (some (['d'] : Text))
    · exact h.integer_eq padding 8 (some (['o'] : Text))
    · exact h.integer_eq padding 16 (some (['x'] : Text))
    · exact h.upperHexadecimal_eq padding
    · exact h.integer_eq padding 2 (some (['b'] : Text))
    · exact h.fixed_eq padding
    · exact h.fixed_eq padding
    · exact h.percentage_eq padding
    · rfl

end StandsFor

/-- **An integer is shown the same in every representation.** A floating-point number without
fractional digits, the integer that it is, and that integer as a fraction have the same text or the
same fault under every specification that is not empty and does not ask for the text of a value, or
fail alike where that is not checked. -/
theorem renderValue_of_integral {x : Binary64} {i : Int} (h : x.toInt? = some i) {spec : Text}
    {code : CodePoint} (hlast : spec.getLast? = some code) (hcode : code ≠ 's') :
    renderValue .builtin (.float x) (some spec) = renderValue .builtin (.int i) (some spec) ∧
      renderValue .builtin (.fraction i) (some spec) = renderValue .builtin (.int i) (some spec) ∧
      ∀ e, renderValue .builtin (.int i) (some spec) = .error e →
        (∃ f, e = .fault f) ∨ Unchecked (.int i) (some spec) e := by
  obtain ⟨padding, rfl⟩ := List.getLast?_eq_some_iff.mp hlast
  exact ⟨(standsFor_float h).renderValue_eq padding hcode,
    (standsFor_fraction h).renderValue_eq padding hcode,
    fun _ he => fault_or_unchecked_of_renderValue he⟩

/-- A negative zero takes a plus sign as the integer zero does. -/
theorem renderValue_of_integral_negative_zero :
    (Binary64.zero true).toInt? = some 0 ∧
      renderValue .builtin (.float (.zero true)) (some "+4d") = .ok "  +0" ∧
      renderValue .builtin (.fraction ((0 : Int) : Rat)) (some "+4d") = .ok "  +0" := by
  have hzero : (Binary64.zero true).toInt? = some 0 :=
    Binary64.toInt?_eq_some_iff.mpr (Binary64.toRat?_zero true)
  have hint : renderValue .builtin (.int 0) (some "+4d") = .ok "  +0" := by
    simp only [renderValue]
    rfl
  have hlast : ("+4d" : Text).getLast? = some ('d' : CodePoint) := rfl
  obtain ⟨hfloat, hfraction, -⟩ := renderValue_of_integral hzero hlast (by decide)
  exact ⟨hzero, hfloat.trans hint, hfraction.trans hint⟩

end BraceTemplate
