import BraceTemplate.Proofs.Number.Exact
import BraceTemplate.Proofs.Number.FixedDigits
import BraceTemplate.Proofs.Padding
import BraceTemplate.Proofs.Rendering.Layout

/-!
# Numbers with fixed places as they are shown

A real number is laid out as its sign and its digits with so many places, a percentage as a hundred
times the number in front of `%`. Either fills the width of the padding, and what is read from the
text is the number again, up to the last place.
-/

namespace BraceTemplate

/-! ## Reading -/

/-- The decimal behind a sign. -/
def Numeral.readRat? (t : Text) : Option Rat :=
  let (negative, size) := takeSign t
  (readDecimal? size).map fun s => if negative then -s.toRat else s.toRat

/-- The text without blanks and percent signs. -/
def Text.bare (t : Text) : Text :=
  t.filter fun c => c ≠ ' ' ∧ c ≠ '%'

namespace FixedDecimal

variable {places : Nat} {x : FixedDecimal places}

theorem not_mem_marks {c : CodePoint} (h : c ∈ x.text) : c ∉ ([' ', '%', '-', '+'] : Text) := by
  intro hmark
  have hmarks : ∀ c ∈ ([' ', '%', '-', '+'] : Text), ¬ (c.isDigit = true ∨ c = '.') := by
    simp only [List.forall_mem_cons, List.not_mem_nil, false_implies, implies_true]
    decide
  exact hmarks c hmark (isDigit_of_mem_text h)

theorem isUnsigned_text (x : FixedDecimal places) : Layout.IsUnsigned x.text := by
  intro c hc
  have hmark := not_mem_marks (List.mem_of_mem_head? hc)
  simp only [List.mem_cons, not_or] at hmark
  exact ⟨hmark.1, hmark.2.2.1, hmark.2.2.2.1⟩

theorem bare_text (x : FixedDecimal places) : Text.bare x.text = x.text := by
  refine List.filter_eq_self.mpr fun c hc => ?_
  have hmark := not_mem_marks hc
  simp only [List.mem_cons, not_or] at hmark
  simpa using ⟨hmark.1, hmark.2.1⟩

end FixedDecimal

theorem Text.bare_append (s t : Text) : bare (s ++ t) = bare s ++ bare t :=
  List.filter_append s t

/-- Blanks and percent signs only stand around sign, zeros and digits. -/
theorem bare_text_append {l : Layout} {flag : Flag} {negative : Bool} {mark : Text}
    (hfits : l.Fits flag negative) (hdigits : Text.bare l.digits = l.digits)
    (hmark : Text.bare mark = []) :
    Text.bare (l.text ++ mark) =
      l.sign ++ (List.replicate l.zeros ('0' : CodePoint) ++ l.digits) := by
  have hblanks : Text.bare (List.replicate l.blanks (' ' : CodePoint)) = [] := by simp [Text.bare]
  have hzeros : Text.bare (List.replicate l.zeros ('0' : CodePoint)) =
      List.replicate l.zeros ('0' : CodePoint) := by
    simp [Text.bare]
  have hsign : Text.bare l.sign = l.sign := by
    rw [hfits.sign_eq, Layout.signUnder]
    cases negative <;> cases flag <;> rfl
  rw [Layout.text]
  simp only [Text.bare_append, hblanks, hsign, hzeros, hdigits, hmark, List.nil_append,
    List.append_nil, List.append_assoc]

/-- From sign, zeros and digits the decimal is read that the digits are. -/
theorem readRat?_sign_append {places : Nat} (x : FixedDecimal places) (flag : Flag)
    (negative : Bool) (zeros : Nat) :
    Numeral.readRat?
      (Layout.signUnder flag negative ++ (List.replicate zeros ('0' : CodePoint) ++ x.text)) =
      some (if negative then -((x.units : Rat) / 10 ^ places) else x.units / 10 ^ places) := by
  have hread := x.readDecimal?_zeros_append_text zeros
  obtain ⟨s, hs, hvalue⟩ := Option.map_eq_some_iff.mp hread
  have hsign : Numeral.takeSign
      (Layout.signUnder flag negative ++ (List.replicate zeros ('0' : CodePoint) ++ x.text)) =
        (negative, List.replicate zeros ('0' : CodePoint) ++ x.text) :=
    Layout.takeSign_append (Layout.isUnsigned_zeros_append x.isUnsigned_text zeros)
  simp only [Numeral.readRat?, hsign, hs, Option.map_some, hvalue]

/-! ## Layouts -/

/-- The layout shows the number to so many places, as the flag asks. -/
structure ShowsFixed (flag : Flag) (places : Nat) (f : Rat) (mark : Text) (l : Layout) : Prop
    extends l.Fits flag (decide (f < 0)) where
  decimal : ∃ x : FixedDecimal places, l.digits = x.text
  blank : flag = .space → 0 ≤ f → 0 < l.blanks
  value : Numeral.readRat? (Text.bare (l.text ++ mark)) =
    some (if f < 0 then -roundedUp |f| places else roundedUp |f| places)

/-- A number laid out with room for the blank of the space flag. -/
theorem showsFixed_spaced (p : Padding) (places : Nat) (f : Rat) {mark : Text}
    (hmark : Text.bare mark = []) :
    ShowsFixed p.flag places f mark
      (Layout.spaced p (decide (f < 0)) (fixedText |f| places)) where
  toFits := Layout.fits_spaced _ _ _
  decimal := ⟨.ofUnits (roundedUnits |f| places) places, by rw [Layout.digits_spaced, fixedText_eq]⟩
  blank := fun hflag hf => Layout.blanks_spaced_pos _ _ _ hflag (by simpa using hf)
  value := by
    have hfits := Layout.fits_spaced p (decide (f < 0)) (fixedText |f| places)
    have hbare : Text.bare (fixedText |f| places) = fixedText |f| places :=
      FixedDecimal.bare_text (.ofUnits (roundedUnits |f| places) places)
    rw [bare_text_append hfits (by rw [Layout.digits_spaced, hbare]) hmark, hfits.sign_eq,
      Layout.digits_spaced, fixedText_eq, readRat?_sign_append, FixedDecimal.units_ofUnits,
      natCast_roundedUnits (abs_nonneg f)]
    simp only [decide_eq_true_eq]

/-! ## The renderers -/

/-- The last place that is shown. -/
def FixedPadding.lastPlace (p : FixedPadding) : Nat :=
  min p.places BraceTemplate.lastPlace

/-- Size and sign of a number are those of its value. A negative zero has no sign. -/
theorem exists_finite_of_toRat? {x : Binary64} {f : Rat} (h : x.toRat? = some f) :
    ∃ negative m, x = .finite negative m ∧ m.toRat = |f| ∧ x.isNegative = decide (f < 0) := by
  obtain ⟨negative, m, rfl, rfl⟩ := Binary64.toRat?_eq_some_iff.mp h
  refine ⟨negative, m, rfl, ?_, ?_⟩
  · cases negative <;> simp [abs_of_nonneg m.toRat_nonneg]
  · by_cases hm : m.mantissa = 0
    · simp [Binary64.isNegative, hm, Magnitude.toRat_of_mantissa_eq_zero hm]
    · have hpos := Magnitude.toRat_pos hm
      cases negative <;> simp [Binary64.isNegative, hm, hpos, hpos.le]

theorem fixedBinary64_eq {x : Binary64} {f : Rat} (h : x.toRat? = some f)
    (hlimit : |f| < fixedLimit) (p : FixedPadding) (source : Text) :
    Render.fixedBinary64 x p source =
      if p.places ≤ maxPlaces then
        if p.padding.flag = .plus ∧ f < 0 then .error (.ofCause (.plusOnNegative source))
        else .ok (Layout.spaced p.padding (decide (f < 0)) (fixedText |f| p.lastPlace)).text
      else .error (placesFailure p.places) := by
  obtain ⟨negative, m, rfl, hsize, hnegative⟩ := exists_finite_of_toRat? h
  rw [← hsize] at hlimit ⊢
  simp only [Render.fixedBinary64, if_neg hlimit.not_ge, fixedDigits_finite false hlimit]
  by_cases hplaces : p.places ≤ maxPlaces
  · rw [if_pos hplaces, if_pos hplaces]
    simp only [bind, Except.bind, Bool.false_eq_true, if_false, List.nil_append, hnegative,
      Layout.applySign_blank_eq, decide_eq_true_eq]
    rfl
  · rw [if_neg hplaces, if_neg hplaces]
    rfl

/-- A real number is shown as the nearest floating-point number is. -/
theorem fixed_eq_fixedBinary64 {v : Value} {x : Binary64} (hx : v.toBinary64? = some x)
    {padding : Text} {p : FixedPadding} (hp : FixedPadding.parse? padding = some p)
    (percentage : Bool) :
    Render.fixed v padding percentage =
      Render.fixedBinary64 x
        ⟨⟨p.padding.flag, if percentage then p.padding.width - 1 else p.padding.width⟩, p.places⟩
        padding := by
  simp only [Render.fixed, readFixedPadding_eq_ok_iff.mpr hp, hx, bind, Except.bind]

/-- The two ways to show a number with fixed places. -/
inductive FixedForm where
  | number
  | percentage

namespace FixedForm

def render : FixedForm → Renderer
  | .number, v, padding => Render.fixed v padding false
  | .percentage, v, padding => Render.percentage v padding

/-- What stands behind the number. -/
def mark : FixedForm → Text
  | .number => []
  | .percentage => ['%']

/-- The floating-point number that is shown, for a real number or its hundredfold. -/
def shown? : FixedForm → Value → Option Binary64
  | .number, v => v.toBinary64?
  | .percentage, v =>
    match v.timesHundred with
    | .ok hundredfold => hundredfold.toBinary64?
    | .error _ => none

/-- The layout of a number, which leaves room for the mark. -/
def layout (form : FixedForm) (p : FixedPadding) (f : Rat) : Layout :=
  Layout.spaced ⟨p.padding.flag, p.padding.width - form.mark.length⟩ (decide (f < 0))
    (fixedText |f| p.lastPlace)

theorem bare_mark (form : FixedForm) : Text.bare form.mark = [] := by
  cases form <;> rfl

variable {form : FixedForm} {v : Value} {x : Binary64} {f : Rat} {padding : Text} {p : FixedPadding}

theorem render_eq_fixedBinary64 (hx : form.shown? v = some x)
    (hp : FixedPadding.parse? padding = some p) :
    form.render v padding =
      (Render.fixedBinary64 x ⟨⟨p.padding.flag, p.padding.width - form.mark.length⟩, p.places⟩
        padding).map (· ++ form.mark) := by
  cases form with
  | number =>
    have hunmarked : ∀ r : Except Failure Text, r.map (· ++ ([] : Text)) = r := by
      rintro (e | t)
      · rfl
      · exact congrArg Except.ok (List.append_nil t)
    exact (fixed_eq_fixedBinary64 hx hp false).trans (hunmarked _).symm
  | percentage =>
    cases hundredfold : v.timesHundred with
    | error e => simp [shown?, hundredfold] at hx
    | ok w =>
      have hw : w.toBinary64? = some x := by simpa only [shown?, hundredfold] using hx
      simp only [render, Render.percentage, hundredfold, bind, Except.bind,
        fixed_eq_fixedBinary64 hw hp]
      cases Render.fixedBinary64 x ⟨⟨p.padding.flag, p.padding.width - 1⟩, p.places⟩ padding <;> rfl

theorem render_eq (hx : form.shown? v = some x) (hf : x.toRat? = some f) (hlimit : |f| < fixedLimit)
    (hp : FixedPadding.parse? padding = some p) :
    form.render v padding =
      if p.places ≤ maxPlaces then
        if p.padding.flag = .plus ∧ f < 0 then .error (.ofCause (.plusOnNegative padding))
        else .ok ((form.layout p f).text ++ form.mark)
      else .error (placesFailure p.places) := by
  rw [render_eq_fixedBinary64 hx hp, fixedBinary64_eq hf hlimit]
  by_cases hplaces : p.places ≤ maxPlaces
  · rw [if_pos hplaces, if_pos hplaces]
    split <;> rfl
  · rw [if_neg hplaces, if_neg hplaces]
    rfl

/-- The width of the padding, mark included, is the only reason for a text to be longer than it is
without one. -/
theorem length_layout (form : FixedForm) (p : FixedPadding) (f : Rat) :
    ((form.layout p f).text ++ form.mark).length =
      max p.padding.width
        ((form.layout ⟨⟨p.padding.flag, 0⟩, p.places⟩ f).text ++ form.mark).length := by
  have hwidth := Layout.length_text_spaced ⟨p.padding.flag, p.padding.width - form.mark.length⟩
    (decide (f < 0)) (fixedText |f| p.lastPlace)
  have hnarrow : FixedPadding.lastPlace ⟨⟨p.padding.flag, 0⟩, p.places⟩ = p.lastPlace := rfl
  simp only [layout, hnarrow, List.length_append, hwidth, Nat.zero_sub]
  omega

theorem showsFixed_layout (form : FixedForm) (p : FixedPadding) (f : Rat) :
    ShowsFixed p.padding.flag p.lastPlace f form.mark (form.layout p f) :=
  showsFixed_spaced ⟨p.padding.flag, p.padding.width - form.mark.length⟩ p.lastPlace f
    form.bare_mark

end FixedForm

/-- **A number with fixed places is shown as its sign and its digits**, as long as not too many
places are asked for. Alone or in percent, the text of a finite number below the limit is blanks,
the sign, zeros under their flag only, and a decimal with so many places, up to the last one. The
space flag keeps a blank where a minus could stand. The text is as long as the width, or as it is
without one, and what is read from it is the number, rounded to its last place and away from zero in
a tie. A sign is refused exactly where a plus is asked for in front of a negative number. With more
places nothing is shown, whatever the sign. -/
theorem render_showsFixed (form : FixedForm) {v : Value} {x : Binary64} {f : Rat}
    (hx : form.shown? v = some x) (hf : x.toRat? = some f) (hlimit : |f| < fixedLimit)
    {padding : Text} {p : FixedPadding} (hp : FixedPadding.parse? padding = some p) :
    (p.places ≤ maxPlaces →
      (RefusesSign (form.render v padding) ↔ p.padding.flag = .plus ∧ f < 0) ∧
        (¬ (p.padding.flag = .plus ∧ f < 0) →
          ∃ l : Layout, form.render v padding = .ok (l.text ++ form.mark) ∧
            ShowsFixed p.padding.flag (min p.places lastPlace) f form.mark l ∧
            ∃ narrow t, FixedPadding.parse? narrow = some ⟨⟨p.padding.flag, 0⟩, p.places⟩ ∧
              form.render v narrow = .ok t ∧
              (l.text ++ form.mark).length = max p.padding.width t.length)) ∧
      (maxPlaces < p.places → form.render v padding = .error (placesFailure p.places)) := by
  rw [FixedForm.render_eq hx hf hlimit hp]
  refine ⟨fun hplaces => ?_, fun hplaces => if_neg hplaces.not_ge⟩
  rw [if_pos hplaces]
  refine ⟨refusesSign_ite, fun hsign => ?_⟩
  let narrow : FixedPadding := ⟨⟨p.padding.flag, 0⟩, p.places⟩
  refine ⟨form.layout p f, if_neg hsign, form.showsFixed_layout p f, narrow.text,
    (form.layout narrow f).text ++ form.mark, narrow.parse?_text, ?_, form.length_layout p f⟩
  rw [FixedForm.render_eq hx hf hlimit narrow.parse?_text, if_pos hplaces, if_neg hsign]

/-- The number `12.5`. -/
def twelveAndHalf : Magnitude := ⟨0x19000000000000, -49, by decide⟩

theorem toRat_twelveAndHalf : twelveAndHalf.toRat = 25 / 2 := by
  norm_num [twelveAndHalf, Magnitude.toRat]

/-- The percentage of an eighth is a tie. Zeros stand between sign and digits, and `%` takes one
place of the width. -/
theorem render_showsFixed_of_percentage :
    FixedForm.percentage.shown? (.fraction (-1 / 8)) = some (.finite true twelveAndHalf) ∧
      (Binary64.finite true twelveAndHalf).toRat? = some (-25 / 2) ∧
      |(-25 / 2 : Rat)| < fixedLimit ∧
      FixedPadding.parse? "07.0" = some ⟨⟨.zero, 7⟩, 0⟩ ∧ 0 ≤ maxPlaces ∧
      Render.percentage (.fraction (-1 / 8)) "07.0" = .ok "-00013%" ∧
      Numeral.readRat? "-00013" = some (-13) := by
  have hf : (Binary64.finite true twelveAndHalf).toRat? = some (-25 / 2) := by
    norm_num [Binary64.toRat?, toRat_twelveAndHalf]
  have hx : FixedForm.percentage.shown? (.fraction (-1 / 8)) =
      some (.finite true twelveAndHalf) := by
    have hnearest := Binary64.ofRat_signed (q := 25 / 2) (by norm_num) true
    rw [← toRat_twelveAndHalf, Magnitude.round_toRat (by decide), toRat_twelveAndHalf] at hnearest
    rw [← hnearest]
    norm_num [FixedForm.shown?, Value.timesHundred, Value.toBinary64?]
  have hsize : |(-25 / 2 : Rat)| = 25 / 2 := by norm_num [abs_of_neg]
  have hsign : decide ((-25 / 2 : Rat) < 0) = true := by norm_num
  have hlimit : |(-25 / 2 : Rat)| < fixedLimit := by norm_num [hsize, fixedLimit]
  have hp : FixedPadding.parse? "07.0" = some ⟨⟨.zero, 7⟩, 0⟩ := rfl
  have hplaces : 0 ≤ maxPlaces := Nat.zero_le _
  have hrounded : roundedUp (25 / 2) 0 = 13 := by
    rw [roundedUp]
    norm_num
  have hunits : roundedUnits (25 / 2) 0 = 13 :=
    roundedUnits_eq (by norm_num) (by norm_num [hrounded])
  have hshown : Render.percentage (.fraction (-1 / 8)) "07.0" = .ok "-00013%" := by
    change FixedForm.percentage.render _ _ = _
    rw [FixedForm.render_eq hx hf hlimit hp, if_pos hplaces, if_neg (by decide)]
    simp only [FixedForm.layout, fixedText, hsize, hsign]
    rw [show roundedUnits (25 / 2) ((FixedPadding.lastPlace ⟨⟨.zero, 7⟩, 0⟩ : Nat) : Int) = 13 from
      hunits]
    rfl
  obtain ⟨hshows, -⟩ := render_showsFixed .percentage hx hf hlimit hp
  obtain ⟨l, htext, hl, -⟩ := (hshows hplaces).2 (by decide)
  have heq : ("-00013%" : Text) = l.text ++ (['%'] : Text) :=
    Except.ok.inj (hshown.symm.trans htext)
  have hvalue : Numeral.readRat? (Text.bare "-00013%") = some (-13) := by
    rw [heq]
    exact hl.value.trans (by norm_num [hsize, hrounded])
  exact ⟨hx, hf, hlimit, hp, hplaces, hshown, hvalue⟩

/-- The sign of a negative number is not refused where too many places are asked for. -/
theorem not_refusesSign_beyond_maxPlaces :
    FixedForm.number.shown? (.float (.finite true eighth)) = some (.finite true eighth) ∧
      (Binary64.finite true eighth).toRat? = some (-1 / 8) ∧
      |(-1 / 8 : Rat)| < fixedLimit ∧
      FixedPadding.parse? "+0.2000055" = some ⟨⟨.plus, 0⟩, 2000055⟩ ∧
      ¬ RefusesSign (Render.fixed (.float (.finite true eighth)) "+0.2000055" false) := by
  have hf : (Binary64.finite true eighth).toRat? = some (-1 / 8) := by
    norm_num [Binary64.toRat?, eighth_toRat]
  have hlimit : |(-1 / 8 : Rat)| < fixedLimit := by norm_num [fixedLimit, abs_of_neg]
  have hp : FixedPadding.parse? "+0.2000055" = some ⟨⟨.plus, 0⟩, 2000055⟩ := by decide +kernel
  refine ⟨rfl, hf, hlimit, hp, ?_⟩
  have hfailed : FixedForm.number.render (.float (.finite true eighth)) "+0.2000055" =
      .error (placesFailure 2000055) := by
    rw [FixedForm.render_eq rfl hf hlimit hp, if_neg (by decide)]
  rintro ⟨f, hrefused, -⟩
  cases hfailed.symm.trans hrefused

end BraceTemplate
