import BraceTemplate.Proofs.Number.Numeral
import BraceTemplate.Proofs.Number.Radix
import BraceTemplate.Render.Fixed
import Mathlib.Data.List.TakeWhile

/-!
# Reading and writing paddings

A padding is nothing, a width in digits, or a width behind a blank or a plus, and with places it
goes on with a point and further digits. Exactly these texts are read. Every flag can be written in
front of every width, and every number of places behind them: what is written is read as the same
padding again.
-/

namespace BraceTemplate

/-! ## The grammar -/

/-- The texts that are paddings. A zero in front of digits is a digit itself, so only the other two
flags need a case of their own. -/
inductive IsPadding : Text → Prop where
  | empty : IsPadding []
  | width {digits : Text} (numeral : Text.isNumeral digits = true) : IsPadding digits
  | flagged {flag : CodePoint} {digits : Text} (flag_mem : flag = ' ' ∨ flag = '+')
      (numeral : Text.isNumeral digits = true) : IsPadding (flag :: digits)

/-- The texts that are paddings with places: a padding, alone or in front of a point that any number
of digits may follow. -/
inductive IsFixedPadding : Text → Prop where
  | whole {t : Text} (padding : IsPadding t) (no_point : ('.' : CodePoint) ∉ t) : IsFixedPadding t
  | places {t digits : Text} (padding : IsPadding t) (no_point : ('.' : CodePoint) ∉ t)
      (isDigits : digits.IsDigits) : IsFixedPadding (t ++ ('.' : CodePoint) :: digits)

/-- Nothing is made, for a fault of the padding. -/
def RefusesPadding {α : Type} (r : Except Failure α) : Prop :=
  ∃ f, r = .error (.fault f) ∧ f.kind = .specification

theorem Text.isNumeral_iff {t : Text} : isNumeral t = true ↔ t ≠ [] ∧ t.IsDigits := by
  simp [isNumeral, IsDigits]

theorem Text.IsDigits.no_point {t : Text} (h : t.IsDigits) : ('.' : CodePoint) ∉ t :=
  fun hmem => absurd (h '.' hmem) (by decide)

theorem IsPadding.no_point {t : Text} (h : IsPadding t) : ('.' : CodePoint) ∉ t := by
  cases h with
  | empty => exact List.not_mem_nil
  | width numeral => exact (Text.isNumeral_iff.mp numeral).2.no_point
  | flagged flag_mem numeral =>
    have hdigits := (Text.isNumeral_iff.mp numeral).2.no_point
    rcases flag_mem with rfl | rfl <;> simp [hdigits]

namespace Padding

/-! ## Paddings -/

/-- The flag, and the width in digits. -/
def text (p : Padding) : Text :=
  p.flag.text ++ Text.ofNat p.width

theorem exists_ofDigits?_iff {flag : Flag} {digits : Text} :
    (∃ p, ofDigits? flag digits = some p) ↔ digits.IsDigits := by
  unfold ofDigits? Text.IsDigits
  rw [← List.all_eq_true]
  by_cases hdigits : digits.all CodePoint.isDigit = true
  · rw [if_pos hdigits]
    exact iff_of_true ⟨_, rfl⟩ hdigits
  · rw [if_neg hdigits]
    exact iff_of_false (by simp) hdigits

theorem ofDigits?_ofNat (flag : Flag) (width : Nat) :
    ofDigits? flag (Text.ofNat width) = some ⟨flag, width⟩ := by
  rw [ofDigits?, if_pos (Text.all_isDigit_ofNat width), Text.toNat_ofNat]

/-- A digit is no flag, unless it is a zero. -/
theorem ofChar?_eq_none {c : CodePoint} (hdigit : c.isDigit = true) (hzero : c ≠ '0') :
    Flag.ofChar? c = none := by
  unfold Flag.ofChar?
  split
  · contradiction
  · exact absurd hdigit (by decide)
  · exact absurd hdigit (by decide)
  · rfl

/-- A flag is a zero, a blank or a plus. -/
theorem eq_of_ofChar?_eq_some {c : CodePoint} {flag : Flag} (h : Flag.ofChar? c = some flag) :
    c = '0' ∨ c = ' ' ∨ c = '+' := by
  unfold Flag.ofChar? at h
  split at h
  · exact .inl rfl
  · exact .inr (.inl rfl)
  · exact .inr (.inr rfl)
  · cases h

/-- Whatever follows a flag has to be its width. -/
theorem parse?_cons {c : CodePoint} {flag : Flag} (h : Flag.ofChar? c = some flag) {digits : Text}
    (hne : digits ≠ []) : parse? (c :: digits) = ofDigits? flag digits := by
  obtain ⟨next, rest, rfl⟩ := List.exists_cons_of_ne_nil hne
  simp only [parse?, h]

theorem isPadding_of_parse? {t : Text} {p : Padding} (h : parse? t = some p) : IsPadding t := by
  unfold parse? at h
  split at h
  · rename_i c next rest
    cases hflag : Flag.ofChar? c with
    | none =>
      rw [hflag] at h
      exact .width (Text.isNumeral_iff.mpr ⟨by simp, exists_ofDigits?_iff.mp ⟨p, h⟩⟩)
    | some flag =>
      rw [hflag] at h
      have hdigits := exists_ofDigits?_iff.mp ⟨p, h⟩
      rcases eq_of_ofChar?_eq_some hflag with rfl | hother
      · -- the zero is a digit of the width as well
        exact .width (Text.isNumeral_iff.mpr ⟨by simp, List.forall_mem_cons.mpr ⟨rfl, hdigits⟩⟩)
      · exact .flagged hother (Text.isNumeral_iff.mpr ⟨by simp, hdigits⟩)
  · have hdigits := exists_ofDigits?_iff.mp ⟨p, h⟩
    by_cases hne : t = []
    · exact hne ▸ .empty
    · exact .width (Text.isNumeral_iff.mpr ⟨hne, hdigits⟩)

/-- **Exactly the paddings are read.** -/
theorem exists_parse?_iff {t : Text} : (∃ p, parse? t = some p) ↔ IsPadding t := by
  refine ⟨fun ⟨_, h⟩ => isPadding_of_parse? h, fun h => ?_⟩
  cases h with
  | empty => exact ⟨_, rfl⟩
  | width numeral =>
    have hdigits := (Text.isNumeral_iff.mp numeral).2
    unfold parse?
    split
    · split
      · exact exists_ofDigits?_iff.mpr fun c hc => hdigits c (List.mem_cons_of_mem _ hc)
      · exact exists_ofDigits?_iff.mpr hdigits
    · exact exists_ofDigits?_iff.mpr hdigits
  | flagged flag_mem numeral =>
    obtain ⟨hne, hdigits⟩ := Text.isNumeral_iff.mp numeral
    rcases flag_mem with rfl | rfl
    · rw [parse?_cons (show Flag.ofChar? ' ' = some .space from rfl) hne]
      exact exists_ofDigits?_iff.mpr hdigits
    · rw [parse?_cons (show Flag.ofChar? '+' = some .plus from rfl) hne]
      exact exists_ofDigits?_iff.mpr hdigits

/-- The digits of a width have no flag in front, since they are a lone zero or begin with none. -/
theorem parse?_ofNat (width : Nat) : parse? (Text.ofNat width) = some ⟨.absent, width⟩ := by
  rw [← ofDigits?_ofNat]
  unfold parse?
  split
  · rename_i c next rest heq
    have hdigit : c.isDigit = true := Text.isDigits_ofNat width c (by rw [heq]; exact .head _)
    have hwidth : width ≠ 0 := by
      rintro rfl
      simp [Text.ofNat, Text.digits, Nat.toDigits_zero] at heq
    have hzero : c ≠ '0' := by
      have hhead := Radix.decimal.head?_digits_ne width hwidth
      rintro rfl
      exact hhead (by rw [show Radix.decimal.digits width = Text.ofNat width from rfl, heq]; rfl)
    rw [ofChar?_eq_none hdigit hzero, heq]
  · rfl

/-- Digits behind a flag are its width. -/
theorem parse?_flag {c : CodePoint} {flag : Flag} (h : Flag.ofChar? c = some flag) (width : Nat) :
    parse? (c :: Text.ofNat width) = some ⟨flag, width⟩ := by
  rw [parse?_cons h (Text.ofNat_ne_nil width), ofDigits?_ofNat]

/-- **A padding is read back.** -/
theorem parse?_text (p : Padding) : parse? p.text = some p := by
  obtain ⟨flag, width⟩ := p
  cases flag with
  | absent => exact parse?_ofNat width
  | zero => exact parse?_flag rfl width
  | space => exact parse?_flag rfl width
  | plus => exact parse?_flag rfl width

end Padding

namespace FixedPadding

/-! ## Paddings with places -/

/-- The padding, and the places behind a point. -/
def text (p : FixedPadding) : Text :=
  p.padding.text ++ ('.' : CodePoint) :: Text.ofNat p.places

theorem exists_parsePlaces?_iff {t : Text} : (∃ places, parsePlaces? t = some places) ↔ t.IsDigits := by
  unfold parsePlaces? Text.IsDigits
  rw [← List.all_eq_true]
  by_cases hempty : t.isEmpty = true
  · obtain rfl := List.isEmpty_iff.mp hempty
    exact iff_of_true ⟨_, rfl⟩ rfl
  · rw [if_neg hempty]
    by_cases hdigits : t.all CodePoint.isDigit = true
    · rw [if_pos hdigits]
      exact iff_of_true ⟨_, rfl⟩ hdigits
    · rw [if_neg hdigits]
      exact iff_of_false (by simp) hdigits

theorem parsePlaces?_ofNat (places : Nat) : parsePlaces? (Text.ofNat places) = some places := by
  rw [parsePlaces?, if_neg (by simpa using Text.ofNat_ne_nil places),
    if_pos (Text.all_isDigit_ofNat places), Text.toNat_ofNat]

/-- Without a point, the places are the default ones. -/
theorem parse?_of_no_point {t : Text} (h : ('.' : CodePoint) ∉ t) :
    parse? t = (Padding.parse? t).map (⟨·, defaultPlaces⟩) := by
  have hpadding : t.takeWhile (· != ('.' : CodePoint)) = t :=
    List.takeWhile_eq_self_iff.mpr (bne_of_not_mem h)
  have hplaces : t.dropWhile (· != ('.' : CodePoint)) = [] :=
    List.dropWhile_eq_nil_iff.mpr (bne_of_not_mem h)
  simp only [parse?, hpadding, hplaces, List.drop_nil]
  cases Padding.parse? t <;> rfl

/-- The first point ends the padding, and the places are behind it. -/
theorem parse?_append_point {t : Text} (h : ('.' : CodePoint) ∉ t) (rest : Text) :
    parse? (t ++ ('.' : CodePoint) :: rest) =
      (Padding.parse? t).bind fun p => (parsePlaces? rest).map (⟨p, ·⟩) := by
  simp only [parse?, takeWhile_ne_append h, dropWhile_ne_append h, List.drop_succ_cons,
    List.drop_zero]
  cases Padding.parse? t <;> cases parsePlaces? rest <;> rfl

/-- **Exactly the paddings with places are read.** -/
theorem exists_parse?_iff {t : Text} : (∃ p, parse? t = some p) ↔ IsFixedPadding t := by
  constructor
  · rintro ⟨p, h⟩
    by_cases hpoint : ('.' : CodePoint) ∈ t
    · obtain ⟨before, rest, rfl, hbefore⟩ := List.eq_append_cons_of_mem hpoint
      rw [parse?_append_point hbefore] at h
      obtain ⟨padding, hpadding, hplaces⟩ := Option.bind_eq_some_iff.mp h
      obtain ⟨places, hplaces, -⟩ := Option.map_eq_some_iff.mp hplaces
      exact .places (Padding.isPadding_of_parse? hpadding) hbefore
        (exists_parsePlaces?_iff.mp ⟨places, hplaces⟩)
    · rw [parse?_of_no_point hpoint] at h
      obtain ⟨padding, hpadding, -⟩ := Option.map_eq_some_iff.mp h
      exact .whole (Padding.isPadding_of_parse? hpadding) hpoint
  · intro h
    cases h with
    | whole padding no_point =>
      obtain ⟨p, hp⟩ := Padding.exists_parse?_iff.mpr padding
      exact ⟨_, by rw [parse?_of_no_point no_point, hp]; rfl⟩
    | places padding no_point isDigits =>
      obtain ⟨p, hp⟩ := Padding.exists_parse?_iff.mpr padding
      obtain ⟨places, hplaces⟩ := exists_parsePlaces?_iff.mpr isDigits
      exact ⟨_, by rw [parse?_append_point no_point, hp, hplaces]; rfl⟩

/-- Behind any text that is no padding, a point with a zero makes none either. -/
theorem parse?_append_zero (t : Text) :
    parse? (t ++ (['.', '0'] : Text)) = (Padding.parse? t).map (⟨·, 0⟩) := by
  by_cases hpoint : ('.' : CodePoint) ∈ t
  · have hpadding : Padding.parse? t = none := by
      rw [Option.eq_none_iff_forall_ne_some]
      exact fun p hp => (Padding.isPadding_of_parse? hp).no_point hpoint
    obtain ⟨before, rest, rfl, hbefore⟩ := List.eq_append_cons_of_mem hpoint
    -- the places begin behind the first point, so the one in front of the zero is among them
    have hplaces : parsePlaces? (rest ++ (['.', '0'] : Text)) = none := by
      rw [Option.eq_none_iff_forall_ne_some]
      intro places hplaces
      exact (exists_parsePlaces?_iff.mp ⟨places, hplaces⟩).no_point (by simp)
    rw [hpadding, List.append_assoc, List.cons_append, parse?_append_point hbefore, hplaces]
    cases Padding.parse? before <;> rfl
  · rw [parse?_append_point hpoint]
    cases Padding.parse? t <;> rfl

/-- **A padding with places is read back.** -/
theorem parse?_text (p : FixedPadding) : parse? p.text = some p := by
  have hpoint := (Padding.isPadding_of_parse? (Padding.parse?_text p.padding)).no_point
  rw [text, parse?_append_point hpoint, Padding.parse?_text, parsePlaces?_ofNat]
  rfl

end FixedPadding

/-! ## The renderers -/

theorem readPadding_eq_ok_iff {t : Text} {code : Option Text} {p : Padding} :
    Render.readPadding t code = .ok p ↔ Padding.parse? t = some p := by
  unfold Render.readPadding
  cases Padding.parse? t <;> simp

theorem readFixedPadding_eq_ok_iff {t : Text} {p : FixedPadding} :
    Render.readFixedPadding t = .ok p ↔ FixedPadding.parse? t = some p := by
  unfold Render.readFixedPadding
  cases FixedPadding.parse? t <;> simp

/-- What goes on with a padding is refused with it. -/
theorem RefusesPadding.bind {α β : Type} {r : Except Failure α} (h : RefusesPadding r)
    (next : α → Except Failure β) : RefusesPadding (r >>= next) := by
  obtain ⟨f, rfl, hkind⟩ := h
  exact ⟨f, rfl, hkind⟩

theorem refusesPadding_readPadding_iff {t : Text} {code : Option Text} :
    RefusesPadding (Render.readPadding t code) ↔ ¬ IsPadding t := by
  rw [← Padding.exists_parse?_iff]
  unfold Render.readPadding RefusesPadding
  cases Padding.parse? t with
  | none => exact iff_of_true ⟨_, rfl, rfl⟩ (by simp)
  | some p => exact iff_of_false (by simp) (by simp)

theorem refusesPadding_readFixedPadding_iff {t : Text} :
    RefusesPadding (Render.readFixedPadding t) ↔ ¬ IsFixedPadding t := by
  rw [← FixedPadding.exists_parse?_iff]
  unfold Render.readFixedPadding RefusesPadding
  cases FixedPadding.parse? t with
  | none => exact iff_of_true ⟨_, rfl, rfl⟩ (by simp)
  | some p => exact iff_of_false (by simp) (by simp)

/-- **Paddings are read exactly by their grammar.** The texts that are read are the paddings and the
paddings with places, and any other text is refused for its padding. Whatever is written with a
flag, a width and a number of places is read back, and a padding without a point is read the same
with places, of which there are then as many as by default. -/
theorem paddings_exact :
    (∀ t, (∃ p, Padding.parse? t = some p) ↔ IsPadding t) ∧
      (∀ t, (∃ p, Render.readFixedPadding t = .ok p) ↔ IsFixedPadding t) ∧
      (∀ t, RefusesPadding (Render.readFixedPadding t) ↔ ¬ IsFixedPadding t) ∧
      (∀ (flag : Flag) (width : Nat),
        Padding.parse? (flag.text ++ Text.ofNat width) = some ⟨flag, width⟩) ∧
      (∀ (flag : Flag) (width places : Nat),
        Render.readFixedPadding
          (flag.text ++ Text.ofNat width ++ ('.' : CodePoint) :: Text.ofNat places) =
          .ok ⟨⟨flag, width⟩, places⟩) ∧
      ∀ t p, ('.' : CodePoint) ∉ t → Padding.parse? t = some p →
        Render.readFixedPadding t = .ok ⟨p, FixedPadding.defaultPlaces⟩ := by
  refine ⟨fun t => Padding.exists_parse?_iff, fun t => ?_,
    fun t => refusesPadding_readFixedPadding_iff, fun flag width => Padding.parse?_text ⟨flag, width⟩,
    fun flag width places => ?_, fun t p hpoint hp => ?_⟩
  · simp only [readFixedPadding_eq_ok_iff, FixedPadding.exists_parse?_iff]
  · exact readFixedPadding_eq_ok_iff.mpr (FixedPadding.parse?_text ⟨⟨flag, width⟩, places⟩)
  · rw [readFixedPadding_eq_ok_iff, FixedPadding.parse?_of_no_point hpoint, hp]
    rfl

/-- A zero behind another flag is a digit, and a zero in front of a digit is a flag. -/
theorem paddings_exact_of_zeros :
    ('.' : CodePoint) ∉ ("+05" : Text) ∧ Padding.parse? "+05" = some ⟨.plus, 5⟩ ∧
      Render.readFixedPadding "+05" = .ok ⟨⟨.plus, 5⟩, 6⟩ ∧
      Padding.parse? "00" = some ⟨.zero, 0⟩ ∧
      Render.readFixedPadding "00.0" = .ok ⟨⟨.zero, 0⟩, 0⟩ := by
  obtain ⟨-, -, -, hpadding, hplaces, hdefault⟩ := paddings_exact
  have hpoint : ('.' : CodePoint) ∉ ("+05" : Text) := by decide
  have hplus : Padding.parse? "+05" = some ⟨.plus, 5⟩ := rfl
  exact ⟨hpoint, hplus, hdefault _ _ hpoint hplus, hpadding .zero 0, hplaces .zero 0 0⟩

end BraceTemplate
