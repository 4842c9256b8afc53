import BraceTemplate.Number.Numeral
import BraceTemplate.Render.Basic

/-!
# Layouts of numbers

A number is shown as blanks, a sign, zeros, and its digits. Either the blanks or the zeros fill it
up to the width of the padding, as the flag says, and neither if it is wide enough. A sign is refused
in one case only: where a plus is asked for in front of a negative number.
-/

namespace BraceTemplate

/-- No number is shown, for a fault of its sign. -/
def RefusesSign (r : Except Failure Text) : Prop :=
  ∃ f, r = .error (.fault f) ∧ f.kind = .sign

theorem refusesSign_ite {c : Prop} [Decidable c] {source t : Text} :
    RefusesSign (if c then .error (.ofCause (.plusOnNegative source)) else .ok t) ↔ c := by
  by_cases hc : c
  · rw [if_pos hc]
    exact iff_of_true ⟨_, rfl, rfl⟩ hc
  · rw [if_neg hc]
    refine iff_of_false ?_ hc
    rintro ⟨f, hf, -⟩
    cases hf

/-- The parts of a shown number. -/
structure Layout where
  blanks : Nat
  sign : Text
  zeros : Nat
  digits : Text

namespace Layout

def text (l : Layout) : Text :=
  List.replicate l.blanks (' ' : CodePoint) ++ l.sign ++ List.replicate l.zeros ('0' : CodePoint) ++
    l.digits

/-- A minus for what is negative; for all else a plus, if the flag asks for it. -/
def signUnder (flag : Flag) (negative : Bool) : Text :=
  if negative then ['-'] else if flag = .plus then ['+'] else []

/-- The sign is the one that the flag and the number ask for, and the filling is the flag's. -/
structure Fits (l : Layout) (flag : Flag) (negative : Bool) : Prop where
  sign_eq : l.sign = signUnder flag negative
  blanks_of_zero : flag = .zero → l.blanks = 0
  zeros_of_ne_zero : flag ≠ .zero → l.zeros = 0

/-- The digits behind their sign, filled up to the width. -/
def filled (p : Padding) (negative : Bool) (digits : Text) : Layout :=
  let sign := signUnder p.flag negative
  let missing := p.width - (sign.length + digits.length)
  if p.flag = .zero then ⟨0, sign, missing, digits⟩ else ⟨missing, sign, 0, digits⟩

section Filled

variable (p : Padding) (negative : Bool) (digits : Text)

theorem fits_filled : (filled p negative digits).Fits p.flag negative := by
  unfold filled
  by_cases hflag : p.flag = .zero
  · rw [if_pos hflag]
    exact ⟨rfl, fun _ => rfl, fun hne => absurd hflag hne⟩
  · rw [if_neg hflag]
    exact ⟨rfl, fun heq => absurd heq hflag, fun _ => rfl⟩

@[simp] theorem digits_filled : (filled p negative digits).digits = digits := by
  unfold filled
  by_cases hflag : p.flag = .zero <;> simp [hflag]

@[simp] theorem sign_filled : (filled p negative digits).sign = signUnder p.flag negative :=
  (fits_filled p negative digits).sign_eq

theorem length_text (l : Layout) :
    l.text.length = l.blanks + l.sign.length + l.zeros + l.digits.length := by
  simp [text, Nat.add_assoc]

/-- Sign and digits are never cut short, and otherwise have the width. -/
theorem length_text_filled :
    (filled p negative digits).text.length =
      max p.width ((signUnder p.flag negative).length + digits.length) := by
  rw [length_text]
  unfold filled
  by_cases hflag : p.flag = .zero
  · simp only [hflag, if_true]
    omega
  · simp only [hflag, if_false]
    omega

/-- **Digits are laid out behind their sign**, unless a plus is asked for in front of a negative
number. -/
theorem applySign_eq (source : Text) :
    Render.applySign digits negative p source =
      if p.flag = .plus ∧ negative = true then .error (.ofCause (.plusOnNegative source))
      else .ok (filled p negative digits).text := by
  obtain ⟨flag, width⟩ := p
  unfold filled text
  cases negative <;> cases flag <;>
    simp [Render.applySign, signUnder, Flag.fill, List.leftpad, Nat.sub_sub, Nat.add_comm]

/-- Under the space flag, at least one blank stands before what is not negative. -/
def spaced : Layout :=
  filled ⟨p.flag, if p.flag = .space ∧ !negative then max p.width (digits.length + 1) else p.width⟩
    negative digits

theorem fits_spaced : (spaced p negative digits).Fits p.flag negative :=
  fits_filled _ negative digits

@[simp] theorem digits_spaced : (spaced p negative digits).digits = digits :=
  digits_filled _ negative digits

theorem blanks_spaced_pos (hflag : p.flag = .space) (hnegative : negative = false) :
    0 < (spaced p negative digits).blanks := by
  obtain ⟨flag, width⟩ := p
  obtain rfl : flag = .space := hflag
  subst hnegative
  have hroom : 0 < max width (digits.length + 1) - (0 + digits.length) := by omega
  exact hroom

/-- The width is the only reason for a text to be longer than it is without one. -/
theorem length_text_spaced :
    (spaced p negative digits).text.length =
      max p.width (spaced ⟨p.flag, 0⟩ negative digits).text.length := by
  simp only [spaced, length_text_filled]
  split <;> omega

/-- **Digits behind a blank are laid out as digits with room for one.** -/
theorem applySign_blank_eq (source : Text) :
    Render.applySign (if p.flag = .space ∧ !negative then ' ' :: digits else digits) negative p
        source =
      if p.flag = .plus ∧ negative = true then .error (.ofCause (.plusOnNegative source))
      else .ok (spaced p negative digits).text := by
  by_cases hblank : p.flag = .space ∧ (!negative) = true
  · obtain ⟨hflag, hnegative⟩ := hblank
    have hplus : ¬ (p.flag = .plus ∧ negative = true) := by simp [hflag]
    have hroom : p.width - (digits.length + 1) + 1 =
        max p.width (digits.length + 1) - digits.length := by
      omega
    have hnegative : negative = false := by simpa using hnegative
    subst hnegative
    rw [applySign_eq, if_neg hplus, if_neg hplus]
    simp [spaced, filled, text, signUnder, hflag, ← hroom, List.replicate_succ']
  · rw [if_neg hblank, applySign_eq, spaced, if_neg hblank]

end Filled

/-! ## Reading a layout -/

/-- No blank and no sign stands in front. -/
def IsUnsigned (t : Text) : Prop :=
  ∀ c ∈ t.head?, c ≠ ' ' ∧ c ≠ '-' ∧ c ≠ '+'

theorem isUnsigned_zeros_append {t : Text} (h : IsUnsigned t) (count : Nat) :
    IsUnsigned (List.replicate count ('0' : CodePoint) ++ t) := by
  cases count with
  | zero => exact h
  | succ count =>
    rintro c ⟨⟩
    decide

theorem takeSign_append {flag : Flag} {negative : Bool} {t : Text} (h : IsUnsigned t) :
    Numeral.takeSign (signUnder flag negative ++ t) = (negative, t) := by
  cases negative with
  | true => rfl
  | false =>
    by_cases hflag : flag = .plus
    · simp [signUnder, hflag, Numeral.takeSign]
    · simp only [signUnder, hflag, Bool.false_eq_true, if_false, List.nil_append]
      unfold Numeral.takeSign
      split
      · exact absurd rfl (h '-' rfl).2.1
      · exact absurd rfl (h '+' rfl).2.2
      · rfl

theorem dropBlanks_append {t : Text} (h : t.head? ≠ some (' ' : CodePoint)) (count : Nat) :
    (List.replicate count (' ' : CodePoint) ++ t).dropWhile (· == (' ' : CodePoint)) = t := by
  rw [List.dropWhile_append_of_pos (by simp)]
  cases t with
  | nil => rfl
  | cons c rest =>
    have hc : c ≠ ' ' := by simpa using h
    simp [hc]

theorem head?_sign_append_ne_blank {flag : Flag} {negative : Bool} {t : Text} (h : IsUnsigned t) :
    (signUnder flag negative ++ t).head? ≠ some (' ' : CodePoint) := by
  unfold signUnder
  split
  · simp
  · split
    · simp
    · intro hhead
      exact (h ' ' hhead).1 rfl

/-- Behind its blanks, a layout is read as its sign and its digits. -/
theorem takeSign_text {l : Layout} {flag : Flag} {negative : Bool} (hfits : l.Fits flag negative)
    (hdigits : IsUnsigned l.digits) :
    Numeral.takeSign (l.text.dropWhile (· == (' ' : CodePoint))) =
      (negative, List.replicate l.zeros ('0' : CodePoint) ++ l.digits) := by
  have hbody := isUnsigned_zeros_append hdigits l.zeros
  rw [text, hfits.sign_eq, List.append_assoc, List.append_assoc,
    dropBlanks_append (head?_sign_append_ne_blank hbody), takeSign_append hbody]

end Layout

end BraceTemplate
