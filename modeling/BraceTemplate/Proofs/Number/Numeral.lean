import BraceTemplate.Number.Numeral
import BraceTemplate.Number.Shortest
import BraceTemplate.Proofs.Number.Scientific

/-!
# Reading decimals that were written

A decimal is written with its significant digits and the place of its point, positionally or with an
exponent. What is read from either text may have other digits and another exponent, since zeros are
added and dropped, but it has the same value.
-/

namespace BraceTemplate

/-! ## Digits -/

namespace Text

/-- All characters are ASCII digits. -/
def IsDigits (t : Text) : Prop :=
  ∀ c ∈ t, c.isDigit = true

theorem IsDigits.append {s t : Text} (hs : s.IsDigits) (ht : t.IsDigits) : IsDigits (s ++ t) :=
  List.forall_mem_append.mpr ⟨hs, ht⟩

theorem isDigits_replicate_zero (count : Nat) :
    IsDigits (List.replicate count ('0' : CodePoint)) := by
  intro c hc
  rw [List.eq_of_mem_replicate hc]
  rfl

theorem isDigits_ofNat (n : Nat) : IsDigits (ofNat n) :=
  List.all_eq_true.mp (all_isDigit_ofNat n)

theorem isNumeral_of_isDigits {t : Text} (hne : t ≠ []) (h : t.IsDigits) : isNumeral t = true := by
  simp only [isNumeral, Bool.and_eq_true, Bool.not_eq_true', List.isEmpty_eq_false_iff]
  exact ⟨hne, List.all_eq_true.mpr h⟩

/-- Digits behind a number shift it by as many places. -/
theorem foldl_digits (t : Text) (n : Nat) :
    t.foldl (fun n c => 10 * n + (c.toNat - 0x30)) n = n * 10 ^ t.length + toNat t := by
  induction t generalizing n with
  | nil => simp [toNat]
  | cons c rest ih =>
    rw [toNat, List.foldl_cons, List.foldl_cons, ih, ih (10 * 0 + (c.toNat - 0x30)),
      List.length_cons, Nat.pow_succ]
    ring

theorem toNat_append (s t : Text) : toNat (s ++ t) = toNat s * 10 ^ t.length + toNat t := by
  rw [toNat, List.foldl_append, foldl_digits]
  rfl

theorem toNat_replicate_zero (count : Nat) :
    toNat (List.replicate count ('0' : CodePoint)) = 0 := by
  induction count with
  | zero => rfl
  | succ count ih => exact ih

theorem toNat_zeros_append (count : Nat) (t : Text) :
    toNat (List.replicate count ('0' : CodePoint) ++ t) = toNat t := by
  rw [toNat_append, toNat_replicate_zero, Nat.zero_mul, Nat.zero_add]

theorem exists_eq_dropTrailing_append (c : CodePoint) (t : Text) :
    ∃ count, t = dropTrailing c t ++ List.replicate count c := by
  have hsplit := List.takeWhile_append_dropWhile (p := (· == c)) (l := t.reverse)
  have htaken : t.reverse.takeWhile (· == c) =
      List.replicate (t.reverse.takeWhile (· == c)).length c := by
    refine List.eq_replicate_of_mem fun d hd => ?_
    have htest := List.all_eq_true.mp List.all_takeWhile d hd
    simpa using htest
  refine ⟨(t.reverse.takeWhile (· == c)).length, ?_⟩
  have hreverse := congrArg List.reverse hsplit
  rw [htaken, List.reverse_append, List.reverse_replicate, List.reverse_reverse] at hreverse
  exact hreverse.symm

/-! ## Digits with a point -/

/-- The value of digits when the decimal point stands behind so many of them. -/
def placed (digits : Text) (point : Int) : Rat :=
  (toNat digits : Rat) * (10 : Rat) ^ (point - digits.length)

theorem ten_zpow_add (d e : Int) : (10 : Rat) ^ (d + e) = 10 ^ d * 10 ^ e :=
  zpow_add₀ (by norm_num) d e

/-- Zeros behind the digits do not change the value. -/
theorem placed_append_zeros (digits : Text) (count : Nat) (point : Int) :
    placed (digits ++ List.replicate count ('0' : CodePoint)) point = placed digits point := by
  rw [placed, placed, toNat_append, toNat_replicate_zero, Nat.add_zero, List.length_append,
    List.length_replicate]
  have hpoint : point - (digits.length : Int) =
      count + (point - ((digits.length + count : Nat) : Int)) := by
    push_cast
    omega
  rw [hpoint, ten_zpow_add, zpow_natCast, Nat.cast_mul, Nat.cast_pow, mul_assoc]
  rfl

/-- Zeros before the digits move the point. -/
theorem placed_zeros_append (digits : Text) (count : Nat) (point : Int) :
    placed (List.replicate count ('0' : CodePoint) ++ digits) (count + point) =
      placed digits point := by
  rw [placed, placed, toNat_zeros_append, List.length_append, List.length_replicate]
  congr 2
  push_cast
  omega

end Text

/-! ## Decimals -/

namespace Scientific

variable {s : Scientific}

theorem toRat_eq_placed (digits : Text) (exponent : Int) :
    toRat ⟨Text.toNat digits, exponent⟩ = Text.placed digits (digits.length + exponent) := by
  rw [toRat, Text.placed, add_sub_cancel_left]

theorem exists_significant_append (s : Scientific) :
    ∃ count, Text.ofNat s.digits = s.significant ++ List.replicate count ('0' : CodePoint) :=
  Text.exists_eq_dropTrailing_append '0' (Text.ofNat s.digits)

/-- The significant digits and the point tell the value. -/
theorem placed_significant (s : Scientific) : Text.placed s.significant s.point = s.toRat := by
  obtain ⟨count, hcount⟩ := s.exists_significant_append
  have hdigits := toRat_eq_placed (Text.ofNat s.digits) s.exponent
  rw [Text.toNat_ofNat] at hdigits
  rw [show s.toRat = toRat ⟨s.digits, s.exponent⟩ from rfl, hdigits, point, hcount,
    Text.placed_append_zeros]

theorem isDigits_significant (s : Scientific) : s.significant.IsDigits := by
  obtain ⟨count, hcount⟩ := s.exists_significant_append
  have hall := Text.isDigits_ofNat s.digits
  rw [hcount] at hall
  exact (List.forall_mem_append.mp hall).1

theorem significant_ne_nil (h : s.digits ≠ 0) : s.significant ≠ [] := by
  obtain ⟨count, hcount⟩ := s.exists_significant_append
  intro hnil
  rw [hnil, List.nil_append] at hcount
  have hvalue := Text.toNat_ofNat s.digits
  rw [hcount, Text.toNat_replicate_zero] at hvalue
  exact h hvalue.symm

/-- Written positionally, the digits have a point among them, with zeros to reach it. -/
theorem exists_positional_eq {digits : Text} (hne : digits ≠ []) (h : digits.IsDigits)
    (point : Int) :
    ∃ whole fraction : Text, positional ".0" digits point = whole ++ ('.' : CodePoint) :: fraction ∧
      whole ≠ [] ∧
      whole.IsDigits ∧ fraction.IsDigits ∧
      Text.placed (whole ++ fraction) whole.length = Text.placed digits point := by
  unfold positional
  by_cases hbefore : point ≤ 0
  · -- all digits stand behind the point, and zeros before them
    refine ⟨['0'], List.replicate point.natAbs ('0' : CodePoint) ++ digits, if_pos hbefore,
      List.cons_ne_nil _ _, Text.isDigits_replicate_zero 1,
      (Text.isDigits_replicate_zero _).append h, ?_⟩
    have hpoint : ((['0'] : Text).length : Int) = (point.natAbs + 1 : Nat) + point := by
      rw [List.length_singleton]
      omega
    rw [hpoint, ← Text.placed_zeros_append digits (point.natAbs + 1) point]
    rfl
  rw [if_neg hbefore]
  by_cases hbehind : digits.length ≤ point.toNat
  · -- all digits stand before the point, and zeros behind them
    refine ⟨digits ++ List.replicate (point.toNat - digits.length) ('0' : CodePoint), ['0'],
      if_pos hbehind,
      List.append_ne_nil_of_left_ne_nil hne _, h.append (Text.isDigits_replicate_zero _),
      Text.isDigits_replicate_zero 1, ?_⟩
    rw [show (['0'] : Text) = List.replicate 1 ('0' : CodePoint) from rfl, Text.placed_append_zeros,
      Text.placed_append_zeros, List.length_append, List.length_replicate]
    congr 1
    omega
  · have hlength : (digits.take point.toNat).length = point.toNat := by
      rw [List.length_take]
      omega
    refine ⟨digits.take point.toNat, digits.drop point.toNat, if_neg hbehind, ?_,
      fun c hc => h c (List.mem_of_mem_take hc), fun c hc => h c (List.mem_of_mem_drop hc), ?_⟩
    · rw [← List.length_pos_iff_ne_nil]
      omega
    · rw [List.take_append_drop, hlength]
      congr 1
      omega

end Scientific

/-! ## Reading decimals -/

namespace Numeral

/-- Behind the digits of a number stands something else. -/
def EndsDigits (rest : Text) : Prop :=
  ∀ c ∈ rest.head?, c.isDigit = false

theorem span_digits {digits rest : Text} (hdigits : digits.IsDigits) (hrest : EndsDigits rest) :
    (digits ++ rest).span CodePoint.isDigit = (digits, rest) := by
  have hnone : rest.takeWhile CodePoint.isDigit = [] ∧ rest.dropWhile CodePoint.isDigit = rest := by
    cases rest with
    | nil => exact ⟨rfl, rfl⟩
    | cons c rest =>
      have hc : c.isDigit = false := hrest c rfl
      simp [hc]
  rw [List.span_eq_takeWhile_dropWhile, List.takeWhile_append_of_pos hdigits,
    List.dropWhile_append_of_pos hdigits, hnone.1, hnone.2, List.append_nil]

/-- Digits with a point among them, and an exponent. -/
theorem readDecimal?_point {whole fraction rest : Text} (hne : whole ≠ []) (hwhole : whole.IsDigits)
    (hfraction : fraction.IsDigits) (hrest : EndsDigits rest) :
    readDecimal? (whole ++ ('.' : CodePoint) :: (fraction ++ rest)) =
      (readExponent? rest).map fun exponent =>
        ⟨Text.toNat (whole ++ fraction), exponent - fraction.length⟩ := by
  have hpoint : EndsDigits ('.' :: (fraction ++ rest)) := by
    rintro c ⟨⟩
    rfl
  simp only [readDecimal?, span_digits hwhole hpoint, takeFraction, span_digits hfraction hrest]
  rw [if_neg (by simp [hne])]

/-- Digits without a point, and an exponent. -/
theorem readDecimal?_whole {whole rest : Text} (hne : whole ≠ []) (hwhole : whole.IsDigits)
    (hrest : EndsDigits rest) (hpoint : rest.head? ≠ some ('.' : CodePoint)) :
    readDecimal? (whole ++ rest) =
      (readExponent? rest).map fun exponent => ⟨Text.toNat whole, exponent⟩ := by
  have hfraction : takeFraction rest = ([], rest) := by
    unfold takeFraction
    split
    · exact absurd rfl hpoint
    · rfl
  simp only [readDecimal?, span_digits hwhole hrest, hfraction]
  rw [if_neg (by simp [hne])]
  simp

/-! ## Reading what was written -/

/-- A sign and digits, when they are read, are the number that has them. -/
theorem signed_natAbs (i : Int) {n : Nat} (h : n = i.natAbs) :
    (if decide (i < 0) = true then -(n : Int) else n) = i := by
  subst h
  split
  · rename_i hneg
    have := of_decide_eq_true hneg
    omega
  · rename_i hneg
    have : ¬ i < 0 := by simpa using hneg
    omega

theorem readExponent?_exponentText (exponent : Int) :
    readExponent? ('e' :: Scientific.exponentText exponent) = some exponent := by
  have hpad : (Text.ofNat exponent.natAbs).leftpad 2 ('0' : CodePoint) =
      List.replicate (2 - (Text.ofNat exponent.natAbs).length) ('0' : CodePoint) ++
        Text.ofNat exponent.natAbs := rfl
  have hnumeral : Text.isNumeral ((Text.ofNat exponent.natAbs).leftpad 2 '0') = true := by
    rw [hpad]
    refine Text.isNumeral_of_isDigits ?_
      ((Text.isDigits_replicate_zero _).append (Text.isDigits_ofNat _))
    exact List.append_ne_nil_of_right_ne_nil _ (Text.ofNat_ne_nil _)
  have hvalue : Text.toNat ((Text.ofNat exponent.natAbs).leftpad 2 '0') = exponent.natAbs := by
    rw [hpad, Text.toNat_zeros_append, Text.toNat_ofNat]
  have hsign : takeSign (Scientific.exponentText exponent) =
      (decide (exponent < 0), (Text.ofNat exponent.natAbs).leftpad 2 ('0' : CodePoint)) := by
    unfold Scientific.exponentText
    by_cases hneg : exponent < 0 <;> simp [hneg, takeSign]
  simp only [readExponent?, hsign, hnumeral, true_or, if_true, signed_natAbs exponent hvalue]

theorem endsDigits_nil : EndsDigits [] := by
  rintro c ⟨⟩

theorem endsDigits_e (rest : Text) : EndsDigits ('e' :: rest) := by
  rintro c ⟨⟩
  rfl

/-- Digits with a point among them have the value that its place gives them. -/
theorem exists_readDecimal?_point {whole fraction rest : Text} {exponent : Int} (hne : whole ≠ [])
    (hwhole : whole.IsDigits) (hfraction : fraction.IsDigits) (hrest : EndsDigits rest)
    (hexponent : readExponent? rest = some exponent) :
    ∃ s, readDecimal? (whole ++ ('.' : CodePoint) :: (fraction ++ rest)) = some s ∧
      s.toRat = Text.placed (whole ++ fraction) (whole.length + exponent) := by
  refine ⟨_, by rw [readDecimal?_point hne hwhole hfraction hrest, hexponent]; rfl, ?_⟩
  rw [Scientific.toRat_eq_placed, List.length_append]
  congr 1
  push_cast
  omega

theorem exists_readDecimal?_positional {digits : Text} (hne : digits ≠ []) (h : digits.IsDigits)
    (point : Int) :
    ∃ s, readDecimal? (Scientific.positional ".0" digits point) = some s ∧
      s.toRat = Text.placed digits point := by
  obtain ⟨whole, fraction, htext, hwhole, hwholeDigits, hfraction, hplaced⟩ :=
    Scientific.exists_positional_eq hne h point
  obtain ⟨s, hread, hvalue⟩ :=
    exists_readDecimal?_point hwhole hwholeDigits hfraction endsDigits_nil rfl
  rw [List.append_nil] at hread
  exact ⟨s, htext ▸ hread, by rw [hvalue, add_zero, hplaced]⟩

theorem exists_readDecimal?_exponential {digits : Text} (hne : digits ≠ []) (h : digits.IsDigits)
    (point : Int) :
    ∃ s, readDecimal? (Scientific.exponential digits point) = some s ∧
      s.toRat = Text.placed digits point := by
  have hexponent := readExponent?_exponentText (point - 1)
  have hrest := endsDigits_e (Scientific.exponentText (point - 1))
  match digits, hne with
  | [first], _ =>
    refine ⟨⟨Text.toNat [first], point - 1⟩, ?_, ?_⟩
    · change readDecimal? ([first] ++ ('e' : CodePoint) :: Scientific.exponentText (point - 1)) = _
      rw [readDecimal?_whole (List.cons_ne_nil _ _) h hrest (by simp), hexponent]
      rfl
    · rw [Scientific.toRat_eq_placed, List.length_singleton]
      congr 1
      omega
  | first :: second :: fraction, _ =>
    obtain ⟨hfirst, hfraction⟩ := List.forall_mem_cons.mp h
    obtain ⟨s, hread, hvalue⟩ := exists_readDecimal?_point (List.cons_ne_nil first [])
      (List.forall_mem_singleton.mpr hfirst) hfraction hrest hexponent
    refine ⟨s, hread, hvalue.trans ?_⟩
    rw [List.length_singleton]
    congr 1
    omega

/-- **What is read from the text of a decimal has its value.** -/
theorem exists_readDecimal?_text {s : Scientific} (h : s.digits ≠ 0) :
    ∃ s', readDecimal? (s.text ".0") = some s' ∧ s'.toRat = s.toRat := by
  have hne := Scientific.significant_ne_nil h
  have hdigits := s.isDigits_significant
  rw [← s.placed_significant, Scientific.text]
  split
  · exact exists_readDecimal?_positional hne hdigits s.point
  · exact exists_readDecimal?_exponential hne hdigits s.point

end Numeral

end BraceTemplate
