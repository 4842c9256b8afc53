import BraceTemplate.Proofs.Number.Numeral

/-!
# Numbers and their texts

The shortest digits of a floating-point number are chosen so that they read back, and all digits of
its exact value read back as well. So every number is read from its own text, with its sign and
whatever it is, and a whole number is read from its digits. The two sorts of numeral are kept apart
by a point or an exponent, one of which every decimal is written with.
-/

namespace BraceTemplate

/-! ## The shortest digits -/

namespace Binary64

theorem ofParts_of_ofParts_false {mantissa : Nat} {exponent : Int} {m : Magnitude}
    (h : ofParts false mantissa exponent = .finite false m) (negative : Bool) :
    ofParts negative mantissa exponent = .finite negative m := by
  unfold ofParts at h ⊢
  split
  · rename_i hcanonical
    rw [dif_pos hcanonical] at h
    cases h
    rfl
  · rename_i hcanonical
    rw [dif_neg hcanonical] at h
    cases h

/-- The sign of a number does not matter to how it is rounded. -/
theorem round_of_round_false {q : Rat} {m : Magnitude} (h : round false q = .finite false m)
    (negative : Bool) : round negative q = .finite negative m := by
  rcases lt_or_ge 0 q with hpos | hnonpos
  · rw [round_of_pos false hpos] at h
    rw [round_of_pos negative hpos]
    split
    · rename_i hcarry
      exact ofParts_of_ofParts_false (by rwa [if_pos hcarry] at h) negative
    · rename_i hcarry
      exact ofParts_of_ofParts_false (by rwa [if_neg hcarry] at h) negative
  · unfold round at h ⊢
    rw [if_pos hnonpos] at h ⊢
    cases h
    rfl

end Binary64

namespace Magnitude

variable {m : Magnitude}

theorem exactDecimal_toRat (m : Magnitude) : m.exactDecimal.toRat = m.toRat := by
  unfold exactDecimal
  split
  · rename_i hexponent
    obtain ⟨e, he⟩ := Int.eq_ofNat_of_zero_le hexponent
    simp [Scientific.toRat, toRat, he]
  · -- the fives of the mantissa make a power of two out of the power of ten
    rename_i hexponent
    have hten : (10 : Rat) ^ m.exponent = 5 ^ m.exponent * 2 ^ m.exponent := by
      rw [← mul_zpow]
      norm_num
    have hfive : (5 : Rat) ^ m.exponent.natAbs * 5 ^ m.exponent = 1 := by
      rw [← zpow_natCast, ← zpow_add₀ (by norm_num),
        show (m.exponent.natAbs : Int) + m.exponent = 0 from by omega, zpow_zero]
    calc ((m.mantissa * 5 ^ m.exponent.natAbs : Nat) : Rat) * 10 ^ m.exponent
        = m.mantissa * (5 ^ m.exponent.natAbs * 5 ^ m.exponent) * 2 ^ m.exponent := by
          rw [hten]
          push_cast
          ring
      _ = m.mantissa * 2 ^ m.exponent := by rw [hfive, mul_one]

/-- **The shortest digits read back**, with either sign. -/
theorem toBinary64_shortest (h : m.mantissa ≠ 0) (negative : Bool) :
    m.shortest.toBinary64 negative = .finite negative m := by
  rw [Scientific.toBinary64_eq_round]
  rcases m.shortest_eq_exactDecimal_or_isReadFrom with hexact | hread
  · rw [hexact, exactDecimal_toRat, round_toRat h]
  · have hround := eq_of_beq hread
    rw [Scientific.toBinary64_eq_round] at hround
    exact Binary64.round_of_round_false hround negative

theorem digits_shortest_ne_zero (h : m.mantissa ≠ 0) : m.shortest.digits ≠ 0 := by
  intro hzero
  have hread := toBinary64_shortest h false
  rw [Scientific.toBinary64, if_pos (.inl hzero)] at hread
  cases hread
  exact h rfl

end Magnitude

/-! ## Characters of numerals -/

namespace Numeral

/-- Digits and the marks of decimals: what numbers are written with. -/
def IsMark (c : CodePoint) : Prop :=
  c.isDigit = true ∨ c = '-' ∨ c = '+' ∨ c = '.' ∨ c = 'e'

instance : DecidablePred IsMark := fun c =>
  inferInstanceAs (Decidable (c.isDigit = true ∨ _))

theorem isMark_of_isDigits {t : Text} (h : t.IsDigits) : ∀ c ∈ t, IsMark c :=
  fun c hc => .inl (h c hc)

theorem IsMark.plain {c : CodePoint} (h : IsMark c) :
    c.toNat < 0x80 ∧ isBlank c = false ∧ c ≠ '_' := by
  rcases h with hdigit | rfl | rfl | rfl | rfl
  · have hc := CodePoint.isDigit_iff.mp hdigit
    have hne : ∀ d : CodePoint, d.toNat < 0x30 ∨ 0x39 < d.toNat → c ≠ d := by
      rintro d hd rfl
      omega
    refine ⟨by omega, ?_, hne '_' (by decide)⟩
    simp only [isBlank, List.mem_cons, List.not_mem_nil, or_false, decide_eq_false_iff_not, not_or]
    exact ⟨hne _ (by decide), hne _ (by decide), hne _ (by decide), hne _ (by decide),
      hne _ (by decide), hne _ (by decide)⟩
  all_goals decide

section Normal

variable {t : Text}

theorem plain?_of_ascii (h : ∀ c ∈ t, c.toNat < 0x80) : plain? t = some t := by
  induction t with
  | nil => rfl
  | cons c t ih =>
    obtain ⟨hc, ht⟩ := List.forall_mem_cons.mp h
    have hrest : t.mapM plainChar? = some t := ih ht
    rw [plain?, List.mapM_cons, hrest, plainChar?, if_pos hc]
    rfl

theorem trim_of_not_blank (h : ∀ c ∈ t, isBlank c = false) : trim t = t := by
  have hdrop : ∀ {s : Text}, (∀ c ∈ s, isBlank c = false) → s.dropWhile isBlank = s := by
    intro s hs
    cases s with
    | nil => rfl
    | cons c s => simp [hs c (List.mem_cons_self)]
  rw [trim, trimWhile, hdrop h, hdrop (fun c hc => h c (List.mem_reverse.mp hc)),
    List.reverse_reverse]

theorem ungroupAfter?_of_ungrouped (h : ('_' : CodePoint) ∉ t) (before : CodePoint) :
    ungroupAfter? before t = some t := by
  fun_induction ungroupAfter? before t with
  | case1 => rfl
  | case2 => simp at h
  | case3 => simp at h
  | case4 before c rest _ ih => rw [ih (fun hmem => h (List.mem_cons_of_mem c hmem))]; rfl

/-- What numbers are written with is left as it is. -/
theorem normal?_of_marks (h : ∀ c ∈ t, IsMark c) : normal? t = some t := by
  rw [normal?, plain?_of_ascii fun c hc => (h c hc).plain.1, Option.bind_some,
    trim_of_not_blank fun c hc => (h c hc).plain.2.1, ungroup?,
    ungroupAfter?_of_ungrouped fun hmem => (h '_' hmem).plain.2.2 rfl]

end Normal

/-- The first character, if there is one, is a digit. -/
def BeginsWithDigit (t : Text) : Prop :=
  ∀ c ∈ t.head?, c.isDigit = true

theorem beginsWithDigit_of_isDigits {t : Text} (h : t.IsDigits) : BeginsWithDigit t :=
  fun c hc => h c (List.mem_of_mem_head? hc)

/-- A text with a minus sign before it, if there is to be one. -/
def signed (negative : Bool) (t : Text) : Text :=
  (if negative then (['-'] : Text) else []) ++ t

/-- A sign is taken off what begins with a digit. -/
theorem takeSign_signed {t : Text} (h : BeginsWithDigit t) (negative : Bool) :
    takeSign (signed negative t) = (negative, t) := by
  cases negative with
  | true => rfl
  | false =>
    change takeSign t = (false, t)
    unfold takeSign
    split
    · cases h _ rfl
    · cases h _ rfl
    · rfl

theorem isMark_signed {t : Text} (h : ∀ c ∈ t, IsMark c) (negative : Bool) :
    ∀ c ∈ signed negative t, IsMark c := by
  cases negative with
  | true => exact List.forall_mem_cons.mpr ⟨.inr (.inl rfl), h⟩
  | false => exact h

/-! ## Whole numbers -/

theorem readInt?_signed {digits : Text} (hne : digits ≠ []) (h : digits.IsDigits)
    (hlength : digits.length ≤ maxDigits) (negative : Bool) :
    readInt? (signed negative digits) =
      some (if negative then -(Text.toNat digits : Int) else Text.toNat digits) := by
  have hmarks := isMark_signed (isMark_of_isDigits h) negative
  have hbegins := beginsWithDigit_of_isDigits h
  simp only [readInt?, normal?_of_marks hmarks, Option.bind_some, takeSign_signed hbegins,
    Text.isNumeral_of_isDigits hne h, hlength, true_and, if_true]

theorem ofInt_eq_signed (i : Int) :
    Text.ofInt i = signed (decide (i < 0)) (Text.ofNat i.natAbs) := by
  unfold Text.ofInt signed
  by_cases hneg : i < 0 <;> simp [hneg]

/-- **A whole number is read from its text.** -/
theorem readInt?_ofInt {i : Int} (h : (Text.ofNat i.natAbs).length ≤ maxDigits) :
    readInt? (Text.ofInt i) = some i := by
  rw [ofInt_eq_signed, readInt?_signed (Text.ofNat_ne_nil _) (Text.isDigits_ofNat _) h,
    signed_natAbs i (Text.toNat_ofNat _)]

/-! ## Decimals -/

/-- A text as a decimal has it: digits, and behind the first of them something that is none. -/
structure IsDecimal (t : Text) : Prop where
  marks : ∀ c ∈ t, IsMark c
  begins : BeginsWithDigit t
  not_numeral : Text.isNumeral t = false

theorem isDecimal_of_mark {whole rest : Text} {mark : CodePoint} (hne : whole ≠ [])
    (hwhole : whole.IsDigits) (hmark : mark = '.' ∨ mark = 'e') (hrest : ∀ c ∈ rest, IsMark c) :
    IsDecimal (whole ++ mark :: rest) where
  marks := by
    refine List.forall_mem_append.mpr ⟨fun c hc => .inl (hwhole c hc), ?_⟩
    exact List.forall_mem_cons.mpr ⟨.inr (.inr (.inr hmark)), hrest⟩
  begins := by
    intro c hc
    rw [List.head?_append_of_ne_nil _ hne] at hc
    exact beginsWithDigit_of_isDigits hwhole c hc
  not_numeral := by
    have hdigit : mark.isDigit = false := by rcases hmark with rfl | rfl <;> rfl
    simp [Text.isNumeral, hdigit]

theorem isMark_exponentText (exponent : Int) :
    ∀ c ∈ Scientific.exponentText exponent, IsMark c := by
  unfold Scientific.exponentText
  refine List.forall_mem_cons.mpr ⟨?_, isMark_of_isDigits ?_⟩
  · split
    · exact .inr (.inl rfl)
    · exact .inr (.inr (.inl rfl))
  · exact (Text.isDigits_replicate_zero _).append (Text.isDigits_ofNat _)

theorem isDecimal_positional {digits : Text} (hne : digits ≠ []) (h : digits.IsDigits)
    (point : Int) : IsDecimal (Scientific.positional ".0" digits point) := by
  obtain ⟨whole, fraction, htext, hwhole, hwholeDigits, hfraction, -⟩ :=
    Scientific.exists_positional_eq hne h point
  rw [htext]
  exact isDecimal_of_mark hwhole hwholeDigits (.inl rfl) (isMark_of_isDigits hfraction)

theorem isDecimal_exponential {digits : Text} (hne : digits ≠ []) (h : digits.IsDigits)
    (point : Int) : IsDecimal (Scientific.exponential digits point) := by
  have hexponent := isMark_exponentText (point - 1)
  match digits, hne with
  | [first], _ => exact isDecimal_of_mark (List.cons_ne_nil first []) h (.inr rfl) hexponent
  | first :: second :: fraction, _ =>
    obtain ⟨hfirst, hfraction⟩ := List.forall_mem_cons.mp h
    have htext : Scientific.exponential (first :: second :: fraction) point =
        [first] ++ ('.' : CodePoint) ::
          (second :: fraction ++ ('e' : CodePoint) :: Scientific.exponentText (point - 1)) := rfl
    rw [htext]
    refine isDecimal_of_mark (List.cons_ne_nil first []) (List.forall_mem_singleton.mpr hfirst)
      (.inl rfl) (List.forall_mem_append.mpr ⟨isMark_of_isDigits hfraction, ?_⟩)
    exact List.forall_mem_cons.mpr ⟨.inr (.inr (.inr (.inr rfl))), hexponent⟩

theorem isDecimal_text (m : Magnitude) : IsDecimal (m.text ".0") := by
  unfold Magnitude.text
  split
  · have hzero := Text.isDigits_replicate_zero 1
    exact isDecimal_of_mark (List.cons_ne_nil _ _) hzero (.inl rfl) (isMark_of_isDigits hzero)
  · rename_i hmantissa
    have hne := Scientific.significant_ne_nil (Magnitude.digits_shortest_ne_zero hmantissa)
    unfold Scientific.text
    split
    · exact isDecimal_positional hne (Scientific.isDigits_significant _) _
    · exact isDecimal_exponential hne (Scientific.isDigits_significant _) _

/-- A size is read from its text. -/
theorem exists_readDecimal?_magnitude (m : Magnitude) (negative : Bool) :
    ∃ s, readDecimal? (m.text ".0") = some s ∧ s.toBinary64 negative = .finite negative m := by
  unfold Magnitude.text
  split
  · rename_i hmantissa
    refine ⟨⟨0, -1⟩, rfl, ?_⟩
    rw [Magnitude.eq_zero hmantissa]
    rfl
  · rename_i hmantissa
    obtain ⟨s, hread, hvalue⟩ :=
      exists_readDecimal?_text (Magnitude.digits_shortest_ne_zero hmantissa)
    refine ⟨s, hread, ?_⟩
    rw [Scientific.toBinary64_eq_round, hvalue, ← Scientific.toBinary64_eq_round,
      Magnitude.toBinary64_shortest hmantissa]

theorem toLower_of_isDigit {c : CodePoint} (h : c.isDigit = true) : c.toLower = c := by
  have hlast := (CodePoint.isDigit_iff.mp h).2
  cases c with
  | scalar c =>
    refine congrArg CodePoint.scalar ?_
    unfold Char.toLower
    rw [dif_neg]
    rintro ⟨hletter, -⟩
    have : 65 ≤ c.toNat := by simpa [UInt32.le_iff_toNat_le] using hletter
    simp only [CodePoint.toNat] at hlast
    omega
  | surrogate index => rfl

/-- What begins with a digit is no name. -/
theorem map_toLower_ne {t : Text} (h : BeginsWithDigit t) (name : Text)
    (hname : ∃ c ∈ name.head?, c.isDigit = false) : t.map CodePoint.toLower ≠ name := by
  rintro rfl
  obtain ⟨c, hc, hletter⟩ := hname
  rw [List.head?_map] at hc
  obtain ⟨first, hfirst, rfl⟩ := Option.map_eq_some_iff.mp hc
  rw [toLower_of_isDigit (h first hfirst), h first hfirst] at hletter
  cases hletter

/-- A decimal is no whole number. -/
theorem readInt?_text (x : Binary64) : readInt? x.text = none := by
  match x with
  | .nan => rfl
  | .infinite negative => cases negative <;> rfl
  | .finite negative m =>
    have hsize := isDecimal_text m
    have hmarks := isMark_signed hsize.marks negative
    change readInt? (signed negative (m.text ".0")) = none
    simp only [readInt?, normal?_of_marks hmarks, Option.bind_some, takeSign_signed hsize.begins,
      hsize.not_numeral, Bool.false_eq_true, false_and, if_false]

/-- **A floating-point number is read from its text.** -/
theorem readFloat?_text (x : Binary64) : readFloat? x.text = some x := by
  match x with
  | .nan => rfl
  | .infinite negative => cases negative <;> rfl
  | .finite negative m =>
    have hsize := isDecimal_text m
    have hmarks := isMark_signed hsize.marks negative
    obtain ⟨s, hread, hvalue⟩ := exists_readDecimal?_magnitude m negative
    change readFloat? (signed negative (m.text ".0")) = _
    simp only [readFloat?, normal?_of_marks hmarks, Option.bind_some, takeSign_signed hsize.begins]
    have hnan := map_toLower_ne hsize.begins "nan" ⟨'n', rfl, rfl⟩
    have hinf := map_toLower_ne hsize.begins "inf" ⟨'i', rfl, rfl⟩
    have hinfinity := map_toLower_ne hsize.begins "infinity" ⟨'i', rfl, rfl⟩
    rw [if_neg hnan, if_neg (not_or.mpr ⟨hinf, hinfinity⟩), hread, Option.map_some, hvalue]

end Numeral

end BraceTemplate
