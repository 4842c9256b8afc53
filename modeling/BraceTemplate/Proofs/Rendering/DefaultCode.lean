import BraceTemplate.Proofs.Number.Exact
import BraceTemplate.Proofs.Rendering.Reported

/-!
# Default codes

A specification that ends in a digit is all padding, and the kind of the value chooses the code.
Kinds and renderers classify values by tests of their own. This module shows that they agree: a
value suits the code that its kind chooses, so that nothing but the padding can be wrong, or its
plus sign in front of a negative number. Only for too many places there is no text and no fault.
-/

namespace BraceTemplate

/-! ## Negative numbers -/

/-- The value of a real number that is finite. -/
def Value.toRat? : Value → Option Rat
  | .int i => some i
  | .float x => x.toRat?
  | .fraction q => some q
  | _ => none

/-- A finite number below zero. -/
def Value.IsNegative (v : Value) : Prop :=
  ∃ q, v.toRat? = some q ∧ q < 0

theorem Value.isNegative_fraction_iff {q : Rat} : (Value.fraction q).IsNegative ↔ q < 0 := by
  simp [IsNegative, toRat?]

namespace Binary64

theorem isNegative_ofParts (mantissa : Nat) (exponent : Int) :
    (ofParts false mantissa exponent).isNegative = false := by
  unfold ofParts
  split <;> rfl

theorem isNegative_round (q : Rat) : (round false q).isNegative = false := by
  by_cases hq : q ≤ 0
  · rw [round, if_pos hq]
    rfl
  · rw [round_of_pos false (not_le.mp hq)]
    split <;> exact isNegative_ofParts _ _

/-- Only what is negative is rounded to a negative number. -/
theorem lt_zero_of_isNegative_ofRat {q : Rat} (h : (ofRat q).isNegative = true) : q < 0 := by
  by_contra hq
  rw [ofRat, if_neg hq, isNegative_round] at h
  cases h

theorem exists_toRat?_lt_zero {negative : Bool} {m : Magnitude}
    (h : (finite negative m).isNegative = true) :
    ∃ q, (finite negative m).toRat? = some q ∧ q < 0 := by
  obtain ⟨rfl, hm⟩ : negative = true ∧ m.mantissa ≠ 0 := by simpa [isNegative] using h
  exact ⟨-m.toRat, rfl, neg_neg_of_pos (Magnitude.toRat_pos hm)⟩

end Binary64

/-! ## Kinds and renderers -/

section Kinds

variable {v : Value}

/-- A whole floating-point number is an integer unless it is infinite. -/
theorem exists_toInt?_of_isWhole {x : Binary64} (hfinite : x.isFinite = true)
    (hwhole : x.isWhole = true) : ∃ i, x.toInt? = some i := by
  cases x with
  | finite negative m => exact Option.isSome_iff_exists.mp hwhole
  | _ => cases hfinite

theorem isFinite_of_roundedFraction? {q : Rat} {x : Binary64} (h : roundedFraction? q = some x) :
    x.isFinite = true := by
  obtain ⟨hfinite, rfl⟩ : (Binary64.ofRat q).isFinite = true ∧ Binary64.ofRat q = x := by
    simpa [roundedFraction?] using h
  exact hfinite

/-- The neighbour of a whole fraction is an integer. -/
theorem exists_toInt?_of_whole_fraction {q : Rat} (h : (Value.fraction q).kind? = some .whole) :
    ∃ x i, roundedFraction? q = some x ∧ x.toInt? = some i := by
  obtain ⟨whole, hwhole, hkind⟩ := Option.map_eq_some_iff.mp h
  obtain ⟨x, hx, rfl⟩ := Option.map_eq_some_iff.mp hwhole
  have hfinite := isFinite_of_roundedFraction? hx
  obtain ⟨i, hi⟩ := exists_toInt?_of_isWhole hfinite (by simpa using hkind)
  exact ⟨x, i, hx, hi⟩

/-- A whole number has an integer, or else a name. -/
theorem expectInteger_of_whole (h : v.kind? = some .whole)
    (hname : Render.nonFiniteName? v = none) (code : Option Text) :
    ∃ i, Render.expectInteger v code = .ok i ∧ (i < 0 → v.IsNegative) := by
  cases v with
  | int i => exact ⟨i, rfl, fun hi => ⟨i, rfl, by exact_mod_cast hi⟩⟩
  | float x =>
    have hfinite : x.isFinite = true := by simpa [Render.nonFiniteName?] using hname
    have hwhole : x.isWhole = true := by simpa [Value.kind?, Value.isWhole?] using h
    obtain ⟨i, hi⟩ := exists_toInt?_of_isWhole hfinite hwhole
    refine ⟨i, by simp [Render.expectInteger, hi], fun hnegative => ⟨i, ?_, ?_⟩⟩
    · exact Binary64.toInt?_eq_some_iff.mp hi
    · exact_mod_cast hnegative
  | fraction q =>
    obtain ⟨x, i, hx, hi⟩ := exists_toInt?_of_whole_fraction h
    refine ⟨q.num.tdiv q.den, by simp [Render.expectInteger, hx, hi], fun hnegative => ?_⟩
    refine Value.isNegative_fraction_iff.mpr (Rat.num_neg.mp ?_)
    by_contra hnum
    exact absurd (Int.tdiv_nonneg (not_lt.mp hnum) (Int.natCast_nonneg _)) (not_le.mpr hnegative)
  | _ => simp [Value.kind?] at h

/-- A fractional number is real. Where a sign stands in front of it, the value has it. -/
theorem toBinary64?_of_fractional (h : v.kind? = some .fractional) :
    ∃ x, v.toBinary64? = some x ∧ (x.isFinite = true → x.isNegative = true → v.IsNegative) := by
  cases v with
  | int i => simp [Value.kind?, Value.isWhole?] at h
  | float x =>
    refine ⟨x, rfl, fun hfinite hnegative => ?_⟩
    cases x with
    | finite negative m => exact Binary64.exists_toRat?_lt_zero hnegative
    | _ => cases hfinite
  | fraction q =>
    refine ⟨.ofRat q, rfl, fun _ hnegative => ?_⟩
    exact Value.isNegative_fraction_iff.mpr (Binary64.lt_zero_of_isNegative_ofRat hnegative)
  | _ => simp [Value.kind?] at h

end Kinds

/-! ## Values that suit a code -/

/-- What a code makes of a value that suits it, where `padding?` is what the padding is read as: a
text, or a fault of the padding, or one of its plus sign. -/
inductive Suits (v : Value) (padding : Text) : Option Padding → Except Failure Text → Prop where
  | shown {p t} : Suits v padding (some p) (.ok t)
  | unread {code} : Suits v padding none (.error (.ofCause (.invalidPadding padding code)))
  | plus {p} (flag_eq : p.flag = .plus) (negative : v.IsNegative) :
      Suits v padding (some p) (.error (.ofCause (.plusOnNegative padding)))

section Suits

variable {v : Value} {padding : Text}

theorem suits_applySign {digits : Text} {negative : Bool} {p : Padding}
    (h : negative = true → v.IsNegative) :
    Suits v padding (some p) (Render.applySign digits negative p padding) := by
  unfold Render.applySign
  split
  · rename_i hflag
    exact .plus hflag (h rfl)
  all_goals exact .shown

theorem suits_string (v : Value) (padding : Text) :
    Suits v padding (Padding.parse? padding) (Render.string v padding) := by
  unfold Render.string Render.readPadding
  cases Padding.parse? padding with
  | none => exact .unread
  | some p => exact .shown

theorem suits_integer (h : v.kind? = some .whole) (padding : Text) (code : Option Text) :
    Suits v padding (Padding.parse? padding) (Render.integer v padding 10 code) := by
  unfold Render.integer Render.readPadding
  cases Padding.parse? padding with
  | none => exact .unread
  | some p =>
    cases hname : Render.nonFiniteName? v with
    | some name => exact .shown
    | none =>
      obtain ⟨i, hi, hnegative⟩ := expectInteger_of_whole h hname code
      rw [hi]
      exact suits_applySign fun hsign => hnegative (of_decide_eq_true hsign)

/-- With as many places as can be asked for, a fractional number suits the fixed-point code. -/
theorem suits_fixed (h : v.kind? = some .fractional)
    (hplaces : ∀ e, ¬ FixedForm.number.Exceeds v padding e) :
    Suits v padding ((FixedPadding.parse? padding).map (·.padding))
      (Render.fixed v padding false) := by
  obtain ⟨x, hx, hnegative⟩ := toBinary64?_of_fractional h
  cases hp : FixedPadding.parse? padding with
  | none =>
    simp only [Render.fixed, Render.readFixedPadding, hp]
    exact .unread
  | some p =>
    rw [fixed_eq_fixedBinary64 hx hp]
    change Suits v padding (some p.padding) (Render.fixedBinary64 x p padding)
    cases x with
    | finite negative m =>
      by_cases hlimit : fixedLimit ≤ m.toRat
      · rw [Render.fixedBinary64, if_pos hlimit]
        exact .shown
      · have hsize : |if negative then -m.toRat else m.toRat| = m.toRat := by
          cases negative <;> simp [abs_of_nonneg m.toRat_nonneg]
        have hsmall := hsize.trans_lt (not_le.mp hlimit)
        have hfew : p.places ≤ maxPlaces :=
          not_lt.mp fun hmany => hplaces _ (.intro hx rfl hsmall hp hmany)
        simp only [Render.fixedBinary64, if_neg hlimit, fixedDigits_finite false (not_le.mp hlimit),
          if_pos hfew]
        exact suits_applySign (hnegative rfl)
    | _ => exact .shown

theorem Suits.ok_or_fault {padding? : Option Padding} {r : Except Failure Text}
    (h : Suits v padding padding? r) :
    (∃ t, r = .ok t) ∨
      ∃ f, r = .error (.fault f) ∧ (f.kind = .specification ∨ f.kind = .sign) := by
  cases h with
  | shown => exact .inl ⟨_, rfl⟩
  | unread => exact .inr ⟨_, rfl, .inl rfl⟩
  | plus => exact .inr ⟨_, rfl, .inr rfl⟩

theorem Suits.specification_iff {padding? : Option Padding} {r : Except Failure Text}
    (h : Suits v padding padding? r) :
    (∃ f, r = .error (.fault f) ∧ f.kind = .specification) ↔ padding? = none := by
  cases h with
  | shown => simp
  | unread => exact iff_of_true ⟨_, rfl, rfl⟩ rfl
  | plus =>
    refine iff_of_false ?_ (Option.some_ne_none _)
    rintro ⟨f, hf, hkind⟩
    cases hf
    cases hkind

theorem Suits.plus_of_sign {padding? : Option Padding} {r : Except Failure Text}
    (h : Suits v padding padding? r) (f : Fault) (hr : r = .error (.fault f))
    (hkind : f.kind = .sign) :
    ∃ p, padding? = some p ∧ p.flag = .plus ∧ v.IsNegative := by
  cases h with
  | shown => cases hr
  | unread =>
    cases hr
    cases hkind
  | plus hflag hnegative => exact ⟨_, rfl, hflag, hnegative⟩

end Suits

/-! ## Specifications that end in a digit -/

/-- What a default code reads a padding as. A fixed-point padding has places too. -/
def defaultPadding? (code : CodePoint) (t : Text) : Option Padding :=
  if code = 'f' then (FixedPadding.parse? t).map (·.padding) else Padding.parse? t

/-- A value suits its default code, or else that is the fixed-point code and there are too many
places. -/
theorem suits_defaultCode {v : Value} (h : InRange v) {spec : Text} {last : CodePoint}
    (hlast : spec.getLast? = some last) (hdigit : last.isDigit = true) :
    ∃ code, code ∈ (['s', 'd', 'f'] : Text) ∧ CodeTable.builtin.defaultCode v = .ok (.text [code]) ∧
      (Suits v spec (defaultPadding? code spec) (renderValue .builtin v (some spec)) ∧
          (code = 'f' → ∀ e, ¬ FixedForm.number.Exceeds v spec e) ∨
        code = 'f' ∧ AsksFixed v .number spec spec ∧
          ∃ e, FixedForm.number.Exceeds v spec e) := by
  obtain ⟨kind, hkind⟩ := Option.ne_none_iff_exists'.mp (kind?_ne_none h)
  have hcode := defaultCode_builtin kind hkind
  obtain ⟨padding, rfl⟩ := List.getLast?_eq_some_iff.mp hlast
  rw [renderValue_concat, if_pos hdigit, hcode]
  cases kind with
  | textLike => exact ⟨'s', by decide, rfl, .inl ⟨suits_string v _, fun h => absurd h (by decide)⟩⟩
  | whole => exact ⟨'d', by decide, rfl, .inl ⟨suits_integer hkind _ _, fun h => absurd h (by decide)⟩⟩
  | fractional =>
    refine ⟨'f', by decide, rfl, ?_⟩
    by_cases hexceeds : ∃ e, FixedForm.number.Exceeds v (padding ++ [last]) e
    · exact .inr ⟨rfl, .default hdigit hkind, hexceeds⟩
    · have hplaces := not_exists.mp hexceeds
      exact .inl ⟨suits_fixed hkind hplaces, fun _ => hplaces⟩
  | other => exact ⟨'s', by decide, rfl, .inl ⟨suits_string v _, fun h => absurd h (by decide)⟩⟩

/-- Where a number is to be shown with too many places, there is a padding. -/
theorem FixedForm.Exceeds.defaultPadding?_ne_none {form : FixedForm} {v : Value} {padding : Text}
    {e : Failure} (h : form.Exceeds v padding e) : defaultPadding? 'f' padding ≠ none := by
  cases h with
  | intro _ _ _ valid _ => simp [defaultPadding?, valid]

/-- **A value suits its default code**, but for too many places. Where a specification ends in a
digit, a value that is no fraction out of range is shown, unless the specification is no padding of
the chosen code, or asks for a plus sign in front of a negative number. These are the faults of the
specification and of the sign; there are no others. A failure that is no fault is that of too many
places, which only the fixed-point code can be asked for. -/
theorem renderValue_defaultCode {v : Value} (h : InRange v) {spec : Text} {last : CodePoint}
    (hlast : spec.getLast? = some last) (hdigit : last.isDigit = true) :
    ∃ code, code ∈ (['s', 'd', 'f'] : Text) ∧ CodeTable.builtin.defaultCode v = .ok (.text [code]) ∧
      (∀ f, renderValue .builtin v (some spec) = .error (.fault f) →
        f.kind = .specification ∨ f.kind = .sign) ∧
      ((∃ f, renderValue .builtin v (some spec) = .error (.fault f) ∧ f.kind = .specification) ↔
        defaultPadding? code spec = none) ∧
      (∀ f, renderValue .builtin v (some spec) = .error (.fault f) → f.kind = .sign →
        ∃ p, defaultPadding? code spec = some p ∧ p.flag = .plus ∧ v.IsNegative) ∧
      ∀ e, (renderValue .builtin v (some spec) = .error e ∧ ∀ f, e ≠ .fault f) ↔
        code = 'f' ∧ FixedForm.number.Exceeds v spec e := by
  obtain ⟨code, hmem, hcode, ⟨hsuits, hplaces⟩ | ⟨rfl, hasked, e, hexceeds⟩⟩ :=
    suits_defaultCode h hlast hdigit
  · refine ⟨code, hmem, hcode, ?_, hsuits.specification_iff, hsuits.plus_of_sign, fun e => ?_⟩
    · intro f hf
      rcases hsuits.ok_or_fault with ⟨t, ht⟩ | ⟨g, hg, hkinds⟩
      · cases ht.symm.trans hf
      · cases hg.symm.trans hf
        exact hkinds
    · refine iff_of_false ?_ fun hexceeds => hplaces hexceeds.1 e hexceeds.2
      rintro ⟨he, hescapes⟩
      rcases hsuits.ok_or_fault with ⟨t, ht⟩ | ⟨g, hg, -⟩
      · cases ht.symm.trans he
      · cases hg.symm.trans he
        exact hescapes g rfl
  · have hfails := hasked.renderValue_eq.trans hexceeds.render_eq
    have hescapes : ∀ f, renderValue .builtin v (some spec) ≠ .error (.fault f) := by
      intro f hf
      exact hexceeds.ne_fault f (Except.error.inj (hfails.symm.trans hf))
    refine ⟨'f', hmem, hcode, fun f hf => absurd hf (hescapes f), ?_,
      fun f hf => absurd hf (hescapes f), fun e' => ⟨?_, ?_⟩⟩
    · exact iff_of_false (fun ⟨f, hf, _⟩ => hescapes f hf) hexceeds.defaultPadding?_ne_none
    · rintro ⟨he', -⟩
      obtain rfl := Except.error.inj (hfails.symm.trans he')
      exact ⟨rfl, hexceeds⟩
    · rintro ⟨-, hexceeds'⟩
      exact ⟨hasked.renderValue_eq.trans hexceeds'.render_eq, hexceeds'.ne_fault⟩

/-- A negative integer behind a plus sign: the width is one, and the sign is refused. -/
theorem renderValue_defaultCode_of_plus :
    InRange (.int (-7)) ∧ ("+5" : Text).getLast? = some ('5' : CodePoint) ∧ '5'.isDigit = true ∧
      renderValue .builtin (.int (-7)) (some "+5") = .error (.ofCause (.plusOnNegative "+5")) ∧
      ∃ p, Padding.parse? "+5" = some p ∧ p.flag = .plus ∧ (Value.int (-7)).IsNegative := by
  have hrange : InRange (.int (-7)) := by
    intro q h
    cases h
  have hlast : ("+5" : Text).getLast? = some ('5' : CodePoint) := rfl
  have hrefused : renderValue .builtin (.int (-7)) (some "+5") =
      .error (.ofCause (.plusOnNegative "+5")) := by
    simp only [renderValue]
    rfl
  obtain ⟨code, -, hcode, -, -, hsign, -⟩ := renderValue_defaultCode hrange hlast (by decide)
  cases hcode
  exact ⟨hrange, hlast, by decide, hrefused, hsign _ hrefused rfl⟩

/-- An eighth is a fractional number, and with too many places its sign is not refused. -/
theorem renderValue_eighth_beyond_maxPlaces :
    InRange (.float (.finite true eighth)) ∧
      ("+0.2000055" : Text).getLast? = some ('5' : CodePoint) ∧
      FixedPadding.parse? "+0.2000055" = some ⟨⟨.plus, 0⟩, 2000055⟩ ∧
      renderValue .builtin (.float (.finite true eighth)) (some "+0.2000055") =
        .error (.decimalSignal .invalidOperation) := by
  have hrange : InRange (.float (.finite true eighth)) := by
    intro q h
    cases h
  have hkind : (Value.float (.finite true eighth)).kind? = some .fractional := by decide +kernel
  have hp : FixedPadding.parse? "+0.2000055" = some ⟨⟨.plus, 0⟩, 2000055⟩ := by decide +kernel
  have hasked : AsksFixed (.float (.finite true eighth)) .number "+0.2000055" "+0.2000055" := by
    change AsksFixed _ _ (("+0.200005" : Text) ++ (['5'] : Text))
      (("+0.200005" : Text) ++ (['5'] : Text))
    exact .default (by decide) hkind
  exact ⟨hrange, rfl, hp, hasked.renderValue_eq.trans exceeds_eighth.render_eq⟩

end BraceTemplate
