import BraceTemplate.Proofs.Number.Range
import BraceTemplate.Proofs.Rendering.FixedText
import BraceTemplate.Proofs.Rendering.Substitution

/-!
# Failures that are reported

A failure is reported if it is a fault. The builtin renderers check what they are given and report
what does not fit, but for three things that they do without a check: a fraction is taken for a
floating-point number where an integer is asked for, a decimal number is multiplied where a
percentage is, and a number is written with as many places as the padding says. What cannot be done
there escapes as a failure of another sort. This module finds the calls for which that happens; all
others end in a text or a fault.
-/

namespace BraceTemplate

/-! ## Reported results -/

/-- If there is no result, then for a fault. -/
def Reported {α : Type} (r : Except Failure α) : Prop :=
  ∀ e, r = .error e → ∃ f, e = .fault f

namespace Reported

variable {α β : Type}

@[simp] theorem ok (a : α) : Reported (.ok a) := by
  intro e h
  cases h

@[simp] theorem error_iff {e : Failure} :
    Reported (.error e : Except Failure α) ↔ ∃ f, e = .fault f := by
  constructor
  · intro h
    exact h e rfl
  · intro h e' heq
    cases heq
    exact h

theorem ofCause (cause : Cause) : Reported (.error (.ofCause cause) : Except Failure α) :=
  error_iff.mpr ⟨_, rfl⟩

theorem bind {r : Except Failure α} {next : α → Except Failure β} (h : Reported r)
    (hnext : ∀ a, r = .ok a → Reported (next a)) : Reported (r >>= next) := by
  cases r with
  | ok a => exact hnext a rfl
  | error e => exact error_iff.mpr (h e rfl)

end Reported

/-! ## Fractions out of range -/

/-- The value is no fraction beyond the range of floating-point numbers. -/
def InRange (v : Value) : Prop :=
  ∀ q, v = .fraction q → |q| < Binary64.overflowLimit

theorem roundedFraction?_eq_none_iff (q : Rat) :
    roundedFraction? q = none ↔ Binary64.overflowLimit ≤ |q| := by
  rw [← not_lt, ← Binary64.isFinite_ofRat_iff]
  unfold roundedFraction?
  simp

theorem roundedFraction?_ne_none {v : Value} (h : InRange v) {q : Rat} (hv : v = .fraction q) :
    roundedFraction? q ≠ none := by
  rw [ne_eq, roundedFraction?_eq_none_iff, not_le]
  exact h q hv

/-- The kind of a value is known unless it is a fraction out of range. -/
theorem kind?_eq_none_iff {v : Value} :
    v.kind? = none ↔ ∃ q, v = .fraction q ∧ Binary64.overflowLimit ≤ |q| := by
  cases v with
  | fraction q => simp [Value.kind?, Value.isWhole?, roundedFraction?_eq_none_iff]
  | _ => simp [Value.kind?, Value.isWhole?]

theorem kind?_ne_none {v : Value} (h : InRange v) : v.kind? ≠ none := by
  intro hkind
  obtain ⟨q, hv, hq⟩ := kind?_eq_none_iff.mp hkind
  exact absurd (h q hv) (not_lt.mpr hq)

/-! ## Renderers -/

section Renderers

variable {v : Value} {padding : Text} {code : Option Text}

theorem reported_readPadding (t : Text) (code : Option Text) :
    Reported (Render.readPadding t code) := by
  unfold Render.readPadding
  split
  · exact .ok _
  · exact .ofCause _

theorem isSome_of_readPadding {t : Text} {p : Padding} (h : Render.readPadding t code = .ok p) :
    (Padding.parse? t).isSome := by
  unfold Render.readPadding at h
  split at h
  · rename_i heq
    simp [heq]
  · cases h

theorem reported_applySign (digits : Text) (negative : Bool) (p : Padding) (source : Text) :
    Reported (Render.applySign digits negative p source) := by
  unfold Render.applySign
  split
  · exact .ofCause _
  all_goals exact .ok _

theorem reported_string (v : Value) (padding : Text) : Reported (Render.string v padding) :=
  (reported_readPadding _ _).bind fun _ _ => .ok _

/-- A number is shown or reported, unless it is to be shown with too many places. -/
theorem reported_fixedBinary64 {x : Binary64} {p : FixedPadding} (source : Text)
    (h : ∀ f, x.toRat? = some f → |f| < fixedLimit → p.places ≤ maxPlaces) :
    Reported (Render.fixedBinary64 x p source) := by
  cases x with
  | finite negative m =>
    by_cases hlimit : fixedLimit ≤ m.toRat
    · simp [Render.fixedBinary64, if_pos hlimit]
    · have hsize : |if negative then -m.toRat else m.toRat| = m.toRat := by
        cases negative <;> simp [abs_of_nonneg m.toRat_nonneg]
      have hplaces := h _ rfl (hsize.trans_lt (not_le.mp hlimit))
      simp only [Render.fixedBinary64, if_neg hlimit, fixedDigits_finite false (not_le.mp hlimit),
        if_pos hplaces]
      exact reported_applySign _ _ _ _
  | infinite _ => exact .ok _
  | nan => exact .ok _

theorem reported_readFixedPadding (t : Text) : Reported (Render.readFixedPadding t) := by
  unfold Render.readFixedPadding
  split
  · exact .ok _
  · exact .ofCause _

theorem reported_expectInteger (h : InRange v) (code : Option Text) :
    Reported (Render.expectInteger v code) := by
  unfold Render.expectInteger
  split
  · exact .ok _
  · exact .ok _
  · split
    · exact .ok _
    · exact .ofCause _
  · split
    · rename_i hnone
      exact absurd hnone (roundedFraction?_ne_none h rfl)
    · split
      · exact .ok _
      · exact .ofCause _
  · exact .ofCause _

/-- The padding is checked before the value. -/
theorem reported_integer (h : (Padding.parse? padding).isSome → InRange v) {base : Int}
    {radix : Radix} (hbase : Radix.ofBase base = .ok radix) :
    Reported (Render.integer v padding base code) := by
  refine (reported_readPadding _ _).bind fun p hp => ?_
  split
  · exact .ok _
  · refine (reported_expectInteger (h (isSome_of_readPadding hp)) code).bind fun i _ => ?_
    rw [hbase]
    exact reported_applySign _ _ _ _

theorem reported_char (h : (Padding.parse? padding).isSome → InRange v) :
    Reported (Render.char v padding) := by
  refine (reported_readPadding _ _).bind fun p hp => ?_
  split
  · exact .ofCause _
  · refine (reported_expectInteger (h (isSome_of_readPadding hp)) _).bind fun i _ => ?_
    split
    · exact .ok _
    · exact .ofCause _

theorem reported_upperHexadecimal (h : (Padding.parse? padding).isSome → InRange v) :
    Reported (Render.upperHexadecimal v padding) :=
  (reported_integer h rfl).bind fun _ _ => .ok _

theorem reported_timesHundred
    (h : ∀ d signal, v = .decimal d → d.timesHundred ≠ .error signal) :
    Reported v.timesHundred := by
  unfold Value.timesHundred
  split
  · exact .ok _
  · exact .ok _
  · exact .ok _
  · split
    · exact .ok _
    · rename_i signal hsignal
      exact absurd hsignal (h _ _ rfl)
  · exact .ok _
  · exact .ofCause _

/-- A finite number below the limit is to be shown with too many places. -/
inductive FixedForm.Exceeds (form : FixedForm) (v : Value) (padding : Text) : Failure → Prop where
  | intro {x f p} (shown : form.shown? v = some x) (value : x.toRat? = some f)
      (small : |f| < fixedLimit) (valid : FixedPadding.parse? padding = some p)
      (many : maxPlaces < p.places) : Exceeds form v padding (placesFailure p.places)

theorem placesFailure_ne_fault (places : Nat) (f : Fault) : placesFailure places ≠ .fault f := by
  unfold placesFailure
  split
  · simp
  · split <;> simp

theorem FixedForm.Exceeds.ne_fault {form : FixedForm} {e : Failure}
    (h : form.Exceeds v padding e) (f : Fault) : e ≠ .fault f := by
  cases h
  exact placesFailure_ne_fault _ f

theorem locate_placesFailure (site : Site) (places : Nat) :
    (placesFailure places).locate site = placesFailure places := by
  unfold placesFailure
  split
  · rfl
  · split <;> rfl

/-- What is to be shown with too many places fails. -/
theorem FixedForm.Exceeds.render_eq {form : FixedForm} {e : Failure}
    (h : form.Exceeds v padding e) : form.render v padding = .error e := by
  cases h with
  | intro shown value small valid many =>
    rw [FixedForm.render_eq shown value small valid, if_neg many.not_ge]

/-- A negative eighth with too many places, of which the sign would be refused. -/
theorem exceeds_eighth : FixedForm.number.Exceeds (.float (.finite true eighth)) "+0.2000055"
    (.decimalSignal .invalidOperation) := by
  have hp : FixedPadding.parse? "+0.2000055" = some ⟨⟨.plus, 0⟩, 2000055⟩ := by decide +kernel
  have hf : (Binary64.finite true eighth).toRat? = some (-1 / 8) := by
    norm_num [Binary64.toRat?, eighth_toRat]
  have hlimit : |(-1 / 8 : Rat)| < fixedLimit := by norm_num [fixedLimit, abs_of_neg]
  exact .intro rfl hf hlimit hp (by decide)

/-- A value with fixed places is shown or reported, unless there are too many places. -/
theorem reported_fixed (percentage : Bool)
    (h : ∀ x f p, v.toBinary64? = some x → x.toRat? = some f → |f| < fixedLimit →
      FixedPadding.parse? padding = some p → p.places ≤ maxPlaces) :
    Reported (Render.fixed v padding percentage) := by
  refine (reported_readFixedPadding padding).bind fun p hp => ?_
  split
  · exact .ofCause _
  · rename_i x hx
    exact reported_fixedBinary64 padding fun f hf hlimit =>
      h x f p hx hf hlimit (readFixedPadding_eq_ok_iff.mp hp)

theorem reported_number (h : ∀ e, ¬ FixedForm.number.Exceeds v padding e) :
    Reported (Render.fixed v padding false) :=
  reported_fixed false fun _ _ _ hx hf hlimit hp =>
    not_lt.mp fun hmany => h _ (.intro hx hf hlimit hp hmany)

theorem reported_percentage (hproduct : Reported v.timesHundred)
    (h : ∀ e, ¬ FixedForm.percentage.Exceeds v padding e) :
    Reported (Render.percentage v padding) := by
  refine hproduct.bind fun w hw => Reported.bind ?_ fun _ _ => .ok _
  refine reported_fixed true fun x f p hx hf hlimit hp => not_lt.mp fun hmany => ?_
  have hshown : FixedForm.percentage.shown? v = some x := by
    simp only [FixedForm.shown?, hw, hx]
  exact h _ (.intro hshown hf hlimit hp hmany)

/-- With a padding that is one, an integer code fails on a fraction out of range. -/
theorem integer_of_large {q : Rat} (hq : Binary64.overflowLimit ≤ |q|)
    (hpadding : (Padding.parse? padding).isSome) (base : Int) (code : Option Text) :
    Render.integer (.fraction q) padding base code = .error .quotientTooLarge := by
  obtain ⟨p, hp⟩ := Option.isSome_iff_exists.mp hpadding
  have hnone := (roundedFraction?_eq_none_iff q).mpr hq
  simp [Render.integer, Render.readPadding, hp, Render.nonFiniteName?, Render.expectInteger, hnone,
    bind, Except.bind]

theorem char_of_large {q : Rat} (hq : Binary64.overflowLimit ≤ |q|)
    (hpadding : (Padding.parse? padding).isSome) :
    Render.char (.fraction q) padding = .error .quotientTooLarge := by
  obtain ⟨p, hp⟩ := Option.isSome_iff_exists.mp hpadding
  have hnone := (roundedFraction?_eq_none_iff q).mpr hq
  simp [Render.char, Render.readPadding, hp, Render.expectInteger, hnone, bind, Except.bind]

theorem upperHexadecimal_of_large {q : Rat} (hq : Binary64.overflowLimit ≤ |q|)
    (hpadding : (Padding.parse? padding).isSome) :
    Render.upperHexadecimal (.fraction q) padding = .error .quotientTooLarge := by
  rw [Render.upperHexadecimal, integer_of_large hq hpadding]
  rfl

end Renderers

/-! ## Codes -/

/-- The renderers behind the builtin codes. -/
theorem renderer_builtin (code : CodePoint) (spec : Option Text) :
    CodeTable.builtin.renderer (.text [code]) spec =
      match code with
      | 's' => .ok Render.string
      | 'c' => .ok Render.char
      | 'd' => .ok fun v padding => Render.integer v padding 10 (some (['d'] : Text))
      | 'o' => .ok fun v padding => Render.integer v padding 8 (some (['o'] : Text))
      | 'x' => .ok fun v padding => Render.integer v padding 16 (some (['x'] : Text))
      | 'X' => .ok Render.upperHexadecimal
      | 'b' => .ok fun v padding => Render.integer v padding 2 (some (['b'] : Text))
      | 'f' | 'F' => .ok fun v padding => Render.fixed v padding false
      | '%' => .ok Render.percentage
      | _ => .error (.ofCause (.unknownCode (.text [code]) spec)) := by
  split
  all_goals try rfl
  -- the code is none of those, so nothing is found under it
  rename_i hs hc hd ho hx hX hb hf hF hpercent
  have hsame : ∀ known : CodePoint, code ≠ known →
      Value.sameKey (.text [known]) (.text [code]) = false := by
    intro known hne
    simp [Value.sameKey, Ne.symm hne]
  have htarget : CodeTable.builtin.target (.text [code]) = .text [code] := by
    have hF' := hsame 'F' hF
    simp [CodeTable.target, CodeTable.builtin, Entries.find?, hF']
  have hhandler : CodeTable.builtin.handler? (.text [code]) = none := by
    simp [CodeTable.handler?, CodeTable.builtin, Render.builtins, Entries.find?, hsame _ hs,
      hsame _ hc, hsame _ hd, hsame _ ho, hsame _ hx, hsame _ hX, hsame _ hb, hsame _ hf,
      hsame _ hpercent]
  rw [CodeTable.renderer, htarget, hhandler]
  rfl

/-- The codes by which a value is shown by default. -/
theorem defaultCode_builtin {v : Value} (kind : Kind) :
    v.kind? = some kind → CodeTable.builtin.defaultCode v =
      .ok (match kind with
        | .textLike | .other => .text ['s']
        | .whole => .text ['d']
        | .fractional => .text ['f']) := by
  intro h
  rw [CodeTable.defaultCode, h]
  cases kind <;> rfl

theorem renderValue_concat (table : CodeTable) (v : Value) (padding : Text) (code : CodePoint) :
    renderValue table v (some (padding ++ [code])) =
      if code.isDigit then
        table.defaultCode v >>= fun name =>
          table.renderer name (some (padding ++ [code])) >>= fun r => r v (padding ++ [code])
      else table.renderer (.text [code]) (some (padding ++ [code])) >>= fun r => r v padding := by
  simp only [renderValue, List.getLast?_concat, List.dropLast_concat]

/-! ## Rendering a value -/

/-- The codes that ask for an integer. -/
def integerCodes : List CodePoint :=
  ['c', 'd', 'o', 'x', 'X', 'b']

/-- A specification that shows a value with fixed places, and the padding that it gives: by one of
the two names of the code, in percent, or as the default for a value that is not whole. -/
inductive AsksFixed (v : Value) : FixedForm → Text → Text → Prop where
  | number {padding code} (known : code ∈ (['f', 'F'] : Text)) :
      AsksFixed v .number padding (padding ++ [code])
  | percentage {padding} : AsksFixed v .percentage padding (padding ++ (['%'] : Text))
  | default {padding code} (digit : code.isDigit = true) (kind : v.kind? = some .fractional) :
      AsksFixed v .number (padding ++ [code]) (padding ++ [code])

theorem AsksFixed.renderValue_eq {v : Value} {form : FixedForm} {padding spec : Text}
    (h : AsksFixed v form padding spec) :
    renderValue .builtin v (some spec) = form.render v padding := by
  cases h with
  | number known =>
    rw [renderValue_concat]
    rcases List.mem_pair.mp known with rfl | rfl <;> rfl
  | percentage =>
    rw [renderValue_concat]
    rfl
  | default digit kind =>
    rw [renderValue_concat, if_pos digit, defaultCode_builtin _ kind]
    rfl

/-- What is done without a check, and what it fails with: a fraction out of range is to be shown by
its default code or, with a padding that is one, by a code for integers; the hundredfold of a
decimal number signals; or a number is to be shown with too many places. -/
inductive Unchecked : Value → Option Text → Failure → Prop where
  | default {q padding code} (large : Binary64.overflowLimit ≤ |q|)
      (digit : code.isDigit = true) :
      Unchecked (.fraction q) (some (padding ++ [code])) .quotientTooLarge
  | integer {q padding code} (large : Binary64.overflowLimit ≤ |q|) (known : code ∈ integerCodes)
      (valid : (Padding.parse? padding).isSome) :
      Unchecked (.fraction q) (some (padding ++ [code])) .quotientTooLarge
  | percentage {d signal padding} (signals : d.timesHundred = .error signal) :
      Unchecked (.decimal d) (some (padding ++ (['%'] : Text))) (.decimalSignal signal)
  | places {v form padding spec e} (asked : AsksFixed v form padding spec)
      (exceeds : form.Exceeds v padding e) : Unchecked v (some spec) e

namespace Unchecked

variable {v : Value} {spec : Option Text} {e : Failure}

theorem ne_fault (h : Unchecked v spec e) (f : Fault) : e ≠ .fault f := by
  cases h with
  | places _ exceeds => exact exceeds.ne_fault f
  | _ => simp

theorem locate_eq (h : Unchecked v spec e) (site : Site) : e.locate site = e := by
  cases h with
  | places _ exceeds =>
    cases exceeds
    exact locate_placesFailure site _
  | _ => rfl

/-- What is done without a check fails. -/
theorem renderValue_eq (h : Unchecked v spec e) : renderValue .builtin v spec = .error e := by
  cases h with
  | @default q padding code large digit =>
    have hkind : (Value.fraction q).kind? = none := kind?_eq_none_iff.mpr ⟨q, rfl, large⟩
    rw [renderValue_concat, if_pos digit, CodeTable.defaultCode, hkind]
    rfl
  | @integer q padding code large known valid =>
    have hcases : code = 'c' ∨ code = 'd' ∨ code = 'o' ∨ code = 'x' ∨ code = 'X' ∨ code = 'b' := by
      simpa [integerCodes] using known
    rw [renderValue_concat]
    rcases hcases with rfl | rfl | rfl | rfl | rfl | rfl
    · exact char_of_large large valid
    · exact integer_of_large large valid 10 (some (['d'] : Text))
    · exact integer_of_large large valid 8 (some (['o'] : Text))
    · exact integer_of_large large valid 16 (some (['x'] : Text))
    · exact upperHexadecimal_of_large large valid
    · exact integer_of_large large valid 2 (some (['b'] : Text))
  | @percentage d signal padding signals =>
    rw [renderValue_concat, if_neg (by decide), renderer_builtin]
    simp [bind, Except.bind, Render.percentage, Value.timesHundred, signals]
  | places asked exceeds => exact asked.renderValue_eq.trans exceeds.render_eq

end Unchecked

theorem reported_defaultCode {v : Value} (h : InRange v) {spec : Text}
    (hplaces : v.kind? = some .fractional → ∀ e, ¬ FixedForm.number.Exceeds v spec e) :
    Reported (CodeTable.builtin.defaultCode v >>= fun name =>
      CodeTable.builtin.renderer name (some spec) >>= fun r => r v spec) := by
  cases hkind : v.kind? with
  | none => exact absurd hkind (kind?_ne_none h)
  | some kind =>
    rw [defaultCode_builtin kind hkind]
    cases kind with
    | textLike => exact reported_string v spec
    | whole => exact reported_integer (fun _ => h) rfl
    | fractional => exact reported_number (hplaces hkind)
    | other => exact reported_string v spec

/-- All else is shown or reported. -/
theorem reported_renderValue {v : Value} {spec : Option Text} (h : ∀ e, ¬ Unchecked v spec e) :
    Reported (renderValue .builtin v spec) := by
  cases spec with
  | none => exact .ok _
  | some spec =>
    rcases List.eq_nil_or_concat spec with rfl | ⟨padding, code, rfl⟩
    · exact .ok _
    · rw [List.concat_eq_append] at h ⊢
      rw [renderValue_concat]
      by_cases hdigit : code.isDigit = true
      · have hrange : InRange v := by
          intro q hv
          subst hv
          exact not_le.mp fun hq => h _ (.default hq hdigit)
        rw [if_pos hdigit]
        exact reported_defaultCode hrange fun hkind e hexceeds =>
          h e (.places (.default hdigit hkind) hexceeds)
      · have hrange : code ∈ integerCodes → (Padding.parse? padding).isSome → InRange v := by
          intro hknown hvalid q hv
          subst hv
          exact not_le.mp fun hq => h _ (.integer hq hknown hvalid)
        rw [if_neg hdigit, renderer_builtin]
        split
        · exact reported_string v padding
        · exact reported_char (hrange (by decide))
        · exact reported_integer (hrange (by decide)) rfl
        · exact reported_integer (hrange (by decide)) rfl
        · exact reported_integer (hrange (by decide)) rfl
        · exact reported_upperHexadecimal (hrange (by decide))
        · exact reported_integer (hrange (by decide)) rfl
        · exact reported_number fun e hexceeds => h e (.places (.number (by decide)) hexceeds)
        · exact reported_number fun e hexceeds => h e (.places (.number (by decide)) hexceeds)
        · refine reported_percentage (reported_timesHundred ?_)
            fun e hexceeds => h e (.places .percentage hexceeds)
          intro d signal hv hsignal
          subst hv
          exact h _ (.percentage hsignal)
        · exact .ofCause _

/-- What fails without being reported was not checked. -/
theorem fault_or_unchecked_of_renderValue {v : Value} {spec : Option Text} {e : Failure}
    (h : renderValue .builtin v spec = .error e) : (∃ f, e = .fault f) ∨ Unchecked v spec e := by
  by_cases hchecked : ∃ e, Unchecked v spec e
  · obtain ⟨e', hunchecked⟩ := hchecked
    obtain rfl := Except.error.inj (h.symm.trans hunchecked.renderValue_eq)
    exact .inr hunchecked
  · exact .inl (reported_renderValue (not_exists.mp hchecked) e h)

/-! ## Formatting -/

theorem reported_format_of_link_error {table : CodeTable} {template : Text} {args : List Value}
    {named : List (Text × Value)} {f : Fault} (h : link (scan template) args named = .error f) :
    Reported (format table (.text template) args named) := by
  rw [format, run_of_link_error h]
  exact Reported.error_iff.mpr ⟨f, rfl⟩

/-- A failure that is no fault is that of the first placeholder that cannot be rendered, where
something is done without a check. -/
theorem unchecked_of_format {template : Text} {args : List Value} {named : List (Text × Value)}
    {e : Failure} (he : format .builtin (.text template) args named = .error e)
    (hfault : ∀ f, e ≠ .fault f) :
    ∃ before p v after, link (scan template) args named = .ok (before ++ .bound p v :: after) ∧
      Renderable .builtin before ∧ Unchecked v p.spec e := by
  cases hlink : link (scan template) args named with
  | error f =>
    obtain ⟨g, hg⟩ := reported_format_of_link_error hlink e he
    exact absurd hg (hfault g)
  | ok bound =>
    rw [format_of_link hlink] at he
    rcases rendered_or_first_error .builtin bound with
      ⟨texts, htexts⟩ | ⟨before, p, v, after, texts, own, rfl, htexts, hown⟩
    · rw [renderFrom_result_of_rendered htexts] at he
      cases he
    · rw [renderFrom_result_of_error htexts hown] at he
      obtain rfl : own.locate p.site = e := Except.error.inj he
      rcases fault_or_unchecked_of_renderValue hown with ⟨f, rfl⟩ | hunchecked
      · -- a fault stays one at its place
        exact absurd rfl (hfault (f.locate p.site))
      · rw [hunchecked.locate_eq]
        exact ⟨before, p, v, after, rfl, fun _ _ => htexts.of_mem, hunchecked⟩

/-- **Formatting is guarded but for what is done without a check.** With the builtin codes a text
or a fault comes out, unless the arguments suit the template, and the first placeholder that cannot
be rendered asks for one of the two unchecked conversions or for too many places. Then the failure
of that is what comes out. -/
theorem format_unreported_iff (template : Text) (args : List Value) (named : List (Text × Value))
    (e : Failure) :
    (format .builtin (.text template) args named = .error e ∧ ∀ f, e ≠ .fault f) ↔
      ∃ before p v after,
        link (scan template) args named = .ok (before ++ .bound p v :: after) ∧
          Renderable .builtin before ∧ Unchecked v p.spec e := by
  constructor
  · intro hescape
    exact unchecked_of_format hescape.1 hescape.2
  · intro hexists
    obtain ⟨before, p, v, after, hlink, hrender, hunchecked⟩ := hexists
    obtain ⟨texts, htexts⟩ := hrender.exists_rendered
    refine ⟨?_, hunchecked.ne_fault⟩
    rw [format_of_link hlink, renderFrom_result_of_error htexts hunchecked.renderValue_eq,
      hunchecked.locate_eq]

/-- The fraction `10 ^ 400` is whole, and the code for decimal integers does not show it. -/
theorem not_reported_whole_fraction :
    format .builtin (.text "\x7b:d\x7d") [.fraction (10 ^ 400)] [] = .error .quotientTooLarge ∧
      ¬ Reported (format .builtin (.text "\x7b:d\x7d") [.fraction (10 ^ 400)] []) := by
  have hscan : scan "\x7b:d\x7d" = [.field ⟨"", some "d", ⟨1, 1⟩⟩] := by cbv
  have hlink : link (scan "\x7b:d\x7d") [.fraction (10 ^ 400)] [] =
      .ok [.bound ⟨"", some "d", ⟨1, 1⟩⟩ (.fraction (10 ^ 400))] := by
    rw [hscan]
    rfl
  have hlarge : Binary64.overflowLimit ≤ |(10 : Rat) ^ 400| := by
    rw [abs_of_pos (by positivity)]
    calc Binary64.overflowLimit ≤ 2 ^ 54 * (2 : Rat) ^ (970 : Int) :=
          mul_le_mul_of_nonneg_right (by norm_num) (two_zpow_pos _).le
      _ = 2 ^ ((970 : Int) + (54 : Nat)) := (two_zpow_add_natCast 970 54).symm
      _ ≤ 2 ^ ((1200 : Nat) : Int) := two_zpow_le (by decide)
      _ = (2 ^ 3) ^ 400 := by rw [zpow_natCast, ← pow_mul]
      _ ≤ 10 ^ 400 := pow_le_pow_left₀ (by norm_num) (by norm_num) 400
  have hvalue : renderValue .builtin (.fraction (10 ^ 400)) (some "d") =
      .error .quotientTooLarge := by
    rw [show ("d" : Text) = [] ++ (['d'] : Text) from rfl, renderValue_concat, if_neg (by decide),
      renderer_builtin]
    have hpadding : (Padding.parse? []).isSome := rfl
    exact integer_of_large hlarge hpadding 10 (some (['d'] : Text))
  have hformat : format .builtin (.text "\x7b:d\x7d") [.fraction (10 ^ 400)] [] =
      .error .quotientTooLarge := by
    rw [format_of_link hlink]
    have hresult := renderFrom_result_of_error (p := ⟨"", some "d", ⟨1, 1⟩⟩) .nil hvalue 0 0 []
    exact hresult
  refine ⟨hformat, ?_⟩
  rw [hformat, Reported.error_iff]
  intro hfault
  obtain ⟨f, hf⟩ := hfault
  cases hf

end BraceTemplate
