import BraceTemplate.Proofs.Padding
import BraceTemplate.Proofs.Rendering.Layout
import BraceTemplate.Proofs.Rendering.Reported

/-!
# Integers as they are shown

An integer is laid out as its sign and its digits in a base, filled up to the width of the padding.
No padding, flag or letter case changes what is read from the text: it is the integer again, in
every base.
-/

namespace BraceTemplate

/-- The layout shows the integer in the base, as the padding asks. -/
structure ShowsInteger (r : Radix) (upper : Bool) (i : Int) (p : Padding) (l : Layout) : Prop
    extends l.Fits p.flag (decide (i < 0)) where
  writes : r.Writes upper i.natAbs l.digits
  length_eq : l.text.length = max p.width (l.sign.length + l.digits.length)
  value : r.readInt? l.text = some i

section Layouts

variable (r : Radix) (upper : Bool) (i : Int) (p : Padding)

theorem isUnsigned_digits (n : Nat) :
    Layout.IsUnsigned ((r.digits n).map (Radix.withCase upper)) := by
  have hall : ∀ d < 16, ∀ upper,
      Radix.withCase upper (CodePoint.digit d) ∉ ([' ', '-', '+'] : Text) := by
    decide
  intro c hc
  obtain ⟨digit, hmem, rfl⟩ := List.mem_map.mp (List.mem_of_head? hc)
  obtain ⟨d, hd, rfl⟩ := r.exists_digitChar_of_mem n digit hmem
  simpa using hall d hd upper

theorem showsInteger_filled :
    ShowsInteger r upper i p (Layout.filled p (decide (i < 0))
      ((r.digits i.natAbs).map (Radix.withCase upper))) where
  toFits := Layout.fits_filled _ _ _
  writes := by simpa using r.writes_digits upper i.natAbs
  length_eq := by rw [Layout.length_text_filled, Layout.sign_filled, Layout.digits_filled]
  value := by
    have hsign := Layout.takeSign_text (Layout.fits_filled p (decide (i < 0))
      ((r.digits i.natAbs).map (Radix.withCase upper))) (by simpa using isUnsigned_digits r upper _)
    simp only [Layout.digits_filled] at hsign
    simp only [Radix.readInt?, hsign, r.readNat?_zeros_append_digits, Option.map_some,
      Numeral.signed_natAbs i rfl]

/-- In upper case, only the digits change. -/
theorem map_withCase_text (negative : Bool) (digits : Text) :
    (Layout.filled p negative digits).text.map (Radix.withCase upper) =
      (Layout.filled p negative (digits.map (Radix.withCase upper))).text := by
  have hmarks : ∀ c ∈ ([' ', '0', '-', '+'] : Text), Radix.withCase upper c = c := by
    simp only [List.forall_mem_cons, List.not_mem_nil, false_implies, implies_true]
    cases upper <;> decide
  have hsign : (Layout.signUnder p.flag negative).map (Radix.withCase upper) =
      Layout.signUnder p.flag negative := by
    unfold Layout.signUnder
    split
    · simp [hmarks]
    · split <;> simp [hmarks]
  unfold Layout.filled Layout.text
  split <;> simp [hsign, hmarks]

end Layouts

/-! ## The renderer -/

theorem ofBase_base (r : Radix) : Radix.ofBase r.base = .ok r := by
  cases r <;> rfl

section Integer

variable {v : Value} {padding : Text} {p : Padding} {code : Option Text}

/-- What is not shown by its name is laid out as the integer that it stands for, if it does. -/
theorem integer_eq_bind (hp : Padding.parse? padding = some p)
    (hname : Render.nonFiniteName? v = none) (r : Radix) :
    Render.integer v padding r.base code = (Render.expectInteger v code).bind fun i =>
      if p.flag = .plus ∧ i < 0 then .error (.ofCause (.plusOnNegative padding))
      else .ok (Layout.filled p (decide (i < 0)) (r.digits i.natAbs)).text := by
  simp only [Render.integer, readPadding_eq_ok_iff.mpr hp, hname, ofBase_base, bind, Except.bind,
    Layout.applySign_eq, decide_eq_true_eq]

theorem integer_of_expectInteger {i : Int} (hp : Padding.parse? padding = some p)
    (hname : Render.nonFiniteName? v = none) (hi : Render.expectInteger v code = .ok i)
    (r : Radix) :
    Render.integer v padding r.base code =
      if p.flag = .plus ∧ i < 0 then .error (.ofCause (.plusOnNegative padding))
      else .ok (Layout.filled p (decide (i < 0)) (r.digits i.natAbs)).text := by
  rw [integer_eq_bind hp hname, hi]
  rfl

/-- If a text is shown for an integer, the integer is read from it. -/
theorem readInt?_of_integer {i : Int} {t : Text} {r : Radix}
    (hp : Padding.parse? padding = some p) (hname : Render.nonFiniteName? v = none)
    (hi : Render.expectInteger v code = .ok i)
    (ht : Render.integer v padding r.base code = .ok t) : r.readInt? t = some i := by
  rw [integer_of_expectInteger hp hname hi] at ht
  split at ht
  · cases ht
  · cases ht
    have hlayout := showsInteger_filled r false i p
    rw [Radix.map_withCase_false] at hlayout
    exact hlayout.value

end Integer

/-- The base of a code for integers. -/
def radixOf? : CodePoint → Option Radix
  | 'd' => some .decimal
  | 'o' => some .octal
  | 'x' | 'X' => some .hexadecimal
  | 'b' => some .binary
  | _ => none

/-- A code for integers renders them in its base, and only `X` in upper case. -/
theorem renderValue_of_radixOf? {code : CodePoint} {r : Radix} (h : radixOf? code = some r)
    (v : Value)
    (padding : Text) :
    renderValue .builtin v (some (padding ++ [code])) =
      (Render.integer v padding r.base (some [code])).map
        (List.map (Radix.withCase (code == 'X'))) := by
  have hlower : ∀ result : Except Failure Text,
      result.map (List.map (Radix.withCase false)) = result := by
    intro result
    cases result with
    | error e => rfl
    | ok t => simp [Except.map, Radix.map_withCase_false]
  unfold radixOf? at h
  split at h <;> cases h <;> rw [renderValue_concat, if_neg (by decide), renderer_builtin]
  · exact (hlower _).symm
  · exact (hlower _).symm
  · exact (hlower _).symm
  · change Render.upperHexadecimal v padding = _
    unfold Render.upperHexadecimal
    cases Render.integer v padding 16 (some (['X'] : Text)) <;> rfl
  · exact (hlower _).symm

/-- Integers and truth values are what they stand for. -/
theorem expectInteger_of_integer? {v : Value} {i : Int} (h : v.integer? = some i)
    (code : Option Text) :
    Render.nonFiniteName? v = none ∧ Render.expectInteger v code = .ok i := by
  cases v with
  | bool b =>
    cases h
    exact ⟨rfl, rfl⟩
  | int i =>
    cases h
    exact ⟨rfl, rfl⟩
  | _ => cases h

/-- **An integer is shown as its sign and its digits.** In every base and under every padding, the
text is blanks, the sign, zeros under their flag only, and the digits without superfluous zeros; it
is as long as the width, or as sign and digits if that is not enough; and what is read from it is
the integer. A sign is refused exactly where a plus is asked for in front of a negative number. -/
theorem renderValue_showsInteger {v : Value} {i : Int} (hv : v.integer? = some i) {code : CodePoint}
    {r : Radix} (hcode : radixOf? code = some r) {padding : Text} {p : Padding}
    (hp : Padding.parse? padding = some p) :
    (RefusesSign (renderValue .builtin v (some (padding ++ [code]))) ↔
        p.flag = .plus ∧ i < 0) ∧
      (¬ (p.flag = .plus ∧ i < 0) →
        ∃ l : Layout, renderValue .builtin v (some (padding ++ [code])) = .ok l.text ∧
          ShowsInteger r (code == 'X') i p l) := by
  obtain ⟨hname, hi⟩ := expectInteger_of_integer? hv (some [code])
  have hshown : renderValue .builtin v (some (padding ++ [code])) =
      if p.flag = .plus ∧ i < 0 then .error (.ofCause (.plusOnNegative padding))
      else .ok (Layout.filled p (decide (i < 0))
        ((r.digits i.natAbs).map (Radix.withCase (code == 'X')))).text := by
    rw [renderValue_of_radixOf? hcode, integer_of_expectInteger hp hname hi, ← map_withCase_text]
    split <;> rfl
  rw [hshown]
  refine ⟨refusesSign_ite, fun hsign => ⟨_, if_neg hsign, ?_⟩⟩
  exact showsInteger_filled r (code == 'X') i p

/-- Zeros stand between the sign and the digits, and are read as nothing. -/
theorem renderValue_showsInteger_of_zeros :
    (Value.int (-254)).integer? = some (-254) ∧ radixOf? 'X' = some .hexadecimal ∧
      Padding.parse? "07" = some ⟨.zero, 7⟩ ∧
      renderValue .builtin (.int (-254)) (some "07X") = .ok "-0000FE" ∧
      Radix.hexadecimal.readInt? "-0000FE" = some (-254) := by
  have hv : (Value.int (-254)).integer? = some (-254) := rfl
  have hcode : radixOf? 'X' = some .hexadecimal := rfl
  have hp : Padding.parse? "07" = some ⟨.zero, 7⟩ := rfl
  have hshown : renderValue .builtin (.int (-254)) (some "07X") = .ok "-0000FE" := by
    simp only [renderValue]
    rfl
  obtain ⟨-, hlayout⟩ := renderValue_showsInteger hv hcode hp
  obtain ⟨l, htext, hl⟩ := hlayout (by decide)
  have heq : ("-0000FE" : Text) = l.text := Except.ok.inj (hshown.symm.trans htext)
  exact ⟨hv, hcode, hp, hshown, heq ▸ hl.value⟩

end BraceTemplate
