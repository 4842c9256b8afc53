import BraceTemplate.Proofs.Rendering.IntegerText

/-!
# Numbers that are not finite

The codes for integers show an infinity, or what is not a number, by its name. Of the padding only
the width counts: the name is moved to the right, and neither zeros nor a plus sign are put in
front. All these codes show the same text but one, which has all letters in upper case and so does
not keep the name.
-/

namespace BraceTemplate

/-! ## Names -/

/-- The names of the numbers that are not finite. -/
inductive Binary64.Named : Binary64 → Text → Prop where
  | nan : Named .nan "NaN"
  | infinity : Named (.infinite false) "Infinity"
  | negativeInfinity : Named (.infinite true) "-Infinity"

namespace Binary64

variable {x : Binary64} {name : Text}

theorem exists_named (h : x.isFinite = false) : ∃ name, x.Named name := by
  cases x with
  | nan => exact ⟨_, .nan⟩
  | infinite negative =>
    cases negative with
    | false => exact ⟨_, .infinity⟩
    | true => exact ⟨_, .negativeInfinity⟩
  | finite negative m => cases h

theorem Named.nonFiniteName?_eq (h : x.Named name) :
    Render.nonFiniteName? (.float x) = some name := by
  cases h <;> rfl

/-- Every name has letters in lower case. -/
theorem Named.map_withCase_ne (h : x.Named name) : name.map (Radix.withCase true) ≠ name := by
  cases h <;> decide

end Binary64

/-! ## The renderer -/

theorem leftpad_inj {width : Nat} {fill : CodePoint} {s t : Text} (hlength : s.length = t.length) :
    s.leftpad width fill = t.leftpad width fill ↔ s = t := by
  rw [List.leftpad, List.leftpad, hlength]
  exact List.append_right_inj _

theorem map_withCase_leftpad (upper : Bool) (width : Nat) (t : Text) :
    (t.leftpad width (' ' : CodePoint)).map (Radix.withCase upper) =
      (t.map (Radix.withCase upper)).leftpad width (' ' : CodePoint) := by
  have hblank : Radix.withCase upper ' ' = ' ' := by
    cases upper <;> rfl
  simp only [List.leftpad, List.map_append, List.map_replicate, hblank, List.length_map]

/-- A name is shown before anything is asked about integers or signs. -/
theorem integer_of_nonFiniteName? {v : Value} {padding : Text} {p : Padding} {code : Option Text}
    {name : Text} (hp : Padding.parse? padding = some p)
    (hname : Render.nonFiniteName? v = some name) (r : Radix) :
    Render.integer v padding r.base code = .ok (name.leftpad p.width ' ') := by
  simp only [Render.integer, readPadding_eq_ok_iff.mpr hp, hname]
  rfl

section NonFinite

variable {x : Binary64} {code : CodePoint} {r : Radix} {padding : Text} {p : Padding}

theorem renderValue_of_named {name : Text} (hx : x.Named name) (hcode : radixOf? code = some r)
    (hp : Padding.parse? padding = some p) :
    renderValue .builtin (.float x) (some (padding ++ [code])) =
      .ok ((name.map (Radix.withCase (code == 'X'))).leftpad p.width ' ') := by
  rw [renderValue_of_radixOf? hcode, integer_of_nonFiniteName? hp hx.nonFiniteName?_eq,
    ← map_withCase_leftpad]
  rfl

/-- **An infinity, or what is not a number, is shown by its name**, moved to the right by the width
alone. Exactly under the code `X` the text is not the name as it is spelled, but the name with its
letters in upper case; so two codes for integers show the same text just if both of them are `X` or
neither is. -/
theorem renderValue_nonFinite (hx : x.isFinite = false) (hcode : radixOf? code = some r)
    (hp : Padding.parse? padding = some p) :
    ∃ name, x.Named name ∧
      renderValue .builtin (.float x) (some (padding ++ [code])) =
        .ok ((name.map (Radix.withCase (code == 'X'))).leftpad p.width ' ') ∧
      (renderValue .builtin (.float x) (some (padding ++ [code])) =
        .ok (name.leftpad p.width ' ') ↔ code ≠ 'X') ∧
      ∀ other s, radixOf? other = some s →
        (renderValue .builtin (.float x) (some (padding ++ [other])) =
          renderValue .builtin (.float x) (some (padding ++ [code])) ↔
            (other = 'X' ↔ code = 'X')) := by
  obtain ⟨name, hname⟩ := Binary64.exists_named hx
  have hcase : ∀ a b : Bool,
      (Except.ok ((name.map (Radix.withCase a)).leftpad p.width ' ') : Except Failure Text) =
        .ok ((name.map (Radix.withCase b)).leftpad p.width ' ') ↔ a = b := by
    intro a b
    rw [Except.ok.injEq, leftpad_inj (by simp)]
    cases a <;> cases b <;>
      simp [Radix.map_withCase_false, hname.map_withCase_ne, Ne.symm hname.map_withCase_ne]
  have hshown := renderValue_of_named hname hcode hp
  refine ⟨name, hname, hshown, ?_, ?_⟩
  · have hspelled := hcase (code == 'X') false
    rw [Radix.map_withCase_false] at hspelled
    rw [hshown, hspelled, beq_eq_false_iff_ne]
  · intro other s hother
    rw [hshown, renderValue_of_named hname hother hp, hcase, Bool.eq_iff_iff, beq_iff_eq,
      beq_iff_eq]

end NonFinite

/-- A plus sign is not put in front of a negative infinity, and is no fault either. -/
theorem renderValue_nonFinite_of_plus :
    (Binary64.infinite true).isFinite = false ∧ radixOf? 'o' = some .octal ∧
      Padding.parse? "+12" = some ⟨.plus, 12⟩ ∧
      renderValue .builtin (.float (.infinite true)) (some "+12o") = .ok "   -Infinity" := by
  have hx : (Binary64.infinite true).isFinite = false := rfl
  have hcode : radixOf? 'o' = some .octal := rfl
  have hp : Padding.parse? "+12" = some ⟨.plus, 12⟩ := rfl
  obtain ⟨name, hname, -, hshown, -⟩ := renderValue_nonFinite hx hcode hp
  cases hname
  exact ⟨hx, hcode, hp, hshown.mpr (by decide)⟩

/-- In upper case, infinity has not the name that the other codes show. -/
theorem not_shown_by_name_in_upperCase :
    radixOf? 'X' = some .hexadecimal ∧ Padding.parse? "" = some ⟨.absent, 0⟩ ∧
      renderValue .builtin (.float (.infinite false)) (some "X") = .ok "INFINITY" ∧
      renderValue .builtin (.float (.infinite false)) (some "X") ≠ .ok "Infinity" ∧
      renderValue .builtin (.float (.infinite false)) (some "X") ≠
        renderValue .builtin (.float (.infinite false)) (some "x") := by
  have hcode : radixOf? 'X' = some .hexadecimal := rfl
  have hp : Padding.parse? "" = some ⟨.absent, 0⟩ := rfl
  have hupper : renderValue .builtin (.float (.infinite false)) (some "X") = .ok "INFINITY" :=
    renderValue_of_named .infinity hcode hp
  have hlower : renderValue .builtin (.float (.infinite false)) (some "x") = .ok "Infinity" :=
    renderValue_of_named .infinity (show radixOf? 'x' = some .hexadecimal from rfl) hp
  have hne : (.ok "INFINITY" : Except Failure Text) ≠ .ok "Infinity" := by
    rw [ne_eq, Except.ok.injEq]
    decide
  rw [hlower, hupper]
  exact ⟨hcode, hp, rfl, hne, hne⟩

end BraceTemplate
