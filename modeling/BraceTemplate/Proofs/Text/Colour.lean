import BraceTemplate.Text.Colour

/-!
# Stripping text in parts

A character that cannot be part of a control sequence ends every sequence that is begun before it.
So the parts of a text around such a character can be stripped apart. A line feed is one, and text
that is stripped line by line is stripped as a whole.
-/

namespace BraceTemplate.Text

namespace SequenceForm

variable {form : SequenceForm} {c : CodePoint}

/-- No control sequence of this form contains the character. -/
structure Excludes (form : SequenceForm) (c : CodePoint) : Prop where
  ne_escape : c ≠ escape
  ne_bracket : c ≠ '['
  parameter : form.isParameter c = false
  intermediate : form.isIntermediate c = false
  final : form.isFinal c = false

/-! ## One sequence -/

theorem dropWhile_append_of_not {test : CodePoint → Bool} (hc : test c = false) (t rest : Text) :
    (t ++ c :: rest).dropWhile test = t.dropWhile test ++ c :: rest := by
  induction t with
  | nil => simp [hc]
  | cons d t ih => cases hd : test d <;> simp [hd, ih]

theorem dropBody_append (h : form.Excludes c) (t rest : Text) :
    form.dropBody (t ++ c :: rest) = form.dropBody t ++ c :: rest := by
  rw [dropBody, dropWhile_append_of_not h.parameter, dropWhile_append_of_not h.intermediate]
  rfl

theorem dropSequence?_of_not_start {first second : CodePoint}
    (h : ¬ (first = escape ∧ second = '['))
    (body : Text) : form.dropSequence? (first :: second :: body) = none := by
  unfold dropSequence?
  split
  · rename_i hstart
    simp only [List.cons.injEq] at hstart
    exact absurd ⟨hstart.1, hstart.2.1⟩ h
  · rfl

theorem dropSequence?_singleton (first : CodePoint) : form.dropSequence? [first] = none := by
  unfold dropSequence?
  split
  · rename_i hstart
    simp at hstart
  · rfl

/-- A sequence at the start of a text ends before the character, or there is none. -/
theorem dropSequence?_append (h : form.Excludes c) (t rest : Text) :
    form.dropSequence? (t ++ c :: rest) = (form.dropSequence? t).map (· ++ c :: rest) := by
  match t with
  | [] =>
    cases rest with
    | nil => exact dropSequence?_singleton c
    | cons second rest => exact dropSequence?_of_not_start (fun hstart => h.ne_escape hstart.1) rest
  | [first] =>
    rw [dropSequence?_singleton]
    exact dropSequence?_of_not_start (fun hstart => h.ne_bracket hstart.2) rest
  | first :: second :: body =>
    by_cases hstart : first = escape ∧ second = '['
    · obtain ⟨rfl, rfl⟩ := hstart
      simp only [escape, List.cons_append, dropSequence?, dropBody_append h]
      cases form.dropBody body with
      | nil => simp [h.final]
      | cons last after => cases hlast : form.isFinal last <;> simp [hlast]
    · rw [List.cons_append, List.cons_append, dropSequence?_of_not_start hstart,
        dropSequence?_of_not_start hstart]
      rfl

/-! ## The whole text -/

theorem strip_of_dropSequence? {d : CodePoint} {t after : Text}
    (h : form.dropSequence? (d :: t) = some after) : form.strip (d :: t) = form.strip after := by
  rw [strip]
  split
  · rename_i hafter
    rw [Option.some.inj (h.symm.trans hafter)]
  · rename_i hnone
    cases h.symm.trans hnone

theorem strip_of_no_sequence {d : CodePoint} {t : Text} (h : form.dropSequence? (d :: t) = none) :
    form.strip (d :: t) = d :: form.strip t := by
  rw [strip]
  split
  · rename_i hafter
    cases h.symm.trans hafter
  · rfl

/-- What stands on the two sides of the character is stripped apart. -/
theorem strip_append (h : form.Excludes c) (t rest : Text) :
    form.strip (t ++ c :: rest) = form.strip t ++ c :: form.strip rest := by
  fun_induction form.strip t with
  | case1 =>
    have hnone := dropSequence?_append h [] rest
    exact strip_of_no_sequence hnone
  | case2 d t after hafter ih =>
    have hsome := dropSequence?_append h (d :: t) rest
    rw [hafter, List.cons_append] at hsome
    rw [List.cons_append, strip_of_dropSequence? hsome, ih]
  | case3 d t hnone ih =>
    have hnone' := dropSequence?_append h (d :: t) rest
    rw [hnone, List.cons_append] at hnone'
    rw [List.cons_append, strip_of_no_sequence hnone', ih]
    rfl

end SequenceForm

/-! ## Colours and lines -/

theorem ofColour_excludes_lineFeed : SequenceForm.ofColour.Excludes '\n' where
  ne_escape := by decide
  ne_bracket := by decide
  parameter := rfl
  intermediate := rfl
  final := rfl

@[simp] theorem stripColours_nil : stripColours [] = [] := by
  rw [stripColours, SequenceForm.strip]

/-- A line is stripped apart from what follows it. -/
theorem stripColours_line (line rest : Text) :
    stripColours (line ++ ('\n' : CodePoint) :: rest) =
      stripColours line ++ ('\n' : CodePoint) :: stripColours rest :=
  SequenceForm.strip_append ofColour_excludes_lineFeed line rest

end BraceTemplate.Text
