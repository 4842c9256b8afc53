import BraceTemplate.Proofs.CodeTable.Layers
import BraceTemplate.Proofs.Rendering.Reported

/-!
# Codes of one's own

A code that is added to a consistent table can be asked for, whatever its name: the scanner keeps it
in the specification, where it is the last character and no digit, and nothing in the table stands
in its way. Its renderer is given the value and all that stands between the colon and the code.
-/

namespace BraceTemplate

/-- The template of one placeholder without an address. -/
def placeholderTemplate (padding code : Text) : Text :=
  "\x7b:" ++ padding ++ code ++ "\x7d"

/-! ## Names of codes -/

/-- The name of a code is one character that is no digit and does not end a placeholder. -/
theorem exists_char_of_isCodeName {code : Text} (h : isCodeName (.text code) = true) :
    ∃ c, code = [c] ∧ c.isDigit = false ∧ c ≠ closeBrace := by
  match code, h with
  | [c], h =>
    have hc : isDigitLike c = false ∧ c ∉ structuralChars := by
      simpa [isCodeName, isCodeText] using h
    refine ⟨c, rfl, ?_, ?_⟩
    · exact Bool.eq_false_iff.mpr fun hdigit => by simp [isDigitLike_of_isDigit hdigit] at hc
    · rintro rfl
      exact hc.2 (by decide)

/-! ## Templates of one placeholder -/

theorem scan_placeholderTemplate {padding code : Text} (hpadding : closeBrace ∉ padding)
    (hcode : closeBrace ∉ code) :
    scan (placeholderTemplate padding code) = [.field ⟨[], some (padding ++ code), .start⟩] := by
  have hproper : Placeholder.Proper ⟨[], some (padding ++ code), .start⟩ :=
    ⟨by simp, by simp, by simp [hpadding, hcode]⟩
  have hscan := scanFrom_append_raw .start [] List.not_mem_nil hproper
  have htemplate : placeholderTemplate padding code =
      Placeholder.raw ⟨[], some (padding ++ code), .start⟩ := by
    simp [placeholderTemplate, Placeholder.raw, Placeholder.body, openBrace, closeBrace]
  rw [htemplate, scan]
  simpa [scanFrom_of_not_opens, not_opens_of_not_mem, literalSegment, Placeholder.placedAt]
    using hscan

/-- One value is bound to the one placeholder. -/
theorem link_placeholderTemplate {padding code : Text} (hpadding : closeBrace ∉ padding)
    (hcode : closeBrace ∉ code) (v : Value) :
    link (scan (placeholderTemplate padding code)) [v] [] =
      .ok [.bound ⟨[], some (padding ++ code), .start⟩ v] := by
  rw [scan_placeholderTemplate hpadding hcode]
  rfl

/-- The result is that of the one value, and the placeholder tells where it failed. -/
theorem format_placeholderTemplate {table : CodeTable} {padding code : Text}
    (hpadding : closeBrace ∉ padding) (hcode : closeBrace ∉ code) (v : Value) :
    format table (.text (placeholderTemplate padding code)) [v] [] =
      (renderValue table v (some (padding ++ code))).mapError
        (Failure.locate ⟨placeholderTemplate padding code, 1, 1⟩) := by
  rw [format_of_link (link_placeholderTemplate hpadding hcode v), renderFrom]
  cases hvalue : renderValue table v (some (padding ++ code)) with
  | ok t => simp [renderFrom, Except.map, Except.mapError]
  | error e =>
    simp [Except.mapError, Placeholder.site, Placeholder.raw, Placeholder.body,
      placeholderTemplate, openBrace, closeBrace, Position.start]

/-! ## Added codes -/

/-- The specification is taken apart into the padding and the code that was added. -/
theorem renderValue_withLayer {table : CodeTable} (h : table.Consistent) {code : Text}
    (hcode : isCodeName (.text code) = true) (r : Renderer) (v : Value) (padding : Text) :
    renderValue (table.withLayer (CodeTable.dictionary [(.text code, .renderer r)])) v
      (some (padding ++ code)) = r v padding := by
  have hacceptable : Acceptable (CodeTable.dictionary [(.text code, .renderer r)]) :=
    List.forall_mem_singleton.mpr ⟨hcode, rfl⟩
  have hfound : CodeTable.found? [(.text code, .renderer r)] (.text code) = some (.renderer r) := by
    have hsame : Value.sameKey (.text code) (.text code) = true :=
      ((Value.alone_text code).same_left _).mpr rfl
    exact (Entries.find?_cons _ _ _).trans (if_pos hsame)
  obtain ⟨_, ⟨⟩, hr⟩ := h.renderer_withLayer hacceptable hfound
  obtain ⟨c, rfl, hdigit, -⟩ := exists_char_of_isCodeName hcode
  rw [renderValue_concat, if_neg (by simp [hdigit]), hr]
  rfl

/-- **An added code can be asked for.** Over a consistent table, every code that is a proper name
can be added, also in the place of another code or of an alias. Behind any padding that does not end
the placeholder, it shows a value as its renderer does for that value and that padding; a fault that
tells nothing of its place gets that of the placeholder. -/
theorem format_added_code {table : CodeTable} (h : table.ensureConsistent = .ok ()) {code : Text}
    (hcode : isCodeName (.text code) = true) (r : Renderer) {padding : Text}
    (hpadding : closeBrace ∉ padding) :
    ∃ extended, table.extend [(.text code, .renderer r)] = .ok extended ∧
      ∀ v, format extended (.text (placeholderTemplate padding code)) [v] [] =
          (r v padding).mapError (Failure.locate ⟨placeholderTemplate padding code, 1, 1⟩) ∧
        ∀ cause, r v padding = .error (.ofCause cause) →
          format extended (.text (placeholderTemplate padding code)) [v] [] =
            .error (.fault ⟨cause, some (placeholderTemplate padding code), some 1, some 1⟩) := by
  have htable := CodeTable.ensureConsistent_eq_ok_iff.mp h
  have hclose : closeBrace ∉ code := by
    obtain ⟨c, rfl, -, hc⟩ := exists_char_of_isCodeName hcode
    simpa using hc.symm
  refine ⟨_, htable.extend_ok (List.forall_mem_singleton.mpr ⟨hcode, rfl⟩), ?_⟩
  intro v
  have hformat := (format_placeholderTemplate hpadding hclose v).trans
    (congrArg (Except.mapError (Failure.locate ⟨placeholderTemplate padding code, 1, 1⟩))
      (renderValue_withLayer htable hcode r v padding))
  refine ⟨hformat, fun cause hcause => ?_⟩
  rw [hformat, hcause]
  rfl

/-- In the place of the builtin alias `F`, and behind a padding with a brace, a colon, a point, a
digit and a line feed. -/
theorem format_added_code_for_alias :
    CodeTable.builtin.ensureConsistent = .ok () ∧ isCodeName (.text "F") = true ∧
      closeBrace ∉ ("\x7b:.0\n" : Text) ∧ ∃ extended,
        CodeTable.builtin.extend [(.text "F", .renderer fun v padding =>
          if v.isNull then .error (.ofCause (.custom .value "nothing" none none))
          else .ok padding)] = .ok extended ∧
        format extended (.text "\x7b:\x7b:.0\nF\x7d") [.int 7] [] = .ok "\x7b:.0\n" ∧
        format extended (.text "\x7b:\x7b:.0\nF\x7d") [.null] [] =
          .error (.fault ⟨.custom .value "nothing" none none, some "\x7b:\x7b:.0\nF\x7d", some 1,
            some 1⟩) := by
  have hcode : isCodeName (.text "F") = true := rfl
  have hpadding : closeBrace ∉ ("\x7b:.0\n" : Text) := by decide
  obtain ⟨extended, hextend, hformat⟩ := format_added_code CodeTable.ensureConsistent_builtin hcode
    (fun v padding => if v.isNull then .error (.ofCause (.custom .value "nothing" none none))
      else .ok padding) hpadding
  exact ⟨CodeTable.ensureConsistent_builtin, hcode, hpadding, extended, hextend,
    (hformat (.int 7)).1, (hformat .null).2 _ rfl⟩

end BraceTemplate
