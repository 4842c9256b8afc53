import BraceTemplate.Proofs.Rendering.Walk

/-!
# Templates without arguments

Given no arguments, a template without placeholders is its own result, and any other template is
refused: for the missing arguments if no placeholder has an address, and else for an address. A
template has no placeholders just if none of its braces opens. The result is the one that binding
and rendering have.
-/

namespace BraceTemplate

/-! ## Templates without placeholders -/

theorem placeholders_literalSegment (t : Text) : placeholders (literalSegment t) = [] := by
  cases t <;> rfl

/-- Without placeholders, canonical segments are one text at most. -/
theorem CanonicalSegments.not_opens_unscan :
    ∀ {segments : List Segment}, CanonicalSegments segments → placeholders segments = [] →
      ¬ Opens (unscan segments)
  | [], _, _ => not_opens_of_not_mem (by simp [unscan])
  | [.literal t], h, _ => by
    simpa [unscan, Segment.raw] using h.not_opens
  -- texts side by side would have been one text
  | .literal s :: .literal t :: rest, h, _ => absurd rfl (h.literals_apart [] s t rest)
  | .literal _ :: .field _ :: _, _, hfields => by simp at hfields
  | .field _ :: _, _, hfields => by simp at hfields

/-- A template has no placeholders just if none of its braces opens. -/
theorem placeholders_scan_eq_nil_iff {template : Text} :
    placeholders (scan template) = [] ↔ ¬ Opens template := by
  constructor
  · intro hfields
    have hopens := (canonical_scanFrom .start template).not_opens_unscan hfields
    rwa [unscan_scanFrom] at hopens
  · intro hopens
    rw [scan, scanFrom_of_not_opens .start hopens, placeholders_literalSegment]

/-! ## Calls without arguments -/

section Calls

variable {fields : List Placeholder}

/-- Each mode needs an argument for its placeholders. -/
theorem wellAddressed_no_arguments_iff : WellAddressed fields [] [] ↔ fields = [] := by
  refine ⟨fun h => ?_, fun h => .of_unaddressed h (.inl rfl) rfl⟩
  rcases h.same_mode with hnil | ⟨mode, hmode⟩
  · exact hnil
  · exfalso
    -- each mode in use has a placeholder, and offers an argument for it
    cases mode with
    | anonymous => exact hmode.1 (List.length_eq_zero_iff.mp (h.anonymous hmode).2)
    | positional =>
      obtain ⟨p, hp⟩ := List.exists_mem_of_ne_nil fields hmode.1
      exact Nat.not_lt_zero _ ((h.positional hmode).2 p hp)
    | keyed =>
      obtain ⟨typeName, entries, hoffered, -⟩ := h.keyed hmode
      cases hoffered

theorem unpaired_no_arguments_iff (hne : fields ≠ []) :
    Unpaired fields [] [] ↔ ∀ p ∈ fields, p.mode = .anonymous := by
  constructor
  · rintro ⟨-, ⟨hnil, -⟩ | ⟨hmode, -⟩⟩
    · exact absurd hnil hne
    · exact hmode.2
  · intro hmode
    refine ⟨.inl rfl, .inr ⟨⟨hne, hmode⟩, rfl, ?_⟩⟩
    exact fun hcount => hne (List.length_eq_zero_iff.mp hcount)

/-- What a call without arguments is refused for. -/
theorem Rejects.kind_of_no_arguments {f : Fault} (h : Rejects fields [] [] f) :
    ((∀ p ∈ fields, p.mode = .anonymous) →
        f.kind = .missingArguments ∧ f.cause.counts? = some (fields.length, 0)) ∧
      (¬ (∀ p ∈ fields, p.mode = .anonymous) → f.kind = .address) := by
  have hne : fields ≠ [] := mt wellAddressed_no_arguments_iff.mpr h.not_wellAddressed
  have hunpaired := unpaired_no_arguments_iff hne
  rcases h.kind_cases with ⟨hu, hcounts, hkind⟩ | ⟨hu, hkind⟩
  · refine ⟨fun _ => ⟨?_, hcounts⟩, fun hother => absurd (hunpaired.mp hu) hother⟩
    rw [hkind]
    exact if_pos (List.length_pos_iff_ne_nil.mpr hne)
  · exact ⟨fun hmode => absurd (hunpaired.mpr hmode) hu, fun _ => hkind⟩

end Calls

/-! ## Formatting -/

/-- A template in which no brace opens is returned, which is what binding and rendering make of it. -/
theorem format_of_not_opens (table : CodeTable) {template : Text} (h : ¬ Opens template) :
    format table (.text template) [] [] = .ok template ∧
      ∃ bound, link (scan template) [] [] = .ok bound ∧
        ∀ verbosity count, (interpret table bound verbosity count).result = .ok template := by
  have hfields := placeholders_scan_eq_nil_iff.mpr h
  have hformat : format table (.text template) [] [] = .ok template := by
    simp [format, run, runText, hfields]
  refine ⟨hformat, ?_⟩
  rcases linkOutcome (scan template) [] [] with ⟨bound, hlink, -⟩ | ⟨f, -, hf⟩
  · refine ⟨bound, hlink, fun verbosity count => ?_⟩
    rw [result_interpret, ← result_of_link hlink verbosity count]
    simp [run, runText, hfields]
  · exact absurd (wellAddressed_no_arguments_iff.mpr hfields) hf.not_wellAddressed

/-- A template in which a brace opens is refused. -/
theorem format_of_opens (table : CodeTable) {template : Text} (h : Opens template) :
    ∃ f, format table (.text template) [] [] = .error (.fault f) ∧
      Rejects (placeholders (scan template)) [] [] f := by
  rcases linkOutcome (scan template) [] [] with ⟨_, -, hsuits, -⟩ | ⟨f, hlink, hf⟩
  · exact absurd h (placeholders_scan_eq_nil_iff.mp (wellAddressed_no_arguments_iff.mp hsuits))
  · refine ⟨f, ?_, hf⟩
    rw [format, run_of_link_error hlink]
    rfl

/-- **Only pairs of braces ask for arguments.** Without arguments, a template is returned unchanged
just if no brace opens in it, and binding and rendering its segments would make the same text. Any
other template is refused: for as many missing arguments as there are placeholders if none of them
has an address, and for an address in every other case. -/
theorem format_no_arguments (table : CodeTable) (template : Text) :
    (format table (.text template) [] [] = .ok template ↔ ¬ Opens template) ∧
      (¬ Opens template → ∃ bound, link (scan template) [] [] = .ok bound ∧
        ∀ verbosity count, (interpret table bound verbosity count).result = .ok template) ∧
      (Opens template → ∃ f, format table (.text template) [] [] = .error (.fault f) ∧
        ((∀ p ∈ placeholders (scan template), p.mode = .anonymous) →
          f.kind = .missingArguments ∧
            f.cause.counts? = some ((placeholders (scan template)).length, 0)) ∧
        (¬ (∀ p ∈ placeholders (scan template), p.mode = .anonymous) → f.kind = .address)) := by
  refine ⟨⟨fun hformat hopens => ?_, fun hopens => (format_of_not_opens table hopens).1⟩,
    fun hopens => (format_of_not_opens table hopens).2, fun hopens => ?_⟩
  · obtain ⟨f, herror, -⟩ := format_of_opens table hopens
    cases hformat.symm.trans herror
  · obtain ⟨f, herror, hf⟩ := format_of_opens table hopens
    exact ⟨f, herror, hf.kind_of_no_arguments⟩

/-- Braces the wrong way round are text; a pair between them is a placeholder. -/
theorem format_no_arguments_of_reversed_braces :
    ¬ Opens "\x7d\x7b" ∧ format .builtin (.text "\x7d\x7b") [] [] = .ok "\x7d\x7b" ∧
      Opens "\x7d\x7b:4d\x7d\x7b" ∧
      ∃ f, format .builtin (.text "\x7d\x7b:4d\x7d\x7b") [] [] = .error (.fault f) ∧
        f.kind = .missingArguments ∧ f.cause.counts? = some (1, 0) := by
  have hreversed : ¬ Opens "\x7d\x7b" := by
    rw [show ("\x7d\x7b" : Text) = [closeBrace] ++ openBrace :: [] from rfl,
      opens_append_iff (by decide)]
    exact List.not_mem_nil
  have hpair : Opens "\x7d\x7b:4d\x7d\x7b" := ⟨"\x7d", ":4d\x7d\x7b", rfl, by decide⟩
  have hscan : scan "\x7d\x7b:4d\x7d\x7b" =
      [.literal "\x7d", .field ⟨"", some "4d", ⟨1, 2⟩⟩, .literal "\x7b"] := by decide +kernel
  have hmode : ∀ p ∈ placeholders (scan "\x7d\x7b:4d\x7d\x7b"), p.mode = .anonymous := by
    rw [hscan]
    exact List.forall_mem_singleton.mpr rfl
  obtain ⟨hreturned, -, -⟩ := format_no_arguments .builtin "\x7d\x7b"
  obtain ⟨-, -, hrefused⟩ := format_no_arguments .builtin "\x7d\x7b:4d\x7d\x7b"
  obtain ⟨f, herror, hmissing, -⟩ := hrefused hpair
  obtain ⟨hkind, hcounts⟩ := hmissing hmode
  rw [hscan] at hcounts
  exact ⟨hreversed, hreturned.mpr hreversed, hpair, f, herror, hkind, hcounts⟩

end BraceTemplate
