import BraceTemplate.Formatter
import BraceTemplate.Proofs.Binding.WellAddressed
import BraceTemplate.Proofs.Template.Canonical

/-!
# Rendering segment by segment

What the walk over bound segments results in. Each segment has a text of its own, or fails, whatever
stands around it. If all have one, the result is these texts in order; else it is the failure of the
first that has none, told where that placeholder stands. A template given no arguments and without
placeholders is returned as it is, which is what the walk would have made of it.
-/

namespace BraceTemplate

/-- The segments have these texts, one each and in order: a literal itself, and a placeholder what
its value is rendered to. -/
inductive Rendered (table : CodeTable) : List BoundSegment → List Text → Prop where
  | nil : Rendered table [] []
  | literal {t rest texts} (others : Rendered table rest texts) :
      Rendered table (.literal t :: rest) (t :: texts)
  | bound {p : Placeholder} {v t rest texts} (own : renderValue table v p.spec = .ok t)
      (others : Rendered table rest texts) : Rendered table (.bound p v :: rest) (t :: texts)

/-- Segments have one list of texts at most. -/
theorem Rendered.unique {table : CodeTable} {bound : List BoundSegment} {texts others : List Text}
    (h : Rendered table bound texts) (h' : Rendered table bound others) : texts = others := by
  induction h generalizing others with
  | nil =>
    cases h'
    rfl
  | literal _ ih =>
    cases h' with
    | literal rest => rw [ih rest]
  | bound own _ ih =>
    cases h' with
    | bound own' rest => rw [ih rest, Except.ok.inj (own.symm.trans own')]

/-- What is rendered has a text for each of its placeholders. -/
theorem Rendered.of_mem {table : CodeTable} {bound : List BoundSegment} {texts : List Text}
    (h : Rendered table bound texts) {p : Placeholder} {v : Value}
    (hmem : (p, v) ∈ bindings bound) : ∃ t, renderValue table v p.spec = .ok t := by
  induction h with
  | nil => simp at hmem
  | literal _ ih => exact ih hmem
  | @bound q w t _ _ own _ ih =>
    rcases List.mem_cons.mp hmem with heq | hmem
    · cases heq
      exact ⟨t, own⟩
    · exact ih hmem

/-! ## The walk -/

section Walk

variable {table : CodeTable} {before bound : List BoundSegment} {texts : List Text}

/-- Segments that have texts put them in front of what the others result in. -/
theorem renderFrom_append_result (h : Rendered table before texts) (verbosity : Int) (index : Nat)
    (rest : List BoundSegment) :
    (renderFrom table verbosity index (before ++ rest)).result =
      (renderFrom table verbosity (index + (bindings before).length) rest).result.map
        (texts.flatten ++ ·) := by
  induction h generalizing index with
  | nil =>
    cases hresult : (renderFrom table verbosity index rest).result <;> simp [hresult, Except.map]
  | @literal t before texts _ ih =>
    rw [List.cons_append, renderFrom, ih, bindings_literal]
    cases (renderFrom table verbosity (index + (bindings before).length) rest).result <;>
      simp [Except.map]
  | @bound p v t before texts hv _ ih =>
    rw [List.cons_append, renderFrom, hv, bindings_bound, List.length_cons,
      show index + ((bindings before).length + 1) = index + 1 + (bindings before).length from by
        omega]
    simp only [ih]
    cases (renderFrom table verbosity (index + 1 + (bindings before).length) rest).result <;>
      simp [Except.map]

/-- If all segments have texts, these are the result. -/
theorem renderFrom_result_of_rendered (h : Rendered table bound texts) (verbosity : Int)
    (index : Nat) : (renderFrom table verbosity index bound).result = .ok texts.flatten := by
  have happend := renderFrom_append_result h verbosity index []
  simpa [renderFrom, Except.map] using happend

/-- The first placeholder whose value has no text decides the result. -/
theorem renderFrom_result_of_error {p : Placeholder} {v : Value} {e : Failure}
    (h : Rendered table before texts) (hp : renderValue table v p.spec = .error e)
    (verbosity : Int) (index : Nat) (after : List BoundSegment) :
    (renderFrom table verbosity index (before ++ .bound p v :: after)).result =
      .error (e.locate p.site) := by
  rw [renderFrom_append_result h, renderFrom, hp]
  rfl

/-- Either all segments have texts, or there is a first placeholder whose value has none. -/
theorem rendered_or_first_error (table : CodeTable) (bound : List BoundSegment) :
    (∃ texts, Rendered table bound texts) ∨
      ∃ before p v after texts e, bound = before ++ .bound p v :: after ∧
        Rendered table before texts ∧ renderValue table v p.spec = .error e := by
  induction bound with
  | nil => exact .inl ⟨[], .nil⟩
  | cons s rest ih =>
    cases s with
    | literal t =>
      rcases ih with ⟨texts, htexts⟩ | ⟨before, p, v, after, texts, e, rfl, htexts, he⟩
      · exact .inl ⟨t :: texts, .literal htexts⟩
      · exact .inr ⟨.literal t :: before, p, v, after, t :: texts, e, rfl, .literal htexts, he⟩
    | bound q w =>
      cases hq : renderValue table w q.spec with
      | error e => exact .inr ⟨[], q, w, rest, [], e, rfl, .nil, hq⟩
      | ok t =>
        rcases ih with ⟨texts, htexts⟩ | ⟨before, p, v, after, texts, e, rfl, htexts, he⟩
        · exact .inl ⟨t :: texts, .bound hq htexts⟩
        · exact .inr ⟨.bound q w :: before, p, v, after, t :: texts, e, rfl,
            .bound hq htexts, he⟩

/-- Without placeholders nothing is printed or counted, and the texts are the result. -/
theorem renderFrom_of_unaddressed (table : CodeTable) (h : bindings bound = []) (verbosity : Int)
    (index : Nat) :
    renderFrom table verbosity index bound =
      ⟨[], index, .ok ((bound.map BoundSegment.segment).map Segment.raw).flatten⟩ := by
  induction bound with
  | nil => rfl
  | cons s rest ih =>
    cases s with
    | literal t =>
      rw [renderFrom, ih h]
      rfl
    | bound p v => simp at h

end Walk

/-! ## Formatting -/

section Formatting

variable {table : CodeTable} {template : Text} {args : List Value} {named : List (Text × Value)}
  {bound : List BoundSegment}

theorem trace_interpret (table : CodeTable) (bound : List BoundSegment) (verbosity : Int)
    (count : Option Nat) :
    (interpret table bound verbosity count).trace = (renderFrom table verbosity 0 bound).trace := by
  unfold interpret
  simp only
  split <;> rfl

theorem result_interpret (table : CodeTable) (bound : List BoundSegment) (verbosity : Int)
    (count : Option Nat) :
    (interpret table bound verbosity count).result =
      (renderFrom table verbosity 0 bound).result := by
  unfold interpret
  simp only
  split
  · rename_i ht
    exact ht.symm
  · rename_i he
    exact he.symm

/-- When the arguments suit the template, a run is the walk over the bound segments, also where the
template is returned without one. -/
theorem rendering_of_link (h : link (scan template) args named = .ok bound) (verbosity : Int)
    (count : Option Nat) :
    (run table (.text template) args named verbosity count).trace =
        (renderFrom table verbosity 0 bound).trace ∧
      (run table (.text template) args named verbosity count).result =
        (renderFrom table verbosity 0 bound).result := by
  unfold run runText
  simp only
  split
  · rename_i hempty
    obtain ⟨hsegments, -⟩ := link_ok h
    have hnone : bindings bound = [] := by
      have hfields : placeholders (scan template) = [] := by
        simpa using (Bool.and_eq_true_iff.mp hempty).2
      rw [← hsegments, ← map_fst_bindings] at hfields
      simpa using hfields
    have hwalk := renderFrom_of_unaddressed table hnone verbosity 0
    rw [hsegments, ← List.flatMap_def] at hwalk
    rw [hwalk]
    exact ⟨rfl, congrArg Except.ok (unscan_scan template).symm⟩
  · simp only [h]
    exact ⟨trace_interpret _ _ _ _, result_interpret _ _ _ _⟩

/-- A run that fails in its walk counts nothing. -/
theorem count_of_link (h : link (scan template) args named = .ok bound) {verbosity : Int}
    {e : Failure} (he : (renderFrom table verbosity 0 bound).result = .error e)
    (count : Option Nat) :
    (run table (.text template) args named verbosity count).count = count := by
  unfold run runText
  simp only
  split
  · rfl
  · simp only [h, interpret, he]

theorem result_of_link (h : link (scan template) args named = .ok bound) (verbosity : Int)
    (count : Option Nat) :
    (run table (.text template) args named verbosity count).result =
      (renderFrom table verbosity 0 bound).result :=
  (rendering_of_link h verbosity count).2

theorem format_of_link (h : link (scan template) args named = .ok bound) :
    format table (.text template) args named = (renderFrom table 0 0 bound).result :=
  result_of_link h 0 none

/-- Arguments that do not suit the template are refused before anything is rendered. -/
theorem run_of_link_error {f : Fault} (h : link (scan template) args named = .error f)
    (verbosity : Int) (count : Option Nat) :
    run table (.text template) args named verbosity count = .failed (.fault f) count := by
  unfold run runText
  simp only [h]
  split
  · -- without placeholders and arguments there is nothing to refuse
    rename_i hempty
    obtain ⟨⟨rfl, rfl⟩, hfields⟩ :
        (args = [] ∧ named = []) ∧ placeholders (scan template) = [] := by
      simpa using hempty
    obtain ⟨bound, hbound⟩ := bindFrom_of_unaddressed [] 0 hfields
    have hlink := link_of_unaddressed hfields (.inl rfl : OneSource [] [])
    rw [h, if_pos (show offered [] [] = [] from rfl), hbound] at hlink
    cases hlink
  · rfl

/-- A template that is one placeholder takes one argument. -/
theorem link_open (v : Value) :
    link (scan "\x7b\x7d") [v] [] = .ok [.bound ⟨"", none, ⟨1, 1⟩⟩ v] := by
  have hscan : scan "\x7b\x7d" = [.field ⟨"", none, ⟨1, 1⟩⟩] := by cbv
  rw [hscan]
  rfl

end Formatting

end BraceTemplate
