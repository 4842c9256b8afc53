import BraceTemplate.Proofs.Rendering.Substitution
import BraceTemplate.Proofs.Text.Quoted

/-!
# What a run traces

A run renders its placeholders from left to right, and if it is verbose it prints a line for each
one that is done. If one of them fails, there are the lines of those before it and no other trace of
the run: nothing is counted, and the fault comes out as it was raised, but that what it does not
tell of its place is told by the placeholder. Whether a run is verbose, and what was counted before
it, does not change its result.
-/

namespace BraceTemplate

/-! ## Steps -/

/-- Steps of placeholders with their values, one each and in order, numbered from `index` on. A step
has the placeholder's own text and what its value is rendered to. -/
inductive Traces (table : CodeTable) : Nat → List (Placeholder × Value) → List Step → Prop where
  | nil {index} : Traces table index [] []
  | cons {index} {p : Placeholder} {v t rest steps} (own : renderValue table v p.spec = .ok t)
      (others : Traces table (index + 1) rest steps) :
      Traces table index ((p, v) :: rest) (⟨index, p.raw, t⟩ :: steps)

section Steps

variable {table : CodeTable} {before : List BoundSegment} {texts : List Text}

/-- Segments that have texts print the steps of their placeholders in front of what the others
print, and move the number on by as many. -/
theorem renderFrom_append_trace (h : Rendered table before texts) (index : Nat) :
    ∃ steps, Traces table index (bindings before) steps ∧ ∀ verbosity rest,
      (renderFrom table verbosity index (before ++ rest)).trace =
          steps.flatMap (Step.trace verbosity) ++
            (renderFrom table verbosity (index + (bindings before).length) rest).trace ∧
        (renderFrom table verbosity index (before ++ rest)).steps =
          (renderFrom table verbosity (index + (bindings before).length) rest).steps := by
  induction h generalizing index with
  | nil => exact ⟨[], .nil, fun _ _ => ⟨rfl, rfl⟩⟩
  | literal _ ih => exact ih index
  | @bound p v t before texts hv _ ih =>
    obtain ⟨steps, htraces, hrest⟩ := ih (index + 1)
    refine ⟨⟨index, p.raw, t⟩ :: steps, .cons hv htraces, ?_⟩
    intro verbosity rest
    obtain ⟨htrace, hsteps⟩ := hrest verbosity rest
    rw [List.cons_append, renderFrom, hv, bindings_bound, List.length_cons,
      show index + ((bindings before).length + 1) = index + 1 + (bindings before).length from by
        omega]
    refine ⟨?_, hsteps⟩
    rw [List.flatMap_cons, List.append_assoc]
    exact congrArg (Step.trace verbosity _ ++ ·) htrace

/-- If all segments have texts, these come out, and the steps of all placeholders are printed. -/
theorem renderFrom_of_rendered (h : Rendered table before texts) (index : Nat) :
    ∃ steps, Traces table index (bindings before) steps ∧ ∀ verbosity,
      renderFrom table verbosity index before =
        ⟨steps.flatMap (Step.trace verbosity), index + (bindings before).length,
          .ok texts.flatten⟩ := by
  obtain ⟨steps, htraces, hwalk⟩ := renderFrom_append_trace h index
  refine ⟨steps, htraces, fun verbosity => ?_⟩
  obtain ⟨htrace, hsteps⟩ := hwalk verbosity []
  rw [List.append_nil] at htrace hsteps
  have hcount : (renderFrom table verbosity index before).steps =
      index + (bindings before).length := hsteps
  rw [renderFrom, List.append_nil] at htrace
  rw [← htrace, ← hcount, ← renderFrom_result_of_rendered h verbosity index]

/-- The first placeholder whose value has no text ends the walk, and nothing is printed of it. -/
theorem renderFrom_of_error {p : Placeholder} {v : Value} {e : Failure}
    (h : Rendered table before texts) (hp : renderValue table v p.spec = .error e) (index : Nat)
    (after : List BoundSegment) :
    ∃ steps, Traces table index (bindings before) steps ∧ ∀ verbosity,
      renderFrom table verbosity index (before ++ .bound p v :: after) =
        ⟨steps.flatMap (Step.trace verbosity), index + (bindings before).length,
          .error (e.locate p.site)⟩ := by
  obtain ⟨steps, htraces, hwalk⟩ := renderFrom_append_trace h index
  refine ⟨steps, htraces, fun verbosity => ?_⟩
  obtain ⟨htrace, hsteps⟩ := hwalk verbosity (.bound p v :: after)
  rw [renderFrom, hp] at htrace hsteps
  have hcount : (renderFrom table verbosity index (before ++ .bound p v :: after)).steps =
      index + (bindings before).length := hsteps
  rw [List.append_nil] at htrace
  rw [← htrace, ← hcount, ← renderFrom_result_of_error h hp verbosity index after]

end Steps

/-! ## Lines -/

/-- The line of a step: its number, with blanks before it that fill it up to three places, in front
of a colon and in a colour; then the placeholder as it stands in the template, an arrow in another
colour, and the text in quotes. -/
inductive Step.ReportedBy (s : Step) : Text → Prop where
  | intro {number shown}
      (filled : ∃ blanks, number = List.replicate blanks (' ' : CodePoint) ++ Text.ofInt s.index)
      (length_eq : number.length = max 3 (Text.ofInt s.index).length)
      (quoted : Text.Quotation s.rendered shown) :
      ReportedBy s ("\x1b[90m" ++ number ++ " :\x1b[0m  " ++ s.raw ++ " \x1b[36m <=> \x1b[0m " ++
        shown)

theorem Step.reportedBy_report (s : Step) : s.ReportedBy s.report := by
  have hline : s.report =
      "\x1b[90m" ++ (Text.ofInt s.index).leftpad 3 (' ' : CodePoint) ++ " :\x1b[0m  " ++
      s.raw ++ " \x1b[36m <=> \x1b[0m " ++ Text.quoted s.rendered := by
    simp [report, Text.coloured, Text.colour, Text.plain, Text.escape]
  rw [hline]
  exact .intro ⟨_, rfl⟩ List.length_leftpad (Text.quotation_quoted s.rendered)

/-- What a run prints of these steps: a line for each of them if it is verbose, and else nothing. -/
structure Run.Shows (r : Run) (verbosity : Int) (steps : List Step) : Prop where
  lines : 0 < verbosity → List.Forall₂ Step.ReportedBy steps r.trace
  trace_eq_nil : verbosity ≤ 0 → r.trace = []

theorem Run.shows_of_trace {r : Run} {verbosity : Int} {steps : List Step}
    (h : r.trace = steps.flatMap (Step.trace verbosity)) : r.Shows verbosity steps := by
  constructor
  · intro hverbose
    have hline : Step.trace verbosity = pure ∘ Step.report := funext fun _ => if_pos hverbose
    rw [h, hline, List.flatMap_pure_eq_map, List.forall₂_map_right_iff, List.forall₂_same]
    exact fun s _ => s.reportedBy_report
  · intro hquiet
    have hline : Step.trace verbosity = fun _ => [] := funext fun _ => if_neg (by omega)
    rw [h, hline, List.flatMap_eq_nil_iff]
    exact fun _ _ => rfl

/-- What a run of segments that suit their arguments results in and prints, if it is known what
rendering them does. -/
theorem shows_of_link {table : CodeTable} {template : Text} {args : List Value}
    {named : List (Text × Value)} {bound : List BoundSegment} {steps : List Step} {done : Nat}
    {result : Except Failure Text} (h : link (scan template) args named = .ok bound)
    (hwalk : ∀ verbosity, renderFrom table verbosity 0 bound =
      ⟨steps.flatMap (Step.trace verbosity), done, result⟩) (verbosity : Int)
    (count : Option Nat) :
    (run table (.text template) args named verbosity count).result = result ∧
      (run table (.text template) args named verbosity count).Shows verbosity steps := by
  obtain ⟨htrace, hresult⟩ := rendering_of_link h verbosity count
  rw [hwalk] at htrace hresult
  exact ⟨hresult, Run.shows_of_trace htrace⟩

/-! ## Places of faults -/

end BraceTemplate
