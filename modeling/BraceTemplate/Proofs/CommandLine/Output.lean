import BraceTemplate.CommandLine.Output
import BraceTemplate.Proofs.Text.Stripped
import Mathlib.Data.List.Basic

/-!
# What reaches the streams

A plan is carried out up to the first text that the output refuses. So either all of it is written
and the run ends as planned, or what comes before that text is written and the run breaks off.
Without surrogates nothing is refused and everything is written as it stands.
-/

namespace BraceTemplate

/-- Everything in a list passes a test, or something is the first that does not. -/
theorem all_or_first_not {α : Type} (test : α → Bool) (l : List α) :
    (∀ a ∈ l, test a = true) ∨ ∃ before a after, l = before ++ a :: after ∧
      (∀ x ∈ before, test x = true) ∧ test a = false := by
  cases hfound : l.find? (!test ·) with
  | none => exact .inl (by simpa using hfound)
  | some a =>
    obtain ⟨hfails, before, after, hsplit, hbefore⟩ := List.find?_eq_some_iff_append.mp hfound
    exact .inr ⟨before, a, after, hsplit, by simpa using hbefore, by simpa using hfails⟩

/-! ## Surrogates -/

namespace Text

variable {s t : Text}

theorem isEncodable_append : isEncodable (s ++ t) = (isEncodable s && isEncodable t) :=
  List.all_append

@[simp] theorem escapeSurrogates_nil : escapeSurrogates [] = [] := rfl

@[simp] theorem escapeSurrogates_append :
    escapeSurrogates (s ++ t) = escapeSurrogates s ++ escapeSurrogates t :=
  List.flatMap_append

theorem escapeSurrogates_of_isEncodable (h : isEncodable t = true) : escapeSurrogates t = t := by
  induction t with
  | nil => rfl
  | cons c t ih =>
    simp only [isEncodable, List.all_cons, Bool.and_eq_true, Bool.not_eq_true'] at h
    rw [escapeSurrogates, List.flatMap_cons, h.1]
    exact congrArg (c :: ·) (ih h.2)

/-- Colours are no surrogates, so it does not matter for these whether a text is coloured. -/
theorem Interspersed.isEncodable_eq (h : Interspersed s t) : isEncodable s = isEncodable t := by
  induction h with
  | nil => rfl
  | keep c rest ih => exact congrArg (!c.isSurrogate && ·) ih
  | @code code s t whole rest ih =>
    have hcode : isEncodable code = true := by
      obtain ⟨parameters, hparameters, rfl⟩ := whole
      refine List.all_eq_true.mpr fun c hc => ?_
      simp only [colour, List.mem_append, List.mem_cons, List.not_mem_nil, or_false] at hc
      rcases hc with (rfl | rfl | hc) | rfl
      · rfl
      · rfl
      · cases c with
        | scalar c => rfl
        | surrogate index => rcases hparameters _ hc with hdigit | hsemicolon <;> contradiction
      · rfl
    rw [isEncodable_append, hcode, Bool.true_and, ih]

theorem isEncodable_stripColours (t : Text) : isEncodable (stripColours t) = isEncodable t :=
  (interspersed_stripColours t).isEncodable_eq

end Text

namespace CommandLine

/-! ## Streams -/

section Streams

variable {stream other : Stream}

@[simp] theorem textOn_nil (stream : Stream) : textOn stream [] = [] := rfl

@[simp] theorem textOn_cons (stream : Stream) (w : Write) (rest : List Write) :
    textOn stream (w :: rest) =
      (if w.stream = stream then w.text else []) ++ textOn stream rest := by
  by_cases h : w.stream = stream <;> simp [textOn, h]

@[simp] theorem textOn_append (stream : Stream) (first second : List Write) :
    textOn stream (first ++ second) = textOn stream first ++ textOn stream second := by
  simp [textOn]

@[simp] theorem textOn_flatMap {α : Type} (stream : Stream) (f : α → List Write) (l : List α) :
    textOn stream (l.flatMap f) = l.flatMap fun a => textOn stream (f a) := by
  induction l with
  | nil => rfl
  | cons a l ih => rw [List.flatMap_cons, textOn_append, ih, List.flatMap_cons]

@[simp] theorem textOn_printLine (stream : Stream) (line : Text) :
    textOn stream (printLine stream line) = line ++ (['\n'] : Text) := by
  simp [printLine]

/-- All writes go to this stream. -/
def On (stream : Stream) (writes : List Write) : Prop :=
  ∀ w ∈ writes, w.stream = stream

theorem on_printLine (stream : Stream) (line : Text) : On stream (printLine stream line) := by
  simp [On, printLine]

theorem On.append {first second : List Write} (hfirst : On stream first)
    (hsecond : On stream second) : On stream (first ++ second) :=
  List.forall_mem_append.mpr ⟨hfirst, hsecond⟩

theorem On.flatMap {α : Type} {f : α → List Write} (h : ∀ a, On stream (f a)) (l : List α) :
    On stream (l.flatMap f) := by
  intro w hw
  obtain ⟨a, -, hmem⟩ := List.mem_flatMap.mp hw
  exact h a w hmem

theorem On.textOn_eq {writes : List Write} (h : On stream writes) :
    textOn stream writes = writes.flatMap Write.text := by
  rw [textOn, List.filter_eq_self.mpr (by simpa [On] using h)]

theorem On.textOn_of_ne {writes : List Write} (h : On stream writes) (hne : stream ≠ other) :
    textOn other writes = [] := by
  have hnone : writes.filter (·.stream = other) = [] := by
    rw [List.filter_eq_nil_iff]
    intro w hw
    simpa [h w hw] using hne
  rw [textOn, hnone]
  rfl

/-- What stands on a stream is escaped write by write or as a whole. -/
theorem textOn_map_escaped (stream : Stream) (writes : List Write) :
    textOn stream (writes.map Write.escaped) = (textOn stream writes).escapeSurrogates := by
  induction writes with
  | nil => rfl
  | cons w rest ih =>
    rw [List.map_cons, textOn_cons, textOn_cons, Text.escapeSurrogates_append, ih]
    by_cases h : w.stream = stream <;> simp [Write.escaped, h]

end Streams

/-! ## Carrying out a plan -/

/-- None of the writes is refused. -/
def Taken (writes : List Write) : Prop :=
  ∀ w ∈ writes, w.isRefused = false

theorem Write.isRefused_eq_true_iff {w : Write} :
    w.isRefused = true ↔ w.stream = .out ∧ w.text.isEncodable = false := by
  simp [Write.isRefused]

theorem Write.isRefused_of_err {w : Write} (h : w.stream = .err) : w.isRefused = false := by
  simp [Write.isRefused, h]

/-- The errors take everything. -/
theorem On.taken {writes : List Write} (h : On .err writes) : Taken writes :=
  fun w hw => Write.isRefused_of_err (h w hw)

theorem taken_printLine {line : Text} (h : line.isEncodable = true) (stream : Stream) :
    Taken (printLine stream line) := by
  have hfeed : Text.isEncodable ['\n'] = true := rfl
  simp [Taken, printLine, Write.isRefused, h, hfeed]

/-- A line that can be encoded is written as it stands. -/
theorem map_escaped_printLine {line : Text} (h : line.isEncodable = true) (stream : Stream) :
    (printLine stream line).map Write.escaped = printLine stream line := by
  simp only [printLine, List.map_cons, List.map_nil, Write.escaped,
    Text.escapeSurrogates_of_isEncodable h]
  rfl

namespace Plan

variable {ending : Except Crash Nat} {writes before after : List Write} {w : Write}

theorem outcome_id (report : Crash → String) (p : Plan) :
    p.outcome id report = (performFrom p.ending p.writes).reported id report := by
  rw [outcome, List.map_id]

/-- What is taken is written, and the rest follows. -/
theorem performFrom_append (h : Taken before) (ending : Except Crash Nat) (after : List Write) :
    performFrom ending (before ++ after) =
      ⟨(performFrom ending after).ending,
        before.map Write.escaped ++ (performFrom ending after).writes⟩ := by
  induction before with
  | nil => rfl
  | cons w before ih =>
    obtain ⟨hw, hbefore⟩ := List.forall_mem_cons.mp h
    rw [List.cons_append, performFrom, hw, if_neg Bool.false_ne_true, ih hbefore]
    rfl

/-- A plan of which nothing is refused is carried out. -/
theorem performFrom_of_taken (h : Taken writes) (ending : Except Crash Nat) :
    performFrom ending writes = ⟨ending, writes.map Write.escaped⟩ := by
  have hall := performFrom_append h ending []
  rwa [List.append_nil, performFrom, List.append_nil] at hall

/-- The first text that is refused ends the run, and nothing is written of it. -/
theorem performFrom_of_refused (hbefore : Taken before) (hw : w.isRefused = true)
    (ending : Except Crash Nat) (after : List Write) :
    performFrom ending (before ++ w :: after) =
      ⟨.error (.unencodable w.text), before.map Write.escaped⟩ := by
  rw [performFrom_append hbefore, performFrom, if_pos hw, List.append_nil]

end Plan

/-! ## Lines of output -/

section Lines

variable {lines before after : List Text} {line : Text} {errors : List Write}

theorem taken_lines (h : ∀ line ∈ lines, line.isEncodable = true) :
    Taken (lines.flatMap (printLine .out)) := by
  intro w hw
  obtain ⟨line, hline, hmem⟩ := List.mem_flatMap.mp hw
  exact taken_printLine (h line hline) .out w hmem

theorem map_escaped_lines (h : ∀ line ∈ lines, line.isEncodable = true) :
    (lines.flatMap (printLine .out)).map Write.escaped = lines.flatMap (printLine .out) := by
  rw [List.map_flatMap]
  exact List.flatMap_congr fun line hline => map_escaped_printLine (h line hline) .out

/-- Lines of output that can be encoded are written as they stand, and errors behind them. -/
theorem performFrom_lines (hlines : ∀ line ∈ lines, line.isEncodable = true)
    (herrors : On .err errors) (ending : Except Crash Nat) :
    Plan.performFrom ending (lines.flatMap (printLine .out) ++ errors) =
      ⟨ending, lines.flatMap (printLine .out) ++ errors.map Write.escaped⟩ := by
  rw [Plan.performFrom_append (taken_lines hlines), map_escaped_lines hlines,
    Plan.performFrom_of_taken herrors.taken]

/-- The first line that cannot be encoded ends the run. -/
theorem performFrom_refused_line (hbefore : ∀ line ∈ before, line.isEncodable = true)
    (hline : line.isEncodable = false) (ending : Except Crash Nat) (after : List Text)
    (errors : List Write) :
    Plan.performFrom ending ((before ++ line :: after).flatMap (printLine .out) ++ errors) =
      ⟨.error (.unencodable line), before.flatMap (printLine .out)⟩ := by
  have hrefused : Write.isRefused ⟨.out, line⟩ = true :=
    Write.isRefused_eq_true_iff.mpr ⟨rfl, hline⟩
  rw [List.flatMap_append, List.flatMap_cons, printLine, List.append_assoc, List.append_assoc,
    List.cons_append, Plan.performFrom_of_refused (taken_lines hbefore) hrefused,
    map_escaped_lines hbefore]

/-- Lines of output stand there one after the other, and nothing is among the errors. -/
theorem textOn_lines (lines : List Text) :
    textOn .out (lines.flatMap (printLine .out)) = lines.flatMap (· ++ (['\n'] : Text)) ∧
      textOn .err (lines.flatMap (printLine .out)) = [] := by
  constructor
  · simp
  · exact (On.flatMap (on_printLine .out) lines).textOn_of_ne (by decide)

end Lines

end CommandLine

end BraceTemplate
