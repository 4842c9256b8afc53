import BraceTemplate.Proofs.Rendering.Trace

/-!
# The count that runs share

Runs that are made one after the other share a count of placeholders. Each run that makes a text
adds the placeholders of its template, also where it prints its steps, and a run that fails, at
whatever placeholder, adds nothing. So the count tells the placeholders of all texts made so far,
and there is none as long as these have no placeholders.
-/

namespace BraceTemplate

/-- The placeholders of a template; what is no text has none. -/
def templatePlaceholders : Value → List Placeholder
  | .text template => placeholders (scan template)
  | _ => []

/-! ## One run -/

/-- A count with further placeholders. To add none does not begin a count. -/
def raiseCount (count : Option Nat) (more : Nat) : Option Nat :=
  if more = 0 then count else some (count.getD 0 + more)

/-- A walk that makes a text has rendered every placeholder. -/
theorem steps_of_ok {table : CodeTable} {bound : List BoundSegment} {verbosity : Int} {index : Nat}
    {t : Text} (h : (renderFrom table verbosity index bound).result = .ok t) :
    (renderFrom table verbosity index bound).steps = index + (bindings bound).length := by
  rcases rendered_or_first_error table bound with
    ⟨texts, htexts⟩ | ⟨before, p, v, after, texts, e, rfl, htexts, he⟩
  · obtain ⟨steps, -, hwalk⟩ := renderFrom_of_rendered htexts index
    rw [hwalk]
  · rw [renderFrom_result_of_error htexts he] at h
    cases h

/-- Arguments that suit a template without placeholders are none at all. -/
theorem no_arguments_of_link {segments : List Segment} {args : List Value}
    {named : List (Text × Value)} {bound : List BoundSegment}
    (h : link segments args named = .ok bound) (hfields : placeholders segments = []) :
    args = [] ∧ named = [] := by
  rcases linkOutcome segments args named with ⟨_, _, hsuits, _⟩ | ⟨f, hlink, _⟩
  · have hoffered := hsuits.unaddressed hfields
    unfold offered at hoffered
    split at hoffered
    · rename_i hnamed
      exact ⟨hoffered, hnamed⟩
    · cases hoffered
  · cases h.symm.trans hlink

section Run

variable {table : CodeTable} {args : List Value} {named : List (Text × Value)}

/-- A walk that makes a text counts the placeholders, and where the template is returned without a
walk there are none. -/
theorem count_of_link_of_ok {template : Text} {bound : List BoundSegment}
    (h : link (scan template) args named = .ok bound) {t : Text}
    {verbosity : Int} (ht : (renderFrom table verbosity 0 bound).result = .ok t)
    (count : Option Nat) :
    (run table (.text template) args named verbosity count).count =
      raiseCount count (placeholders (scan template)).length := by
  unfold run runText
  simp only
  split
  · rename_i hempty
    have hfields : placeholders (scan template) = [] := by
      simpa using (Bool.and_eq_true_iff.mp hempty).2
    rw [hfields]
    rfl
  · rename_i hgiven
    have hfields : (placeholders (scan template)).length ≠ 0 := by
      intro hnone
      have hnone := List.length_eq_zero_iff.mp hnone
      obtain ⟨rfl, rfl⟩ := no_arguments_of_link h hnone
      exact hgiven (by simp [hnone])
    have hsteps : (renderFrom table verbosity 0 bound).steps =
        (placeholders (scan template)).length := by
      rw [steps_of_ok ht, Nat.zero_add, ← (link_ok h).1, ← map_fst_bindings, List.length_map]
    simp only [h, interpret, ht, hsteps, raiseCount, if_neg hfields]

/-- A run that makes a text counts the placeholders of its template. -/
theorem count_run_of_ok {template : Value} {verbosity : Int} {count : Option Nat} {t : Text}
    (h : (run table template args named verbosity count).result = .ok t) :
    (run table template args named verbosity count).count =
      raiseCount count (templatePlaceholders template).length := by
  cases template with
  | text template =>
    cases hlink : link (scan template) args named with
    | error f =>
      rw [run_of_link_error hlink] at h
      cases h
    | ok bound =>
      exact count_of_link_of_ok hlink ((result_of_link hlink verbosity count).symm.trans h) count
  | _ => cases h

/-- A run that fails leaves the count as it was. -/
theorem count_run_of_error {template : Value} {verbosity : Int} {count : Option Nat} {e : Failure}
    (h : (run table template args named verbosity count).result = .error e) :
    (run table template args named verbosity count).count = count := by
  cases template with
  | text template =>
    cases hlink : link (scan template) args named with
    | error f =>
      rw [run_of_link_error hlink]
      rfl
    | ok bound =>
      exact count_of_link hlink ((result_of_link hlink verbosity count).symm.trans h) count
  | _ => rfl

end Run

/-! ## Runs in sequence -/

/-- A run that is asked for: the formatter's table, the template and its arguments, and how verbose
it is. -/
structure Call where
  table : CodeTable
  template : Value
  args : List Value
  named : List (Text × Value)
  verbosity : Int

namespace Call

/-- The run that a call makes from a count. -/
def answer (c : Call) (count : Option Nat) : Run :=
  run c.table c.template c.args c.named c.verbosity count

/-- Calls made one after the other, with their answers. Each starts from the count that the one
before it leaves. -/
def history : Option Nat → List Call → List (Call × Run)
  | _, [] => []
  | count, c :: rest => (c, c.answer count) :: history (c.answer count).count rest

end Call

/-- The placeholders that a call has rendered for its text; a call that failed has none. -/
def counted (c : Call) (a : Run) : Nat :=
  if a.result.isOk then (templatePlaceholders c.template).length else 0

/-- All placeholders of calls that made a text. -/
def totalCounted : List (Call × Run) → Nat
  | [] => 0
  | (c, a) :: rest => counted c a + totalCounted rest

/-- The count for a number of placeholders. There is none just if that is zero. -/
def countFor (total : Nat) : Option Nat :=
  if total = 0 then none else some total

/-- The count behind calls that begin with `count`. -/
def countBehind (count : Option Nat) (done : List (Call × Run)) : Option Nat :=
  done.foldl (fun _ entry => entry.2.count) count

theorem raiseCount_countFor (total more : Nat) :
    raiseCount (countFor total) more = countFor (total + more) := by
  unfold raiseCount countFor
  by_cases htotal : total = 0 <;> by_cases hmore : more = 0 <;> simp [htotal, hmore]

/-- A call raises the count by what it has rendered. -/
theorem Call.count_answer (c : Call) (count : Option Nat) :
    (c.answer count).count = raiseCount count (counted c (c.answer count)) := by
  cases h : (c.answer count).result with
  | ok t =>
    rw [counted, h]
    exact count_run_of_ok h
  | error e =>
    rw [counted, h]
    exact count_run_of_error h

section History

variable {calls : List Call} {before after : List (Call × Run)} {c : Call} {a : Run}

/-- A call is answered from the count behind the calls before it. -/
theorem answer_of_history {count : Option Nat}
    (h : Call.history count calls = before ++ (c, a) :: after) :
    a = c.answer (countBehind count before) := by
  induction calls generalizing count before with
  | nil => simp [Call.history] at h
  | cons first rest ih =>
    cases before with
    | nil =>
      obtain ⟨hentry, -⟩ := List.cons.inj h
      cases hentry
      rfl
    | cons entry before =>
      obtain ⟨rfl, hrest⟩ := List.cons.inj h
      exact @ih _ (first.answer count).count hrest

/-- From a count that tells what was rendered before, calls make one that tells what they have
rendered too. -/
theorem countBehind_of_history {total : Nat}
    (h : Call.history (countFor total) calls = before ++ after) :
    countBehind (countFor total) before = countFor (total + totalCounted before) := by
  induction calls generalizing total before with
  | nil =>
    obtain ⟨rfl, -⟩ := List.append_eq_nil_iff.mp h.symm
    rfl
  | cons first rest ih =>
    cases before with
    | nil => rfl
    | cons entry before =>
      obtain ⟨rfl, hrest⟩ := List.cons.inj h
      have hfirst := (first.count_answer (countFor total)).trans (raiseCount_countFor _ _)
      rw [hfirst] at hrest
      have hlater := ih hrest
      rw [← hfirst] at hlater
      simpa [countBehind, totalCounted, Nat.add_assoc] using hlater

/-- **The shared count tells what was rendered.** Behind each call of a sequence that begins without
a count, this is the number of placeholders in the templates of all calls so far that made a text,
and there is none just as long as that number is zero. A call that fails leaves the count that it
found. -/
theorem count_of_history (h : Call.history none calls = before ++ (c, a) :: after) :
    a.count = countFor (totalCounted (before ++ [(c, a)])) ∧
      a = c.answer (countBehind none before) ∧
      ∀ e, a.result = .error e → a.count = countBehind none before := by
  have hanswer := answer_of_history h
  refine ⟨?_, hanswer, ?_⟩
  · have hsplit : Call.history (countFor 0) calls = (before ++ [(c, a)]) ++ after := by
      simpa [countFor] using h
    have hcount := countBehind_of_history hsplit
    simpa [countBehind] using hcount
  · intro e he
    rw [hanswer] at he ⊢
    exact count_run_of_error he

end History

/-- A template without placeholders. -/
def plainCall : Call := ⟨.builtin, .text "plain", [], [], 0⟩

/-- A template whose second placeholder fails. -/
def failingCall : Call :=
  ⟨.builtin, .text "\x7b\x7d\x7b:d\x7d", [.text "a", .text "b"], [], 1⟩

/-- A template with one placeholder. -/
def shownCall : Call := ⟨.builtin, .text "\x7b\x7d", [.text "c"], [], 0⟩

/-- A text without placeholders counts nothing, nor does a call that fails at its second
placeholder, and the one placeholder that is shown behind them is counted. -/
theorem count_of_history_of_failure :
    ∃ plain failed shown,
      Call.history none [plainCall, failingCall, shownCall] =
          [(plainCall, plain), (failingCall, failed)] ++ [(shownCall, shown)] ∧
        failed.result.isOk = false ∧ shown.count = some 1 := by
  have hplain : templatePlaceholders plainCall.template = [] := by cbv
  have hfailed : ∀ count, (failingCall.answer count).result.isOk = false := by
    intro count
    have hscan : scan "\x7b\x7d\x7b:d\x7d" =
        [.field ⟨"", none, ⟨1, 1⟩⟩, .field ⟨"", some "d", ⟨1, 3⟩⟩] := by cbv
    have hlink : link (scan "\x7b\x7d\x7b:d\x7d") [.text "a", .text "b"] [] =
        .ok [.bound ⟨"", none, ⟨1, 1⟩⟩ (.text "a"), .bound ⟨"", some "d", ⟨1, 3⟩⟩ (.text "b")] := by
      rw [hscan]
      rfl
    have hfirst : Rendered .builtin [.bound ⟨"", none, ⟨1, 1⟩⟩ (.text "a")] ["a"] :=
      .bound rfl .nil
    have herror := renderFrom_result_of_error hfirst (p := ⟨"", some "d", ⟨1, 3⟩⟩) (v := .text "b")
      (e := .ofCause (.notIntegral (.text "b") (some "d"))) rfl 1 0 []
    exact congrArg Except.isOk ((result_of_link hlink _ count).trans herror)
  have hfields : templatePlaceholders shownCall.template = [⟨"", none, ⟨1, 1⟩⟩] := by cbv
  have hshown : ∀ count, (shownCall.answer count).result.isOk = true := by
    intro count
    exact congrArg Except.isOk (result_of_link (link_open (.text "c")) _ count)
  refine ⟨_, _, _, rfl, hfailed _, ?_⟩
  have hhistory : Call.history none [plainCall, failingCall, shownCall] =
      [(plainCall, _), (failingCall, _)] ++ (shownCall, _) :: [] := rfl
  obtain ⟨hcount, -, -⟩ := count_of_history hhistory
  rw [hcount]
  simp [totalCounted, counted, hplain, hfailed, hfields, hshown, countFor]

end BraceTemplate
