import BraceTemplate.Proofs.CommandLine.Outcome

/-!
# Plain output

Plain output is stripped of colours write by write, and all of it goes to one stream. Every run
writes whole lines, and nothing to the output once it has written an error. So plain output is the
output and the errors of the same run with colours, one behind the other and stripped as a whole.
The one difference is that errors with surrogates can be written among the errors, where escapes
stand for these, but not to the output.
-/

namespace BraceTemplate

/-! ## Switches in front -/

namespace Options

theorem turnOn_comm (o : Options) (a b : Switch) :
    (o.turnOn a).turnOn b = (o.turnOn b).turnOn a := by
  cases a <;> cases b <;> rfl

theorem turnOnLetters_turnOn (o : Options) (switch : Switch) (group : Text) :
    (o.turnOn switch).turnOnLetters group = (o.turnOnLetters group).turnOn switch := by
  unfold turnOnLetters
  induction (group.filterMap fun c => Switch.letters.lookup c) generalizing o with
  | nil => rfl
  | cons other rest ih => rw [List.foldl_cons, List.foldl_cons, turnOn_comm, ih]

/-- A switch that is turned on first does not change how a word is taken. -/
theorem takeWord_turnOn (o : Options) (switch : Switch) (word : Text) :
    (o.turnOn switch).takeWord word =
      (o.takeWord word).map fun taken => (taken.1.turnOn switch, taken.2) := by
  unfold takeWord
  split
  · simp only
    split
    · split
      · rfl
      · rw [turnOn_comm]
        rfl
    · split
      · rfl
      · rw [turnOnLetters_turnOn]
        rfl
  · rfl

/-- Nor does it change how the words are taken. -/
theorem takeWords_turnOn (o : Options) (switch : Switch) (words : List Text) :
    (o.turnOn switch).takeWords words =
      (o.takeWords words).map fun taken => (taken.1.turnOn switch, taken.2) := by
  induction words generalizing o with
  | nil => rfl
  | cons word rest ih =>
    rw [takeWords, takeWords]
    split
    · rfl
    · rw [takeWord_turnOn]
      cases o.takeWord word with
      | error name => rfl
      | ok taken =>
        obtain ⟨own, left⟩ := taken
        simp only [Except.map, bind, Except.bind, ih own]
        cases own.takeWords rest <;> rfl

end Options

namespace CommandLine

/-! ## Whole lines -/

/-- The writes make up whole lines, of which each is written at once or apart from its end. -/
inductive Lines : List Write → Prop where
  | nil : Lines []
  | apart {stream line rest} (others : Lines rest) : Lines (printLine stream line ++ rest)
  | whole {stream line rest} (others : Lines rest) :
      Lines (⟨stream, line ++ (['\n'] : Text)⟩ :: rest)

theorem Lines.append {first second : List Write} (hfirst : Lines first) (hsecond : Lines second) :
    Lines (first ++ second) := by
  induction hfirst with
  | nil => exact hsecond
  | apart _ ih =>
    rw [List.append_assoc]
    exact .apart ih
  | whole _ ih => exact .whole ih

theorem Lines.flatMap {α : Type} {f : α → List Write} (h : ∀ a, Lines (f a)) (l : List α) :
    Lines (l.flatMap f) := by
  induction l with
  | nil => exact .nil
  | cons a l ih => exact (h a).append ih

theorem lines_printLine (stream : Stream) (line : Text) : Lines (printLine stream line) := by
  have hline : Lines (printLine stream line ++ []) := .apart .nil
  rwa [List.append_nil] at hline

/-- Before a text with surrogates, which is no end of a line, stand whole lines. -/
theorem Lines.of_append {before after : List Write} {w : Write} (h : Lines (before ++ w :: after))
    (hw : w.text.isEncodable = false) : Lines before := by
  generalize hwrites : before ++ w :: after = writes at h
  induction h generalizing before with
  | nil => simp at hwrites
  | @apart stream line rest others ih =>
    cases before with
    | nil => exact .nil
    | cons first before =>
      cases before with
      | nil =>
        obtain ⟨-, rfl, -⟩ : first = ⟨stream, line⟩ ∧ w = ⟨stream, ['\n']⟩ ∧ after = rest := by
          simpa [printLine] using hwrites
        cases hw
      | cons second before =>
        obtain ⟨rfl, rfl, hrest⟩ : first = ⟨stream, line⟩ ∧ second = ⟨stream, ['\n']⟩ ∧
            before ++ w :: after = rest := by
          simpa [printLine] using hwrites
        exact .apart (ih hrest)
  | @whole stream line rest others ih =>
    cases before with
    | nil => exact .nil
    | cons first before =>
      obtain ⟨rfl, hrest⟩ : first = ⟨stream, line ++ (['\n'] : Text)⟩ ∧
          before ++ w :: after = rest := by
        simpa using hwrites
      exact .whole (ih hrest)

/-- Lines that are stripped write by write are stripped as a whole. -/
theorem Lines.strip {writes : List Write} (h : Lines writes) :
    (writes.flatMap fun w => Text.stripColours w.text) =
      Text.stripColours (writes.flatMap Write.text) := by
  induction h with
  | nil => exact Text.stripColours_nil.symm
  | @apart stream line rest _ ih =>
    have hfeed : Text.stripColours ['\n'] = ['\n'] := by
      have h := Text.stripColours_line [] []
      simpa using h
    simp [printLine, ih, hfeed, Text.stripColours_line]
  | @whole stream line rest _ ih =>
    have hline := Text.stripColours_line line []
    simp [ih, hline, Text.stripColours_line]

/-! ## Output before errors -/

/-- What a run writes: lines of output, and then lines of errors. -/
structure Ordered (writes : List Write) : Prop where
  lines : Lines writes
  split : ∃ before after, writes = before ++ after ∧ On .out before ∧ On .err after

theorem Ordered.outputs_append_errors {writes : List Write} (h : Ordered writes) :
    textOn .out writes ++ textOn .err writes = writes.flatMap Write.text := by
  obtain ⟨before, after, rfl, hbefore, hafter⟩ := h.split
  rw [textOn_append, textOn_append, hbefore.textOn_eq, hafter.textOn_eq,
    hbefore.textOn_of_ne (by decide), hafter.textOn_of_ne (by decide), List.append_nil,
    List.nil_append, List.flatMap_append]

/-- Behind an error there are only errors. -/
theorem Ordered.on_err_of_append {before after : List Write} {w : Write}
    (h : Ordered (before ++ w :: after)) (hw : w.stream = .err) : On .err (w :: after) := by
  obtain ⟨outputs, errors, hsplit, houtputs, herrors⟩ := h.split
  rcases List.append_eq_append_iff.mp hsplit with ⟨more, rfl, hmore⟩ | ⟨more, rfl, hmore⟩
  · cases more with
    | nil => exact hmore ▸ herrors
    | cons first more =>
      obtain rfl : w = first := by simpa using congrArg List.head? hmore
      have hout : w.stream = .out := houtputs w (by simp)
      cases hw.symm.trans hout
  · rw [hmore] at herrors
    exact (List.forall_mem_append.mp herrors).2

/-- What stands before a text with surrogates is as it should be. -/
theorem Ordered.of_append {before after : List Write} {w : Write}
    (h : Ordered (before ++ w :: after)) (hw : w.text.isEncodable = false) : Ordered before where
  lines := h.lines.of_append hw
  split := by
    obtain ⟨outputs, errors, hsplit, houtputs, herrors⟩ := h.split
    rcases List.append_eq_append_iff.mp hsplit with ⟨more, rfl, -⟩ | ⟨more, rfl, hmore⟩
    · exact ⟨before, [], (List.append_nil _).symm, (List.forall_mem_append.mp houtputs).1,
        by simp [On]⟩
    · rw [hmore] at herrors
      exact ⟨outputs, more, rfl, houtputs, (List.forall_mem_append.mp herrors).1⟩

/-- One more line of errors. -/
theorem Ordered.append_error {writes : List Write} (h : Ordered writes) (line : Text) :
    Ordered (writes ++ [⟨.err, line ++ (['\n'] : Text)⟩]) := by
  obtain ⟨before, after, rfl, hbefore, hafter⟩ := h.split
  exact ⟨h.lines.append (.whole .nil), before, after ++ _, List.append_assoc _ _ _, hbefore,
    hafter.append (by simp [On])⟩

theorem on_plain (writes : List Write) : On .out (writes.map Write.plain) := by
  simp [On, Write.plain]

/-- Plain output is the output and the errors, stripped. -/
theorem Ordered.textOn_plain {writes : List Write} (h : Ordered writes) :
    textOn .out (writes.map Write.plain) =
      Text.stripColours (textOn .out writes ++ textOn .err writes) := by
  rw [(on_plain writes).textOn_eq, h.outputs_append_errors, ← h.lines.strip, List.flatMap_map]
  rfl

/-! ## Plans -/

theorem ordered_usageError (message : Text) : Ordered (usageError message).writes where
  lines := .whole (.whole .nil)
  split := ⟨[], _, rfl, by simp [On], by simp [On]⟩

/-- Help has whole lines, no colours and no surrogates. -/
theorem help_plain : help.getLast? = some ('\n' : CodePoint) ∧
    ∀ c ∈ help, c ≠ Text.escape ∧ c.isSurrogate = false := by
  decide +kernel

theorem ordered_showHelp : Ordered showHelp.writes where
  lines := by
    obtain ⟨line, hline⟩ := List.getLast?_eq_some_iff.mp help_plain.1
    rw [showHelp, hline]
    exact .whole .nil
  split := ⟨_, [], (List.append_nil _).symm, by simp [On, showHelp], by simp [On]⟩

theorem lines_countWrites (o : Options) (count : Nat) : Lines (countWrites o count) := by
  unfold countWrites
  split
  · exact .nil
  · exact lines_printLine .err _

theorem ordered_append {before after : List Write} (hbefore : Lines before ∧ On .out before)
    (hafter : Lines after ∧ On .err after) : Ordered (before ++ after) :=
  ⟨hbefore.1.append hafter.1, before, after, rfl, hbefore.2, hafter.2⟩

/-- The steps and a text go to the output; a fault and the count come behind, and are errors. -/
theorem ordered_execute (o : Options) (template : Text) (values : List Value) :
    Ordered (execute o template values).writes := by
  simp only [execute]
  generalize runText .builtin template values [] o.verbose (some 0) = r
  have hsteps : Lines (r.trace.flatMap (printLine .out)) ∧
      On .out (r.trace.flatMap (printLine .out)) :=
    ⟨.flatMap (lines_printLine .out) _, .flatMap (on_printLine .out) _⟩
  have hcount : Lines (countWrites o (r.count.getD 0)) ∧
      On .err (countWrites o (r.count.getD 0)) :=
    ⟨lines_countWrites o _, on_countWrites o _⟩
  split
  · rename_i t ht
    exact ordered_append
      ⟨hsteps.1.append (lines_printLine .out t), hsteps.2.append (on_printLine .out t)⟩ hcount
  · rename_i f hf
    rw [List.append_assoc]
    exact ordered_append hsteps
      ⟨(lines_printLine .err _).append hcount.1, (on_printLine .err _).append hcount.2⟩
  · exact ⟨hsteps.1, _, [], (List.append_nil _).symm, hsteps.2, by simp [On]⟩

/-- What is to be done for words that hold a template: to show the help, or to format. -/
def planFor (o : Options) (word : Text) (words : List Text) (stdin : Text) : Plan :=
  if o.help then showHelp else formatWords o word words stdin

theorem ordered_planFor (o : Options) (word : Text) (words : List Text) (stdin : Text) :
    Ordered (planFor o word words stdin).writes := by
  unfold planFor formatWords
  split
  · exact ordered_showHelp
  · split
    · exact ordered_usageError _
    · exact ordered_execute _ _ _

/-! ## Plain plans -/

section Plans

variable {report : Crash → String} {p : Plan} {writes before after : List Write} {w : Write}

/-- All that is to be written can be encoded. -/
def Encodable (writes : List Write) : Prop :=
  ∀ w ∈ writes, w.text.isEncodable = true

instance : Decidable (Encodable writes) :=
  inferInstanceAs (Decidable (∀ w ∈ writes, w.text.isEncodable = true))

theorem Encodable.taken (h : Encodable writes) : Taken writes :=
  fun w hw => by simp [Write.isRefused, h w hw]

theorem Encodable.plain (h : Encodable writes) : Encodable (writes.map Write.plain) := by
  intro w hw
  obtain ⟨own, hmem, rfl⟩ := List.mem_map.mp hw
  exact (Text.isEncodable_stripColours own.text).trans (h own hmem)

theorem Encodable.map_escaped (h : Encodable writes) : writes.map Write.escaped = writes := by
  refine (List.map_congr_left fun w hw => ?_).trans (List.map_id writes)
  rw [Write.escaped, Text.escapeSurrogates_of_isEncodable (h w hw)]
  rfl

/-- What can be encoded is written as it stands. -/
theorem Encodable.performFrom_eq (h : Encodable writes) (ending : Except Crash Nat) :
    Plan.performFrom ending writes = ⟨ending, writes⟩ := by
  rw [Plan.performFrom_of_taken h.taken, h.map_escaped]

/-- The runtime's report is made plain like everything else. -/
theorem reported_plain (report : Crash → String) (ending : Except Crash Nat)
    (writes : List Write) :
    Outcome.reported Write.plain report ⟨ending, writes.map Write.plain⟩ =
      ⟨ending, (Outcome.reported id report ⟨ending, writes⟩).writes.map Write.plain⟩ := by
  cases ending <;> simp [Outcome.reported]

theorem Ordered.reported (h : Ordered writes) (report : Crash → String)
    (ending : Except Crash Nat) :
    Ordered (Outcome.reported id report ⟨ending, writes⟩).writes := by
  cases ending with
  | ok code => exact h
  | error crash => exact h.append_error (report crash : Text)

theorem ending_reported (route : Write → Write) (report : Crash → String) (o : Outcome) :
    (o.reported route report).ending = o.ending := by
  unfold Outcome.reported
  split <;> simp_all

/-- The same plan with colours and without, if all of it can be encoded. -/
theorem Ordered.outcome_plain (h : Ordered p.writes) (hencodable : Encodable p.writes) :
    (p.outcome Write.plain report).exit = (p.outcome id report).exit ∧
      (p.outcome Write.plain report).stderr = [] ∧
      (p.outcome Write.plain report).stdout =
        Text.stripColours ((p.outcome id report).stdout ++ (p.outcome id report).stderr) := by
  rw [Plan.outcome_id, hencodable.performFrom_eq, Plan.outcome, hencodable.plain.performFrom_eq,
    reported_plain]
  refine ⟨?_, (on_plain _).textOn_of_ne (by decide), (h.reported report p.ending).textOn_plain⟩
  rw [Outcome.exit, Outcome.exit, ending_reported]

/-- The same plan with colours and without, up to the first text with surrogates. It ends the run
without colours. With colours, it only does so on the output. -/
theorem Ordered.outcome_plain_of_refused (h : Ordered p.writes)
    (hsplit : p.writes = before ++ w :: after) (hbefore : Encodable before)
    (hw : w.text.isEncodable = false) :
    (p.outcome Write.plain report).ending =
        .error (.unencodable (Text.stripColours w.text)) ∧
      (p.outcome Write.plain report).stderr = [] ∧
      (p.outcome Write.plain report).stdout =
        Text.stripColours (textOn .out before ++ textOn .err before ++
          report (.unencodable (Text.stripColours w.text)) ++ (['\n'] : Text)) ∧
      (p.outcome id report).ending =
        if w.stream = .out then .error (.unencodable w.text) else p.ending := by
  have hplain : (w.plain).isRefused = true :=
    Write.isRefused_eq_true_iff.mpr ⟨rfl, (Text.isEncodable_stripColours w.text).trans hw⟩
  rw [hsplit] at h
  have hperform : Plan.performFrom p.ending (p.writes.map Write.plain) =
      ⟨.error (.unencodable (Text.stripColours w.text)), before.map Write.plain⟩ := by
    rw [hsplit, List.map_append, List.map_cons,
      Plan.performFrom_of_refused hbefore.plain.taken hplain, hbefore.plain.map_escaped]
    rfl
  rw [Plan.outcome, hperform, reported_plain, Plan.outcome_id, ending_reported, hsplit]
  refine ⟨rfl, (on_plain _).textOn_of_ne (by decide), ?_, ?_⟩
  · have hreported := (h.of_append hw).append_error
      (report (.unencodable (Text.stripColours w.text)) : Text)
    refine hreported.textOn_plain.trans (congrArg Text.stripColours ?_)
    simp
  · split
    · rename_i hout
      have hrefused := Write.isRefused_eq_true_iff.mpr ⟨hout, hw⟩
      rw [Plan.performFrom_of_refused hbefore.taken hrefused]
    · rename_i hout
      have herr : w.stream = .err := by
        cases hstream : w.stream with
        | out => exact absurd hstream hout
        | err => rfl
      have htaken : Taken (before ++ w :: after) :=
        List.forall_mem_append.mpr ⟨hbefore.taken, (h.on_err_of_append herr).taken⟩
      rw [Plan.performFrom_of_taken htaken]

end Plans

/-- Help is the same in both ways. -/
theorem outcome_showHelp (report : Crash → String) :
    showHelp.outcome Write.plain report = showHelp.outcome id report := by
  have hencodable : Encodable showHelp.writes := by
    have hhelp : help.isEncodable = true :=
      List.all_eq_true.mpr fun c hc => by simp [(help_plain.2 c hc).2]
    simp [Encodable, showHelp, hhelp]
  have hstrip : Text.stripColours help = help := by
    have happend := (Text.Interspersed.refl help).stripColours_append
      (fun c hc => (help_plain.2 c hc).1) []
    simpa using happend
  have hplain : showHelp.writes.map Write.plain = showHelp.writes := by
    simp [showHelp, Write.plain, hstrip]
  rw [Plan.outcome_id, Plan.outcome, hplain, hencodable.performFrom_eq,
    Outcome.reported_of_ok rfl, Outcome.reported_of_ok rfl]

/-! ## The two ways to ask for plain output -/

/-- The outcome of the words when plain output is asked for: by an option in front of them, or by
the environment, which says so with any text that is not empty. -/
inductive RunsPlain (report : Crash → String) (words : List Text) (stdin : Text) :
    Outcome → Prop where
  | option : RunsPlain report words stdin (run report (("--plain" : Text) :: words) stdin none)
  | environment {wish : Text} (nonempty : wish ≠ []) :
      RunsPlain report words stdin (run report words stdin (some wish))

section RunsPlain

variable {report : Crash → String} {words rest : List Text} {o : Options} {word stdin : Text}

/-- Taking the option in front of words turns on the switch and changes nothing else. -/
theorem takeWords_plain (h : Options.initial.takeWords words = .ok (o, word :: rest)) :
    Options.initial.takeWords (("--plain" : Text) :: words) =
      .ok (o.turnOn .plain, word :: rest) := by
  have hname : (("--plain" : Text), Switch.plain) ∈ Switch.longNames := by
    simp [Switch.longNames]
  rw [Options.takeWords, if_neg (by decide), Options.takeWord_long hname]
  simp only [bind, Except.bind, Options.takeWords_turnOn, h]
  rfl

/-- The two runs carry out one plan, with colours and without. -/
theorem RunsPlain.eq_outcome (h : Options.initial.takeWords words = .ok (o, word :: rest))
    (hcolours : o.plain = false) {plain : Outcome} (hplain : RunsPlain report words stdin plain) :
    run report words stdin none = (planFor o word rest stdin).outcome id report ∧
      plain = (planFor o word rest stdin).outcome Write.plain report := by
  by_cases hhelp : o.help = true
  · rw [planFor, if_pos hhelp]
    refine ⟨by simp [run, h, hhelp], ?_⟩
    cases hplain with
    | option =>
      have hon : (o.turnOn .plain).help = true := hhelp
      simp only [run, takeWords_plain h, hon, if_true, outcome_showHelp]
    | environment hwish => simp [run, h, hhelp, outcome_showHelp]
  · rw [planFor, if_neg hhelp]
    refine ⟨by simp [run, h, hhelp, hcolours], ?_⟩
    cases hplain with
    | option =>
      have hshown : (o.turnOn .plain).help = false := Bool.eq_false_iff.mpr hhelp
      have hon : (o.turnOn .plain).plain = true := rfl
      simp only [run, takeWords_plain h, hshown, hon, Bool.true_or, if_true]
      rfl
    | environment hwish => simp [run, h, hhelp, hwish]

/-- **Plain output only strips the colours and merges the streams**, if all that is to be written
can be encoded. Let words hold a template, be spelled right and not ask for plain output themselves.
Then a run that is asked for plain output ends with the same exit code as one that is not. It writes
no errors, and its output is the output of the other run with the errors behind it, stripped of
colours. The first text with surrogates ends the plain run in front of it, but the other run only
where it belongs to the output. -/
theorem plain_merges_streams (h : Options.initial.takeWords words = .ok (o, word :: rest))
    (hcolours : o.plain = false) {coloured plain : Outcome}
    (hrun : run report words stdin none = coloured) (hplain : RunsPlain report words stdin plain) :
    (Encodable (planFor o word rest stdin).writes →
      plain.exit = coloured.exit ∧ plain.stderr = [] ∧
        plain.stdout = Text.stripColours (coloured.stdout ++ coloured.stderr)) ∧
      ∀ before w after, (planFor o word rest stdin).writes = before ++ w :: after →
        Encodable before → w.text.isEncodable = false →
          plain.ending = .error (.unencodable (Text.stripColours w.text)) ∧ plain.stderr = [] ∧
            plain.stdout = Text.stripColours (textOn .out before ++ textOn .err before ++
              report (.unencodable (Text.stripColours w.text)) ++ (['\n'] : Text)) ∧
            coloured.ending =
              if w.stream = .out then .error (.unencodable w.text)
              else (planFor o word rest stdin).ending := by
  have hordered := ordered_planFor o word rest stdin
  obtain ⟨hcoloured, rfl⟩ := hplain.eq_outcome h hcolours
  obtain rfl := hrun.symm.trans hcoloured
  refine ⟨hordered.outcome_plain, ?_⟩
  intro before w after hsplit hbefore hw
  exact hordered.outcome_plain_of_refused hsplit hbefore hw

/-- A coloured text and a coloured count of placeholders, on the two streams and merged. -/
theorem plain_merges_streams_of_verbose :
    Options.initial.takeWords ["-v", "\x1b[31mred\x1b[0m"] =
        .ok ({ Options.initial with verbose := 1 }, ["\x1b[31mred\x1b[0m"]) ∧
      RunsPlain Crash.report ["-v", "\x1b[31mred\x1b[0m"] []
        (run Crash.report ["-v", "\x1b[31mred\x1b[0m"] [] (some "1")) ∧
      (run Crash.report ["-v", "\x1b[31mred\x1b[0m"] [] none).stderr =
        "\x1b[90mplaceholders\t0\x1b[0m\n" ∧
      (run Crash.report ["-v", "\x1b[31mred\x1b[0m"] [] (some "1")).stdout =
        "red\nplaceholders\t0\n" := by
  have htaken : Options.initial.takeWords ["-v", "\x1b[31mred\x1b[0m"] =
      .ok ({ Options.initial with verbose := 1 }, ["\x1b[31mred\x1b[0m"]) := rfl
  have hrun : RunsPlain Crash.report ["-v", "\x1b[31mred\x1b[0m"] []
      (run Crash.report ["-v", "\x1b[31mred\x1b[0m"] [] (some "1")) := .environment (by decide)
  have hencodable : Encodable (planFor { Options.initial with verbose := 1 }
      "\x1b[31mred\x1b[0m" [] []).writes := by
    decide +kernel
  obtain ⟨-, -, hstdout⟩ := (plain_merges_streams htaken rfl rfl hrun).1 hencodable
  have hout : (run Crash.report ["-v", "\x1b[31mred\x1b[0m"] [] none).stdout =
      "\x1b[31mred\x1b[0m\n" := by
    decide +kernel
  have herr : (run Crash.report ["-v", "\x1b[31mred\x1b[0m"] [] none).stderr =
      "\x1b[90mplaceholders\t0\x1b[0m\n" := by
    decide +kernel
  refine ⟨htaken, hrun, herr, ?_⟩
  rw [hstdout, hout, herr]
  decide +kernel

/-- A fault that is ignored and shows a surrogate: the run with colours ends well, and the plain one
does not. -/
theorem not_plain_merges_surrogate_fault :
    Options.initial.takeWords ["--ignore", "--json", "--", "\x7b:d\x7d", "\"\\ud800\""] =
        .ok ({ Options.initial with ignore := true, json := true },
          ["\x7b:d\x7d", "\"\\ud800\""]) ∧
      (run Crash.report ["--ignore", "--json", "--", "\x7b:d\x7d", "\"\\ud800\""] [] none).exit =
        0 ∧
      (run Crash.report ["--plain", "--ignore", "--json", "--", "\x7b:d\x7d", "\"\\ud800\""]
        [] none).exit = 1 := by
  refine ⟨rfl, ?_, ?_⟩
  · decide +kernel
  · decide +kernel

end RunsPlain

end CommandLine

end BraceTemplate
