import BraceTemplate.CommandLine.Run
import BraceTemplate.Proofs.CommandLine.Options
import BraceTemplate.Proofs.CommandLine.Output
import BraceTemplate.Proofs.Json.Data
import BraceTemplate.Proofs.Rendering.Reported
import BraceTemplate.Proofs.Rendering.Trace

/-!
# What the command line leaves behind

The command line formats its template with the values of its words and tells how that ended. These
values are data, of which only the numbers can fail in a way that is not reported: when they are to
be shown with too many places. The exit code tells the ways to end apart, and each of them decides
what is written where. All of this can be written unless a line of output has a surrogate.
-/

namespace BraceTemplate

/-! ## Formatting data -/

/-- Of data only what has too many places is unchecked. -/
theorem Value.IsData.exceeds {v : Value} (h : v.IsData) {spec : Option Text} {e : Failure}
    (hunchecked : Unchecked v spec e) :
    ∃ form padding asked, spec = some asked ∧ AsksFixed v form padding asked ∧
      form.Exceeds v padding e := by
  cases hunchecked with
  | default | integer | percentage => cases h
  | places asked exceeds => exact ⟨_, _, _, rfl, asked, exceeds⟩

/-- Formatting ends with this result, and these placeholders with their values are rendered before:
all of them, those before the first that fails, or none if the arguments do not suit. -/
inductive RendersUntil (template : Text) (args : List Value) :
    List (Placeholder × Value) → Except Failure Text → Prop where
  | text {bound t} (linked : link (scan template) args [] = .ok bound) :
      RendersUntil template args (bindings bound) (.ok t)
  | failure {before p v after e}
      (linked : link (scan template) args [] = .ok (before ++ .bound p v :: after))
      (failed : renderValue .builtin v p.spec = .error e) :
      RendersUntil template args (bindings before) (.error (e.locate p.site))
  | unlinked {f} (refused : link (scan template) args [] = .error f) :
      RendersUntil template args [] (.error (.fault f))

/-- A run shows the steps of the placeholders that are rendered before formatting ends, and its
result is that of formatting, whatever was counted. -/
theorem rendersUntil_run (template : Text) (args : List Value) :
    ∃ done steps,
      RendersUntil template args done (format .builtin (.text template) args []) ∧
        Traces .builtin 0 done steps ∧
        ∀ verbosity count r, run .builtin (.text template) args [] verbosity count = r →
          r.result = format .builtin (.text template) args [] ∧ r.Shows verbosity steps := by
  cases hlink : link (scan template) args [] with
  | error f =>
    have hformat : format .builtin (.text template) args [] = .error (.fault f) := by
      rw [format, run_of_link_error hlink]
      rfl
    rw [hformat]
    refine ⟨[], [], .unlinked hlink, .nil, ?_⟩
    intro verbosity count r hr
    rw [run_of_link_error hlink] at hr
    subst hr
    exact ⟨rfl, Run.shows_of_trace rfl⟩
  | ok bound =>
    rw [format_of_link hlink]
    rcases rendered_or_first_error .builtin bound with
      ⟨texts, htexts⟩ | ⟨before, p, v, after, texts, e, rfl, htexts, he⟩
    · obtain ⟨steps, htraces, hwalk⟩ := renderFrom_of_rendered htexts 0
      have hshows := shows_of_link hlink hwalk
      rw [hwalk]
      refine ⟨_, steps, .text hlink, htraces, ?_⟩
      intro verbosity count r hr
      exact hr ▸ hshows verbosity count
    · obtain ⟨steps, htraces, hwalk⟩ := renderFrom_of_error htexts he 0 after
      have hshows := shows_of_link hlink hwalk
      rw [hwalk]
      refine ⟨_, steps, .failure hlink he, htraces, ?_⟩
      intro verbosity count r hr
      exact hr ▸ hshows verbosity count

/-- The lines for the output: those of the trace, and the text if there is one. -/
def Run.output (r : Run) : List Text :=
  r.trace ++ r.result.toOption.toList

theorem Run.output_of_ok {r : Run} {t : Text} (h : r.result = .ok t) :
    r.output = r.trace ++ [t] := by
  rw [output, h]
  rfl

theorem Run.output_of_error {r : Run} {e : Failure} (h : r.result = .error e) :
    r.output = r.trace := by
  rw [output, h]
  exact List.append_nil _

/-- The first placeholder that cannot be rendered asks for too many places of its value, which
fails so. -/
inductive FailsForPlaces (template : Text) (args : List Value) : Failure → Prop where
  | intro {before p v after form padding spec e}
      (linked : link (scan template) args [] = .ok (before ++ .bound p v :: after))
      (rendered : Renderable .builtin before) (given : p.spec = some spec)
      (asked : AsksFixed v form padding spec) (exceeds : form.Exceeds v padding e) :
      FailsForPlaces template args e

theorem FailsForPlaces.ne_fault {template : Text} {args : List Value} {e : Failure}
    (h : FailsForPlaces template args e) (f : Fault) : e ≠ .fault f := by
  cases h with
  | intro _ _ _ _ exceeds => exact exceeds.ne_fault f

/-- Formatting data ends with a text or a fault, unless there are too many places. -/
theorem failsForPlaces_of_format {template : Text} {args : List Value}
    (hargs : ∀ arg ∈ args, arg.IsData) {e : Failure}
    (he : format .builtin (.text template) args [] = .error e) (hfault : ∀ f, e ≠ .fault f) :
    FailsForPlaces template args e := by
  obtain ⟨before, p, v, after, hlink, hrender, hunchecked⟩ := unchecked_of_format he hfault
  have hmem : (p, v) ∈ bindings (before ++ .bound p v :: after) := by
    simp [bindings, BoundSegment.binding?]
  have hdata : v.IsData := isData_of_link hargs hlink hmem
  obtain ⟨form, padding, asked, hspec, hasks, hexceeds⟩ := hdata.exceeds hunchecked
  exact .intro hlink hrender hspec hasks hexceeds

namespace CommandLine

/-! ## Banners -/

/-- The title of a banner tells faults of specifications and those of addressing from others. -/
inductive TitleOf : FaultKind → Text → Prop where
  | specification : TitleOf .specification "SYNTAX ERROR."
  | addressing {kind} (known : kind ∈ [.address, .missingArguments, .extraArguments]) :
      TitleOf kind "ADDRESSING ERROR."
  | other {kind} (known : kind ∈ [.type, .value, .sign, .code]) : TitleOf kind "FORMAT ERROR."

/-- The part of a banner that names the token, if one is known. -/
inductive TokenPart : Option Text → Text → Prop where
  | unknown : TokenPart none []
  | blank : TokenPart (some []) []
  | known {token} (nonempty : token ≠ []) :
      TokenPart (some token) (" in `\x1b[1;97m" ++ token ++ "\x1b[0m`")

/-- The part of a banner below its first line: the place in the template, if a column is known. -/
inductive PlacePart (template : Text) (f : Fault) : Text → Prop where
  | unknown (untold : f.column = none) : PlacePart template f []
  | known {column} (told : f.column = some column) :
      PlacePart template f
        (Excerpt.render template f.line (some column) (f.token.getD []))

/-- The banner of a fault: its title on a coloured ground, the message, the token, the name of the
kind in a colour, and below that the place. -/
inductive BannerOf (template : Text) (f : Fault) : Text → Prop where
  | intro {title token place} (titled : TitleOf f.kind title) (named : TokenPart f.token token)
      (placed : PlacePart template f place) :
      BannerOf template f ("\x1b[30;43m " ++ title ++ " \x1b[0m " ++ f.message ++ token ++
        " (Exception: \x1b[33m" ++ f.kind.name ++ "\x1b[0m)\n" ++ place)

theorem titleOf_title (kind : FaultKind) : TitleOf kind (title kind) := by
  cases kind with
  | specification => exact .specification
  | address | missingArguments | extraArguments => exact .addressing (by simp)
  | type | value | sign | code => exact .other (by simp)

theorem tokenPart_tokenDetail (f : Fault) : TokenPart f.token (tokenDetail f) := by
  unfold tokenDetail
  cases f.token with
  | none => exact .unknown
  | some token =>
    cases token with
    | nil => exact .blank
    | cons c rest =>
      have hshown : " in `" ++ Text.coloured "1;97" (c :: rest) ++ "`" =
          (" in `\x1b[1;97m" : Text) ++ (c :: rest) ++ "\x1b[0m`" := by
        simp [Text.coloured, Text.colour, Text.plain, Text.escape]
      change TokenPart (some (c :: rest))
        (" in `" ++ Text.coloured "1;97" (c :: rest) ++ "`")
      rw [hshown]
      exact .known (List.cons_ne_nil c rest)

theorem placePart_excerpt (template : Text) (f : Fault) :
    PlacePart template f (excerpt template f) := by
  unfold excerpt
  split
  · rename_i h
    exact .unknown h
  · rename_i column h
    exact .known h

theorem bannerOf_banner (template : Text) (f : Fault) :
    BannerOf template f (banner template f) := by
  have hbanner : banner template f = "\x1b[30;43m " ++ title f.kind ++ " \x1b[0m " ++ f.message ++
      tokenDetail f ++ " (Exception: \x1b[33m" ++ f.kind.name ++ "\x1b[0m)\n" ++
        excerpt template f := by
    simp [banner, Text.coloured, Text.colour, Text.plain, Text.escape]
  rw [hbanner]
  exact .intro (titleOf_title f.kind) (tokenPart_tokenDetail f) (placePart_excerpt template f)

/-! ## Reports -/

/-- The options that switches turn on. -/
def optionsOf (switches : List Switch) : Options :=
  ⟨switches.count .verbose, decide (.json ∈ switches), decide (.ignore ∈ switches),
    decide (.plain ∈ switches), decide (.help ∈ switches)⟩

/-- The outcome of a run that made a text: this stands on a line behind the trace. -/
structure ReportsText (switches : List Switch) (r : BraceTemplate.Run) (t : Text)
    (o : Outcome) : Prop where
  ending_eq : o.ending = .ok 0
  stdout_eq : o.stdout = r.printed ++ t ++ (['\n'] : Text)
  stderr_eq : .verbose ∉ switches → o.stderr = []

/-- The outcome of a run that ended with a fault: the trace alone, and the banner elsewhere, with
escapes for its surrogates. -/
structure ReportsFault (switches : List Switch) (template : Text) (r : BraceTemplate.Run)
    (f : Fault) (o : Outcome) : Prop where
  ending_eq : o.ending = .ok (if .ignore ∈ switches then 0 else 1)
  stdout_eq : o.stdout = r.printed
  stderr_banner : ∃ shown, BannerOf template f shown ∧
    shown.escapeSurrogates ++ (['\n'] : Text) <+: o.stderr ∧
    (.verbose ∉ switches → o.stderr = shown.escapeSurrogates ++ (['\n'] : Text))

/-- The outcome of a run that does not come to its end: some lines of output, and what the runtime
reports. -/
structure Escapes (report : Crash → String) (lines : List Text) (crash : Crash)
    (o : Outcome) : Prop where
  ending_eq : o.ending = .error crash
  stdout_eq : o.stdout = lines.flatMap (· ++ (['\n'] : Text))
  stderr_eq : o.stderr = report crash ++ (['\n'] : Text)

/-- The outcome of a run tells what it resulted in: a text, a fault, or the failure that comes of
too many places. -/
inductive ReportsResult (report : Crash → String) (switches : List Switch) (template : Text)
    (args : List Value) (r : BraceTemplate.Run) (o : Outcome) : Prop where
  | text {t} (made : r.result = .ok t) (reported : ReportsText switches r t o)
  | fault {f} (failed : r.result = .error (.fault f))
      (reported : ReportsFault switches template r f o)
  | places {e} (failed : r.result = .error e) (places : FailsForPlaces template args e)
      (escapes : Escapes report r.trace (.uncaught e) o)

/-- The outcome of a run tells what it resulted in, as long as all lines for the output can be
encoded. The first line that cannot be encoded ends the run in front of it. -/
structure ReportsRun (report : Crash → String) (switches : List Switch) (template : Text)
    (args : List Value) (r : BraceTemplate.Run) (o : Outcome) : Prop where
  result : (∀ line ∈ r.output, line.isEncodable = true) →
    ReportsResult report switches template args r o
  breaksOff : ∀ before line after, r.output = before ++ line :: after →
    (∀ line ∈ before, line.isEncodable = true) → line.isEncodable = false →
      Escapes report before (.unencodable line) o

section Reports

variable {switches : List Switch} {template : Text} {values : List Value} {r : BraceTemplate.Run}
  {report : Crash → String}

theorem verbose_optionsOf (switches : List Switch) :
    (optionsOf switches).verbose = switches.count .verbose := rfl

theorem on_countWrites (o : Options) (count : Nat) : On .err (countWrites o count) := by
  unfold countWrites
  split
  · simp [On]
  · exact on_printLine .err _

/-- Without being asked for, the count is not told. -/
theorem countWrites_of_not_mem (h : .verbose ∉ switches) (count : Nat) :
    countWrites (optionsOf switches) count = [] := by
  rw [countWrites, verbose_optionsOf, List.count_eq_zero.mpr h, if_pos rfl]

theorem Outcome.reported_of_ok {o : Outcome} {code : Nat} (h : o.ending = .ok code)
    (route : Write → Write) : o.reported route report = o := by
  simp only [Outcome.reported, h]

/-- What the runtime reports stands behind everything else. -/
theorem Outcome.escapes_reported {o : Outcome} {crash : Crash} {lines : List Text}
    (hending : o.ending = .error crash) (hwrites : o.writes = lines.flatMap (printLine .out)) :
    Escapes report lines crash (o.reported id report) := by
  obtain ⟨hout, herr⟩ := textOn_lines lines
  simp only [Outcome.reported, hending, id]
  refine ⟨rfl, ?_, ?_⟩
  · simp [Outcome.stdout, hwrites, hout]
  · simp [Outcome.stderr, hwrites, herr]

/-- What is executed writes the lines for the output, and then errors. -/
theorem exists_execute_eq (o : Options) (template : Text) (values : List Value) :
    ∃ ending errors, On .err errors ∧
      execute o template values =
        ⟨ending, (runText .builtin template values [] o.verbose (some 0)).output.flatMap
          (printLine .out) ++ errors⟩ := by
  simp only [execute]
  generalize runText .builtin template values [] o.verbose (some 0) = r
  have hcount := on_countWrites o (r.count.getD 0)
  cases hr : r.result with
  | ok t => exact ⟨.ok 0, _, hcount, by simp [Run.output_of_ok hr]⟩
  | error e =>
    rw [Run.output_of_error hr]
    cases e with
    | fault f =>
      exact ⟨.ok (if o.ignore then 0 else 1), printLine .err (banner template f) ++ _,
        (on_printLine .err _).append hcount, by simp⟩
    | _ => exact ⟨.error (.uncaught _), [], by simp [On], by simp; rfl⟩

theorem reportsText_execute
    (h : runText .builtin template values [] (switches.count .verbose) (some 0) = r)
    (hlines : ∀ line ∈ r.output, line.isEncodable = true) {t : Text} (ht : r.result = .ok t) :
    ReportsText switches r t
      ((execute (optionsOf switches) template values).outcome id report) := by
  rw [Run.output_of_ok ht] at hlines
  have hcount := on_countWrites (optionsOf switches) (r.count.getD 0)
  have hplan : execute (optionsOf switches) template values =
      ⟨.ok 0, (r.trace ++ [t]).flatMap (printLine .out) ++
        countWrites (optionsOf switches) (r.count.getD 0)⟩ := by
    simp [execute, verbose_optionsOf, h, ht]
  obtain ⟨hout, herr⟩ := textOn_lines (r.trace ++ [t])
  rw [hplan, Plan.outcome_id, performFrom_lines hlines hcount, Outcome.reported_of_ok rfl]
  refine ⟨rfl, ?_, ?_⟩
  · rw [Outcome.stdout, textOn_append, hout, textOn_map_escaped, hcount.textOn_of_ne (by decide)]
    simp [Run.printed]
  · intro hquiet
    rw [Outcome.stderr, countWrites_of_not_mem hquiet, List.map_nil, List.append_nil]
    exact herr

theorem reportsFault_execute
    (h : runText .builtin template values [] (switches.count .verbose) (some 0) = r)
    (hlines : ∀ line ∈ r.output, line.isEncodable = true) {f : Fault}
    (hf : r.result = .error (.fault f)) :
    ReportsFault switches template r f
      ((execute (optionsOf switches) template values).outcome id report) := by
  rw [Run.output_of_error hf] at hlines
  have herrors := (on_printLine .err (banner template f)).append
    (on_countWrites (optionsOf switches) (r.count.getD 0))
  have hplan : execute (optionsOf switches) template values =
      ⟨.ok (if .ignore ∈ switches then 0 else 1), r.trace.flatMap (printLine .out) ++
        (printLine .err (banner template f) ++
          countWrites (optionsOf switches) (r.count.getD 0))⟩ := by
    simp only [execute, verbose_optionsOf, h, hf, List.append_assoc]
    simp [optionsOf]
  obtain ⟨hout, herr⟩ := textOn_lines r.trace
  rw [hplan, Plan.outcome_id, performFrom_lines hlines herrors, Outcome.reported_of_ok rfl]
  have hstderr : ∀ rest : Text,
      Text.escapeSurrogates (banner template f ++ (['\n'] : Text) ++ rest) =
      (banner template f).escapeSurrogates ++ (['\n'] : Text) ++ rest.escapeSurrogates :=
    fun rest => by rw [Text.escapeSurrogates_append, Text.escapeSurrogates_append]; rfl
  refine ⟨rfl, ?_, banner template f, bannerOf_banner template f, ?_, ?_⟩
  · rw [Outcome.stdout, textOn_append, hout, textOn_map_escaped, herrors.textOn_of_ne (by decide)]
    simp [Run.printed]
  · rw [Outcome.stderr, textOn_append, herr, textOn_map_escaped, textOn_append, textOn_printLine,
      hstderr, List.nil_append]
    exact List.prefix_append _ _
  · intro hquiet
    rw [Outcome.stderr, textOn_append, herr, textOn_map_escaped, textOn_append, textOn_printLine,
      hstderr, countWrites_of_not_mem hquiet]
    simp

theorem escapes_execute
    (h : runText .builtin template values [] (switches.count .verbose) (some 0) = r)
    (hlines : ∀ line ∈ r.output, line.isEncodable = true) {e : Failure}
    (he : r.result = .error e) (hfault : ∀ f, e ≠ .fault f) :
    Escapes report r.trace (.uncaught e)
      ((execute (optionsOf switches) template values).outcome id report) := by
  rw [Run.output_of_error he] at hlines
  have hplan : execute (optionsOf switches) template values =
      ⟨.error (.uncaught e), r.trace.flatMap (printLine .out) ++ []⟩ := by
    simp only [execute, verbose_optionsOf, h, he, List.append_nil]
  rw [hplan, Plan.outcome_id, performFrom_lines hlines (by simp [On])]
  exact Outcome.escapes_reported rfl (by simp)

/-- A line for the output that cannot be encoded ends the run. -/
theorem escapes_execute_of_refused {o : Options} {before after : List Text} {line : Text}
    (h : (runText .builtin template values [] o.verbose (some 0)).output =
      before ++ line :: after)
    (hbefore : ∀ line ∈ before, line.isEncodable = true) (hline : line.isEncodable = false) :
    Escapes report before (.unencodable line)
      ((execute o template values).outcome id report) := by
  obtain ⟨ending, errors, -, hplan⟩ := exists_execute_eq o template values
  rw [hplan, h, Plan.outcome_id, performFrom_refused_line hbefore hline]
  exact Outcome.escapes_reported rfl rfl

/-- Formatting the values of words ends with a text or a fault, or fails for too many places, and
the outcome tells which unless a line of output is refused. -/
theorem execute_reports (report : Crash → String) (switches : List Switch) (template : Text)
    {json : Bool} {words : List Text} (hsaid : List.Forall₂ (Argument.Says json) words values) :
    ∃ r done steps,
      BraceTemplate.run .builtin (.text template) values [] (switches.count .verbose) (some 0) = r ∧
        r.result = format .builtin (.text template) values [] ∧
        RendersUntil template values done r.result ∧
        Traces .builtin 0 done steps ∧ r.Shows (switches.count .verbose) steps ∧
        ReportsRun report switches template values r
          ((execute (optionsOf switches) template values).outcome id report) := by
  obtain ⟨done, steps, hends, htraces, hrun⟩ := rendersUntil_run template values
  obtain ⟨hresult, hshows⟩ := hrun (switches.count .verbose) (some 0) _ rfl
  refine ⟨_, done, steps, rfl, hresult, hresult ▸ hends, htraces, hshows, ?_, ?_⟩
  · intro hlines
    cases hformat : format .builtin (.text template) values [] with
    | ok t =>
      exact .text (hresult.trans hformat)
        (reportsText_execute rfl hlines (hresult.trans hformat))
    | error e =>
      by_cases hfault : ∃ f, e = .fault f
      · obtain ⟨f, rfl⟩ := hfault
        exact .fault (hresult.trans hformat)
          (reportsFault_execute rfl hlines (hresult.trans hformat))
      · have hfault := not_exists.mp hfault
        have hplaces := failsForPlaces_of_format (Argument.isData_of_forall₂ hsaid) hformat hfault
        exact .places (hresult.trans hformat) hplaces
          (escapes_execute rfl hlines (hresult.trans hformat) hfault)
  · intro before line after hsplit hbefore hline
    exact escapes_execute_of_refused hsplit hbefore hline

end Reports

/-! ## Running words -/

section Words

variable {options : List Text} {switches : List Switch} {template : Text}

theorem run_of_spells (report : Crash → String) (hoptions : Spells options switches)
    (hcolours : .plain ∉ switches) (hhelp : .help ∉ switches) (htemplate : template ≠ "-")
    (words : List Text) (stdin : Text) :
    run report (options ++ ("--" : Text) :: template :: words) stdin none =
      Plan.outcome id report
        (match Argument.values (decide (.json ∈ switches)) words with
        | .error bad => usageError ("Invalid value: " ++ bad.message)
        | .ok values => execute (optionsOf switches) template values) := by
  have htaken := Options.takeWords_of_spells hoptions .initial (template :: words)
  have hinitial : switches.foldl Options.turnOn .initial = optionsOf switches := by
    rw [Options.foldl_turnOn]
    simp [Options.initial, optionsOf]
  rw [hinitial] at htaken
  have hcoloured : (optionsOf switches).plain = false := by simpa [optionsOf] using hcolours
  have hformats : (optionsOf switches).help = false := by simpa [optionsOf] using hhelp
  simp only [run, htaken, hcoloured, hformats, formatWords, templateOf, if_neg htemplate]
  rfl

/-- An error of usage is always told. -/
theorem reported_usageError (report : Crash → String) (message : Text) :
    ((usageError message).outcome id report).ending = .ok 2 ∧
      ((usageError message).outcome id report).stdout = [] := by
  have herrors : On .err (usageError message).writes := by simp [On, usageError]
  rw [Plan.outcome_id, Plan.performFrom_of_taken herrors.taken, Outcome.reported_of_ok rfl]
  refine ⟨rfl, ?_⟩
  rw [Outcome.stdout, textOn_map_escaped, herrors.textOn_of_ne (by decide)]
  rfl

theorem ReportsRun.exit_ne_two {args : List Value} {r : BraceTemplate.Run}
    {report : Crash → String} {o : Outcome} (h : ReportsRun report switches template args r o) :
    o.exit ≠ 2 := by
  rw [Outcome.exit]
  rcases all_or_first_not (fun line : Text => line.isEncodable) r.output with
    hlines | ⟨before, line, after, hsplit, hbefore, hline⟩
  · cases h.result hlines with
    | text made reported => simp [reported.ending_eq]
    | fault failed reported =>
      rw [reported.ending_eq]
      by_cases hignore : .ignore ∈ switches <;> simp [hignore]
    | places failed places escapes => simp [escapes.ending_eq]
  · simp [(h.breaksOff before line after hsplit hbefore hline).ending_eq]

/-- **The command line reports what formatting ends with**, but for two failures. If a word is to be
JSON and is not, it is refused before anything is formatted. Otherwise the template is formatted
with what the words stand for. If that ends with a text or a fault, then exit code, output and
errors report just that, and the trace is that of the placeholders rendered before. It ends
otherwise only if the first placeholder that fails asks for too many places, or if a line for the
output has a surrogate; neither failure is caught. -/
theorem run_reports_format (report : Crash → String) (hoptions : Spells options switches)
    (hcolours : .plain ∉ switches) (hhelp : .help ∉ switches) (htemplate : template ≠ "-")
    (words : List Text) (stdin : Text) {o : Outcome}
    (h : run report (options ++ ("--" : Text) :: template :: words) stdin none = o) :
    (o.exit = 2 ↔ .json ∈ switches ∧ ∃ word ∈ words, ∃ defect, Json.read word = .error defect) ∧
      (o.exit = 2 → o.stdout = []) ∧
      (o.exit ≠ 2 → ∃ values r done steps,
        List.Forall₂ (Argument.Says (decide (.json ∈ switches))) words values ∧
          BraceTemplate.run .builtin (.text template) values []
            (switches.count .verbose) (some 0) = r ∧
          r.result = format .builtin (.text template) values [] ∧
          RendersUntil template values done r.result ∧
          Traces .builtin 0 done steps ∧ r.Shows (switches.count .verbose) steps ∧
          ReportsRun report switches template values r o) := by
  rw [run_of_spells report hoptions hcolours hhelp htemplate] at h
  have hbad : (∃ bad, Argument.values (decide (.json ∈ switches)) words = .error bad) ↔
      .json ∈ switches ∧ ∃ word ∈ words, ∃ defect, Json.read word = .error defect := by
    rw [Argument.exists_values_eq_error_iff, decide_eq_true_iff]
  cases hvalues : Argument.values (decide (.json ∈ switches)) words with
  | error bad =>
    simp only [hvalues] at h
    subst h
    obtain ⟨hending, hstdout⟩ := reported_usageError report ("Invalid value: " ++ bad.message)
    have hexit := congrArg (fun ending => Outcome.exit ⟨ending, []⟩) hending
    exact ⟨iff_of_true hexit (hbad.mp ⟨bad, hvalues⟩), fun _ => hstdout,
      fun hne => absurd hexit hne⟩
  | ok values =>
    simp only [hvalues] at h
    subst h
    have hsaid := Argument.says_of_values hvalues
    obtain ⟨r, done, steps, hrun, hresult, hends, htraces, hshows, hreport⟩ :=
      execute_reports report switches template hsaid
    have hexit := hreport.exit_ne_two
    refine ⟨iff_of_false hexit ?_, fun htwo => absurd htwo hexit, fun _ => ?_⟩
    · rw [← hbad]
      rintro ⟨bad, herror⟩
      cases hvalues.symm.trans herror
    · exact ⟨values, r, done, steps, hsaid, hrun, hresult, hends, htraces, hshows, hreport⟩

theorem spells_ignore : Spells ["-i"] [.ignore] := by
  change Spells ['-' :: ['i']] ([.ignore] ++ [])
  exact .group (by decide) (.cons (by simp [Switch.HasLetter, Switch.letters]) .nil) .nil

/-- A fault that is ignored: nothing stands on the output, and the banner is among the errors. -/
theorem run_reports_format_of_ignored_fault :
    Spells ["-i"] [.ignore] ∧ .plain ∉ [Switch.ignore] ∧ .help ∉ [Switch.ignore] ∧
      ("\x7b:d\x7d" : Text) ≠ "-" ∧
      ∃ f, format .builtin (.text "\x7b:d\x7d") [.text "x"] [] = .error (.fault f) ∧
        ∀ o, run Crash.report ["-i", "--", "\x7b:d\x7d", "x"] [] none = o →
          o.exit = 0 ∧ o.stdout = [] ∧
            ∃ shown, BannerOf "\x7b:d\x7d" f shown ∧
              o.stderr = shown.escapeSurrogates ++ (['\n'] : Text) := by
  have hcolours : .plain ∉ [Switch.ignore] := by decide
  have hhelp : .help ∉ [Switch.ignore] := by decide
  have htemplate : ("\x7b:d\x7d" : Text) ≠ "-" := by decide
  have hlink : link (scan "\x7b:d\x7d") [.text "x"] [] =
      .ok [.bound ⟨"", some "d", ⟨1, 1⟩⟩ (.text "x")] := by
    have hscan : scan "\x7b:d\x7d" = [.field ⟨"", some "d", ⟨1, 1⟩⟩] := by cbv
    rw [hscan]
    rfl
  have hvalue : renderValue .builtin (.text "x") (some "d") =
      .error (.ofCause (.notIntegral (.text "x") (some "d"))) := by
    simp only [renderValue]
    rfl
  have hformat : format .builtin (.text "\x7b:d\x7d") [.text "x"] [] = _ :=
    (format_of_link hlink).trans
      (renderFrom_result_of_error (p := ⟨"", some "d", ⟨1, 1⟩⟩) .nil hvalue 0 0 [])
  refine ⟨spells_ignore, hcolours, hhelp, htemplate, _, hformat, ?_⟩
  intro o ho
  obtain ⟨husage, -, hreport⟩ :=
    run_reports_format Crash.report spells_ignore hcolours hhelp htemplate ["x"] [] ho
  have hexit : o.exit ≠ 2 := fun htwo => absurd (husage.mp htwo).1 (by decide)
  obtain ⟨values, r, done, steps, hsaid, -, hresult, -, -, hshows, hreported⟩ := hreport hexit
  obtain rfl : values = [.text "x"] := by
    cases hsaid with
    | cons hword hrest =>
      cases hrest
      cases hword
      rfl
  have hquiet : r.trace = [] := hshows.trace_eq_nil (by decide)
  have hlines : ∀ line ∈ r.output, line.isEncodable = true := by
    simp [Run.output_of_error (hresult.trans hformat), hquiet]
  cases hreported.result hlines with
  | text made => cases hformat.symm.trans (hresult.symm.trans made)
  | @fault f failed reported =>
    cases hformat.symm.trans (hresult.symm.trans failed)
    obtain ⟨shown, hshown, -, hbanner⟩ := reported.stderr_banner
    refine ⟨?_, ?_, shown, hshown, hbanner (by decide)⟩
    · rw [Outcome.exit, reported.ending_eq]
      rfl
    · rw [reported.stdout_eq, Run.printed, hquiet]
      rfl
  | places failed places =>
    cases hformat.symm.trans (hresult.symm.trans failed)
    exact absurd rfl (places.ne_fault _)

/-- The sign of a negative number is not refused where too many places are asked for, and nothing
catches the failure. -/
theorem not_reports_eighth_beyond_maxPlaces :
    Argument.values false ["-0.125"] = .ok [.float (.finite true eighth)] ∧
      (run Crash.report ["-i", "--", "\x7b:+0.2000055f\x7d", "-0.125"] [] none).ending =
        .error (.uncaught (.decimalSignal .invalidOperation)) ∧
      (run Crash.report ["-i", "--", "\x7b:+0.2000055f\x7d", "-0.125"] [] none).exit = 1 := by
  have hvalues : Argument.values false ["-0.125"] = .ok [.float (.finite true eighth)] := by
    have hint : Numeral.readInt? "-0.125" = none := by decide +kernel
    have hfloat : Numeral.readFloat? "-0.125" = some (.finite true eighth) := by decide +kernel
    have hword : Argument.coerce "-0.125" = .float (.finite true eighth) := by
      simp only [Argument.coerce, hint, hfloat]
      rfl
    exact congrArg (fun v => Except.ok [v]) hword
  have hlink : link (scan "\x7b:+0.2000055f\x7d") [.float (.finite true eighth)] [] =
      .ok [.bound ⟨"", some "+0.2000055f", ⟨1, 1⟩⟩ (.float (.finite true eighth))] := by
    have hscan : scan "\x7b:+0.2000055f\x7d" = [.field ⟨"", some "+0.2000055f", ⟨1, 1⟩⟩] := by cbv
    rw [hscan]
    rfl
  have hasked : AsksFixed (.float (.finite true eighth)) .number "+0.2000055" "+0.2000055f" := by
    change AsksFixed _ _ _ (("+0.2000055" : Text) ++ (['f'] : Text))
    exact .number (by decide)
  have hresult := renderFrom_result_of_error (p := ⟨"", some "+0.2000055f", ⟨1, 1⟩⟩) .nil
    (hasked.renderValue_eq.trans exceeds_eighth.render_eq) 0 0 []
  obtain ⟨done, steps, -, -, hruns⟩ :=
    rendersUntil_run "\x7b:+0.2000055f\x7d" [.float (.finite true eighth)]
  have hquiet := (hruns 0 (some 0) _ rfl).2.trace_eq_nil (by decide)
  have hfailed := (result_of_link hlink 0 (some 0)).trans hresult
  have hlines := (Run.output_of_error hfailed).trans hquiet
  have hescapes := @escapes_execute [.ignore] "\x7b:+0.2000055f\x7d"
    [.float (.finite true eighth)] _ Crash.report rfl
    (fun line hline => absurd (hlines ▸ hline) List.not_mem_nil) _ hfailed
    (by simp [Failure.locate])
  have hrun : run Crash.report ["-i", "--", "\x7b:+0.2000055f\x7d", "-0.125"] [] none = _ :=
    run_of_spells Crash.report spells_ignore (by decide) (by decide) (by decide) ["-0.125"] []
  simp only [show decide (Switch.json ∈ [Switch.ignore]) = false from rfl, hvalues] at hrun
  refine ⟨hvalues, ?_, ?_⟩
  · rw [hrun, hescapes.ending_eq]
    rfl
  · rw [hrun, Outcome.exit, hescapes.ending_eq]

end Words

end CommandLine

end BraceTemplate
