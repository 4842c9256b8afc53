import BraceTemplate.Proofs.CommandLine.Outcome
import BraceTemplate.Proofs.Number.Shortest

/-!
# Numbers on the command line

A number is given by its text. A negative one looks like a group of letters behind a dash, but it
is written without letters that stand for switches and so is left as it is. The one exception is
negative infinity, whose name has the letter that asks to ignore faults: the switch is turned on,
and what is left of the name is a text. Every other number is read back from its text and reaches
the template.
-/

namespace BraceTemplate

open Numeral (IsMark BeginsWithDigit)

/-! ## Words that are left -/

namespace Options

/-- What does not begin with a dash is an argument. -/
theorem takeWord_of_no_dash {word : Text} (h : word.head? ≠ some ('-' : CodePoint)) (o : Options) :
    o.takeWord word = .ok (o, some word) := by
  unfold takeWord
  split
  · exact absurd rfl h
  · rfl

/-- A single dash begins no long name. -/
theorem lookup_longNames_eq_none {first : CodePoint} (h : first ≠ '-') (rest : Text) :
    Switch.longNames.lookup
      ((('-' : CodePoint) :: first :: rest).takeWhile (· != ('=' : CodePoint))) = none := by
  rw [Option.eq_none_iff_forall_ne_some]
  intro switch hlookup
  have hdashes : ∀ entry ∈ Switch.longNames, entry.1[1]? = some ('-' : CodePoint) := by decide
  have hsecond := hdashes _ (mem_of_lookup hlookup)
  rw [List.takeWhile_cons_of_pos (by decide), List.takeWhile_cons] at hsecond
  split at hsecond
  · exact h (Option.some.inj hsecond)
  · cases hsecond

/-- A group without known letters is an argument. -/
theorem takeWord_of_unknown {letters : Text}
    (hunknown : ∀ c ∈ letters, Switch.letters.lookup c = none)
    (hlong : letters.head? ≠ some ('-' : CodePoint))
    (o : Options) : o.takeWord ('-' :: letters) = .ok (o, some ('-' :: letters)) := by
  cases letters with
  | nil => rfl
  | cons first rest =>
    have hfirst : first ≠ '-' := fun heq => hlong (by rw [heq]; rfl)
    have hname := lookup_longNames_eq_none hfirst rest
    have hswitches : (first :: rest).filterMap (fun c => Switch.letters.lookup c) = [] :=
      List.filterMap_eq_nil_iff.mpr hunknown
    have hleft : (first :: rest).filter (fun c => (Switch.letters.lookup c).isNone) =
        first :: rest :=
      List.filter_eq_self.mpr fun c hc => by rw [hunknown c hc]; rfl
    rw [takeWord]
    simp only [hname, if_neg hfirst, turnOnLetters, hswitches, unknownLetters, hleft]
    rfl

theorem lookup_letters_of_isMark {c : CodePoint} (h : IsMark c) :
    Switch.letters.lookup c = none := by
  rw [Option.eq_none_iff_forall_ne_some]
  intro switch hlookup
  have hletter : Switch.HasLetter c switch := mem_of_lookup hlookup
  rcases hletter.cases with ⟨rfl, -⟩ | ⟨rfl, -⟩ | ⟨rfl, -⟩ | ⟨rfl, -⟩ <;> revert h <;> decide

/-- What a number is written with is an argument, with a minus sign before it as well. -/
theorem takeWord_signed {t : Text} (hmarks : ∀ c ∈ t, IsMark c) (hbegins : BeginsWithDigit t)
    (negative : Bool) (o : Options) :
    o.takeWord (Numeral.signed negative t) = .ok (o, some (Numeral.signed negative t)) := by
  have hdash : t.head? ≠ some ('-' : CodePoint) := by
    intro hhead
    cases hbegins _ hhead
  cases negative with
  | false => exact takeWord_of_no_dash hdash o
  | true => exact takeWord_of_unknown (fun c hc => lookup_letters_of_isMark (hmarks c hc)) hdash o

end Options

/-! ## Words that are numbers -/

/-- Whole numbers that are not too long to be read, and floating-point numbers. -/
inductive Value.IsPlainNumber : Value → Prop where
  | int {i} (fits : (Text.ofNat i.natAbs).length ≤ Numeral.maxDigits) : IsPlainNumber (.int i)
  | float {x} : IsPlainNumber (.float x)

namespace Argument

variable {v : Value}

/-- The switches that the text of a number turns on. -/
def switchesIn : Value → List Switch
  | .float (.infinite true) => [.ignore, .ignore]
  | _ => []

/-- What reaches the template of a number that is given by its text. -/
def received : Value → Value
  | .float (.infinite true) => .text "-Infnty"
  | v => v

theorem lookup_literals {t : Text} (h : ∀ c ∈ t, IsMark c) : literals.lookup t = none := by
  rw [Option.eq_none_iff_forall_ne_some]
  intro v hlookup
  have hliterals : ∀ entry ∈ literals, ∃ c ∈ entry.1, ¬ IsMark c := by
    intro entry hentry
    simp only [literals, List.mem_cons, List.not_mem_nil, or_false] at hentry
    rcases hentry with rfl | rfl | rfl
    · exact ⟨'t', by simp, by decide⟩
    · exact ⟨'f', by simp, by decide⟩
    · exact ⟨'n', by simp, by decide⟩
  obtain ⟨c, hc, hletter⟩ := hliterals (t, v) (mem_of_lookup hlookup)
  exact hletter (h c hc)

/-- A whole number is what its text stands for. -/
theorem coerce_int {i : Int} (h : (Text.ofNat i.natAbs).length ≤ Numeral.maxDigits) :
    coerce (Text.ofInt i) = .int i := by
  have hmarks : ∀ c ∈ Text.ofInt i, IsMark c := by
    rw [Numeral.ofInt_eq_signed]
    exact Numeral.isMark_signed (Numeral.isMark_of_isDigits (Text.isDigits_ofNat _)) _
  simp only [coerce, lookup_literals hmarks, Numeral.readInt?_ofInt h]

/-- A floating-point number is what its text stands for. -/
theorem coerce_float (x : Binary64) : coerce x.text = .float x := by
  have hliteral : literals.lookup x.text = none := by
    match x with
    | .nan => rfl
    | .infinite negative => cases negative <;> rfl
    | .finite negative m =>
      exact lookup_literals (Numeral.isMark_signed (Numeral.isDecimal_text m).marks negative)
  simp only [coerce, hliteral, Numeral.readInt?_text, Numeral.readFloat?_text]

/-- **A number is what its text stands for.** -/
theorem coerce_stringify (h : v.IsPlainNumber) : coerce v.stringify = v := by
  cases h with
  | int hfits => exact coerce_int hfits
  | float => exact coerce_float _

theorem coerce_received (h : v.IsPlainNumber) : coerce (received v).stringify = received v := by
  unfold received
  split
  · rfl
  · exact coerce_stringify h

theorem stringify_ne_dashes (h : v.IsPlainNumber) : v.stringify ≠ "--" := by
  intro hdashes
  -- the two dashes stand for a text
  have htext : coerce v.stringify = .text "--" := by
    rw [hdashes]
    rfl
  rw [coerce_stringify h] at htext
  cases h <;> cases htext

/-- The text of a number turns on its switches, and the text of what is received is left of it. -/
theorem takeWord_number (h : v.IsPlainNumber) (o : Options) :
    o.takeWord v.stringify =
      .ok ((switchesIn v).foldl Options.turnOn o, some (received v).stringify) := by
  cases h with
  | @int i =>
    have hdigits := Text.isDigits_ofNat i.natAbs
    change o.takeWord (Text.ofInt i) = .ok (o, some (Text.ofInt i))
    rw [Numeral.ofInt_eq_signed]
    exact Options.takeWord_signed (Numeral.isMark_of_isDigits hdigits)
      (Numeral.beginsWithDigit_of_isDigits hdigits) _ o
  | @float x =>
    cases x with
    | nan => rfl
    | infinite negative =>
      cases negative with
      | false => rfl
      | true => rfl
    | finite negative m =>
      have hsize := Numeral.isDecimal_text m
      exact Options.takeWord_signed hsize.marks hsize.begins negative o

theorem takeWords_numbers {vs : List Value} (h : ∀ v ∈ vs, v.IsPlainNumber) (o : Options) :
    o.takeWords (vs.map Value.stringify) =
      .ok ((vs.flatMap switchesIn).foldl Options.turnOn o,
        (vs.map received).map Value.stringify) := by
  induction vs generalizing o with
  | nil => rfl
  | cons v vs ih =>
    obtain ⟨hv, hvs⟩ := List.forall_mem_cons.mp h
    rw [List.map_cons, Options.takeWords, if_neg (stringify_ne_dashes hv), takeWord_number hv]
    simp only [bind, Except.bind, ih hvs, List.flatMap_cons, List.foldl_append]
    rfl

theorem values_received {vs : List Value} (h : ∀ v ∈ vs, v.IsPlainNumber) :
    values false ((vs.map received).map Value.stringify) = .ok (vs.map received) := by
  simp only [values, Bool.false_eq_true, if_false, List.map_map]
  congr 1
  exact List.map_congr_left fun v hv => coerce_received (h v hv)

/-- Only negative infinity turns on switches and is received as something else. -/
theorem received_of_ne (h : v ≠ .float (.infinite true)) :
    received v = v ∧ switchesIn v = [] := by
  unfold received switchesIn
  constructor
  all_goals
    split
    · exact absurd rfl h
    · rfl

theorem mem_switchesIn_iff {switch : Switch} :
    switch ∈ switchesIn v ↔ switch = .ignore ∧ v = .float (.infinite true) := by
  by_cases h : v = .float (.infinite true)
  · subst h
    simp [switchesIn]
  · simp [(received_of_ne h).2, h]

end Argument

namespace CommandLine

/-- The outcome of a run that prints this text as a line and nothing else. -/
structure Outcome.Prints (o : Outcome) (t : Text) : Prop where
  ending_eq : o.ending = .ok 0
  stdout_eq : o.stdout = t ++ (['\n'] : Text)
  stderr_eq : o.stderr = []

section Numbers

variable {report : Crash → String} {template stdin : Text} {noColor : Option Text} {vs : List Value}

theorem foldl_switchesIn (vs : List Value) :
    (vs.flatMap Argument.switchesIn).foldl Options.turnOn .initial =
      { Options.initial with ignore := decide (.ignore ∈ vs.flatMap Argument.switchesIn) } := by
  have hother : ∀ switch, switch ≠ .ignore → switch ∉ vs.flatMap Argument.switchesIn := by
    intro switch hne hmem
    obtain ⟨v, -, hswitch⟩ := List.mem_flatMap.mp hmem
    exact hne (Argument.mem_switchesIn_iff.mp hswitch).1
  rw [Options.foldl_turnOn, List.count_eq_zero.mpr (hother _ (by decide)),
    decide_eq_false (hother .json (by decide)), decide_eq_false (hother .plain (by decide)),
    decide_eq_false (hother .help (by decide))]
  rfl

/-- The outcome of a run that prints this text if it can be encoded. Otherwise the run breaks off
with nothing on the output. -/
structure PrintsIfEncodable (report : Crash → String) (t : Text) (o : Outcome) : Prop where
  prints : t.isEncodable = true → o.Prints t
  breaksOff : t.isEncodable = false → Escapes report [] (.unencodable t) o

/-- What is formatted with the values of words is printed, if nothing else is asked for. -/
theorem prints_execute {words : List Text} (hvalues : Argument.values false words = .ok vs)
    {t : Text} (ht : format .builtin (.text template) vs [] = .ok t) :
    PrintsIfEncodable report t ((execute Options.initial template vs).outcome id report) := by
  obtain ⟨r, done, steps, -, hresult, -, -, hshows, hreports⟩ :=
    execute_reports report [] template (Argument.says_of_values hvalues)
  have hquiet : r.trace = [] := hshows.trace_eq_nil (by decide)
  have hmade := hresult.trans ht
  have houtput : r.output = [t] := by rw [Run.output_of_ok hmade, hquiet, List.nil_append]
  constructor
  · intro hencodable
    cases hreports.result (by simpa [houtput] using hencodable) with
    | text made reported =>
      obtain rfl := Except.ok.inj (made.symm.trans hmade)
      refine ⟨reported.ending_eq, reported.stdout_eq.trans ?_, reported.stderr_eq (by simp)⟩
      rw [Run.printed, hquiet]
      rfl
    | fault failed => cases failed.symm.trans hmade
    | places failed => cases failed.symm.trans hmade
  · intro hrefused
    exact hreports.breaksOff [] t [] houtput (by simp) hrefused

/-- A template is formatted with what is received of numbers. -/
theorem run_eq_execute (htemplate : template.head? ≠ some ('-' : CodePoint))
    (hvs : ∀ v ∈ vs, v.IsPlainNumber)
    (hcolours : noColor.all List.isEmpty = true) :
    run report (template :: vs.map Value.stringify) stdin noColor =
      (execute
        { Options.initial with ignore := decide (.ignore ∈ vs.flatMap Argument.switchesIn) }
        template (vs.map Argument.received)).outcome id report := by
  have hdash : template ≠ "-" ∧ template ≠ "--" := by
    constructor <;> rintro rfl <;> exact htemplate rfl
  have htaken : Options.initial.takeWords (template :: vs.map Value.stringify) =
      .ok ({ Options.initial with ignore := decide (.ignore ∈ vs.flatMap Argument.switchesIn) },
        template :: (vs.map Argument.received).map Value.stringify) := by
    rw [Options.takeWords, if_neg hdash.2, Options.takeWord_of_no_dash htemplate]
    simp only [bind, Except.bind, Argument.takeWords_numbers hvs, foldl_switchesIn]
    rfl
  have hvalues := Argument.values_received hvs
  rw [run, htaken]
  simp only [formatWords, templateOf, if_neg hdash.1, Options.initial, hvalues, hcolours]
  rfl

/-- **Numbers reach the template as numbers**, except for negative infinity, which is taken for a
group of letters. What is formatted with them is printed, unless it has surrogates, which the output
does not take. -/
theorem run_numbers (htemplate : template.head? ≠ some ('-' : CodePoint))
    (hvs : ∀ v ∈ vs, v.IsPlainNumber) (hcolours : noColor.all List.isEmpty = true) :
    (.float (.infinite true) ∉ vs → ∀ t, format .builtin (.text template) vs [] = .ok t →
        PrintsIfEncodable report t
          (run report (template :: vs.map Value.stringify) stdin noColor)) ∧
      (.float (.infinite true) ∈ vs →
        run report (template :: vs.map Value.stringify) stdin noColor =
          (execute { Options.initial with ignore := true } template
            (vs.map Argument.received)).outcome id report) := by
  rw [run_eq_execute htemplate hvs hcolours]
  constructor
  · intro hmem t ht
    have hother : ∀ v ∈ vs, Argument.received v = v ∧ Argument.switchesIn v = [] :=
      fun v hv => Argument.received_of_ne fun heq => hmem (heq ▸ hv)
    have hreceived : vs.map Argument.received = vs :=
      (List.map_congr_left fun v hv => (hother v hv).1).trans (List.map_id vs)
    have hswitches : vs.flatMap Argument.switchesIn = [] :=
      List.flatMap_eq_nil_iff.mpr fun v hv => (hother v hv).2
    rw [hreceived, hswitches]
    exact prints_execute (hreceived ▸ Argument.values_received hvs) ht
  · intro hmem
    have hignore : .ignore ∈ vs.flatMap Argument.switchesIn :=
      List.mem_flatMap.mpr ⟨_, hmem, Argument.mem_switchesIn_iff.mpr ⟨rfl, rfl⟩⟩
    rw [decide_eq_true hignore]

/-- A placeholder without specification shows the text of its value. -/
theorem format_open (v : Value) :
    format .builtin (.text "\x7b\x7d") [v] [] = .ok v.stringify := by
  rw [format_of_link (link_open v)]
  exact congrArg Except.ok (List.append_nil v.stringify)

/-- The size of a half. -/
def halfSize : Magnitude := ⟨0x10000000000000, -53, by decide⟩

/-- A negative number looks like a group of letters, and is none. -/
theorem run_numbers_of_negative_half :
    ("\x7b\x7d" : Text).head? ≠ some ('-' : CodePoint) ∧
      (∀ v ∈ [Value.float (.finite true halfSize)], v.IsPlainNumber) ∧
      (run Crash.report ["\x7b\x7d", "-0.5"] [] none).Prints "-0.5" := by
  have htemplate : ("\x7b\x7d" : Text).head? ≠ some ('-' : CodePoint) := by decide
  have hnumbers : ∀ v ∈ [Value.float (.finite true halfSize)], v.IsPlainNumber := by
    simp [Value.IsPlainNumber.float]
  have htext : (Value.float (.finite true halfSize)).stringify = "-0.5" := by decide +kernel
  obtain ⟨hprints, -⟩ := @run_numbers Crash.report _ [] none _ htemplate hnumbers rfl
  have hprinted := hprints (by simp) _ (format_open _)
  rw [List.map_singleton, htext] at hprinted
  exact ⟨htemplate, hnumbers, hprinted.prints rfl⟩

/-- Negative infinity is formatted as its name, of which the command line takes letters away. -/
theorem not_prints_negative_infinity :
    ("\x7b\x7d" : Text).head? ≠ some ('-' : CodePoint) ∧
      (Value.float (.infinite true)).IsPlainNumber ∧
      format .builtin (.text "\x7b\x7d") [.float (.infinite true)] [] = .ok "-Infinity" ∧
      (run Crash.report ["\x7b\x7d", (Value.float (.infinite true)).stringify] [] none).stdout =
        "-Infnty\n" ∧
      ¬ (run Crash.report ["\x7b\x7d", (Value.float (.infinite true)).stringify] [] none).Prints
        "-Infinity" := by
  have hstdout :
      (run Crash.report ["\x7b\x7d", (Value.float (.infinite true)).stringify] [] none).stdout =
        "-Infnty\n" := by
    decide +kernel
  refine ⟨by decide, .float, format_open _, hstdout, fun hprints => ?_⟩
  have hname := hstdout.symm.trans hprints.stdout_eq
  revert hname
  decide

end Numbers

end CommandLine

end BraceTemplate
