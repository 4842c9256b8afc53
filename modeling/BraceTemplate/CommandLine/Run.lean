import BraceTemplate.CommandLine.Argument
import BraceTemplate.CommandLine.Options
import BraceTemplate.CommandLine.Output
import BraceTemplate.Formatter
import BraceTemplate.Template.Excerpt

/-!
# Running the command line

The first argument is the template and the others are what it shows; a lone dash takes the template
from the standard input. The result goes to the standard output, with the steps before it if the run
is verbose, and faults are reported on the standard error. Plain output has no colours, and then all
of it goes to the standard output.
-/

namespace BraceTemplate.CommandLine

/-! ## Reports -/

/-- How the program is called. -/
def synopsis : Text :=
  "Usage: bracefmt [OPTIONS] TEMPLATE [ARGUMENTS]...\n"

/-- What the program does, and its options. -/
def help : Text :=
  synopsis ++
    "\n" ++
    "  Substitute ARGUMENTS into the brace TEMPLATE and print the result; use `-`\n" ++
    "  to read TEMPLATE from stdin.\n" ++
    "\n" ++
    "Options:\n" ++
    "  -v, --verbose  Trace each placeholder as it is rendered.\n" ++
    "  -j, --json     Parse every argument as JSON, e.g. objects for keyed\n" ++
    "                 templates.\n" ++
    "  -i, --ignore   Report errors but exit successfully.\n" ++
    "  -p, --plain    Strip ANSI color codes from the output (also set by\n" ++
    "                 NO_COLOR).\n" ++
    "  --help         Show this message and exit.\n"

def showHelp : Plan :=
  ⟨.ok 0, [⟨.out, help⟩]⟩

/-- The two lines that precede every error of usage. -/
def usage : Text :=
  synopsis ++ "Try 'bracefmt --help' for help.\n"

/-- An error of usage is reported without control sequences. -/
def usageError (message : Text) : Plan :=
  ⟨.ok 2,
    [⟨.err, usage ++ (['\n'] : Text)⟩,
      ⟨.err, Text.stripControls ("Error: " ++ message) ++ (['\n'] : Text)⟩]⟩

/-- What sort of fault it is. -/
def title : FaultKind → Text
  | .specification => "SYNTAX ERROR."
  | .address | .missingArguments | .extraArguments => "ADDRESSING ERROR."
  | _ => "FORMAT ERROR."

/-- The place of a fault in its template, if it is known. -/
def excerpt (template : Text) (f : Fault) : Text :=
  match f.column with
  | none => []
  | some column =>
    Excerpt.render template f.line (some column) (f.token.getD [])

/-- The token that is at fault, if it is known. -/
def tokenDetail (f : Fault) : Text :=
  match f.token with
  | none | some [] => []
  | some token => " in `" ++ Text.coloured "1;97" token ++ "`"

/-- A banner, the message and kind of a fault, and its place. -/
def banner (template : Text) (f : Fault) : Text :=
  Text.coloured "30;43" (" " ++ title f.kind ++ " ") ++ " " ++ f.message ++ tokenDetail f ++
    " (Exception: " ++ Text.coloured "33" f.kind.name ++ ")" ++ (['\n'] : Text) ++
      excerpt template f

/-! ## Running -/

/-- The count of rendered placeholders, at the end of a verbose run. -/
def countWrites (o : Options) (count : Nat) : List Write :=
  if o.verbose = 0 then []
  else printLine .err (Text.coloured "90" ("placeholders\t" ++ Text.ofNat count))

/-- Formats a template with the values of the words. -/
def execute (o : Options) (template : Text) (values : List Value) : Plan :=
  let r := runText .builtin template values [] o.verbose (some 0)
  let steps := r.trace.flatMap (printLine .out)
  let count := countWrites o (r.count.getD 0)
  match r.result with
  | .ok t => ⟨.ok 0, steps ++ printLine .out t ++ count⟩
  | .error (.fault f) =>
    ⟨.ok (if o.ignore then 0 else 1), steps ++ printLine .err (banner template f) ++ count⟩
  | .error failure => ⟨.error (.uncaught failure), steps⟩

/-- The template that the first argument stands for. -/
def templateOf (word stdin : Text) : Text :=
  if word = "-" then Text.dropTrailing '\n' stdin else word

/-- What is to be done for a template and its arguments. -/
def formatWords (o : Options) (word : Text) (words : List Text) (stdin : Text) : Plan :=
  match Argument.values o.json words with
  | .error bad => usageError ("Invalid value: " ++ bad.message)
  | .ok values => execute o (templateOf word stdin) values

/-- The outcome of a command line. `noColor` is the environment's wish for output without colours,
which an empty text does not express, and `report` is what the runtime tells of a run that does not
come to its end. Help comes before everything else that the words ask for. -/
def run (report : Crash → String) (words : List Text) (stdin : Text) (noColor : Option Text) :
    Outcome :=
  match Options.initial.takeWords words with
  | .error option =>
    (usageError ("Option '" ++ option ++ "' does not take a value.")).outcome id report
  | .ok (o, arguments) =>
    if o.help then showHelp.outcome id report
    else
      match arguments with
      | [] => (usageError "Missing argument 'TEMPLATE'.").outcome id report
      | word :: rest =>
        let route := if o.plain || !noColor.all List.isEmpty then Write.plain else id
        (formatWords o word rest stdin).outcome route report

end BraceTemplate.CommandLine
