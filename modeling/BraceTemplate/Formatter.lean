import BraceTemplate.Binding
import BraceTemplate.CodeTable
import BraceTemplate.Template.Scan
import BraceTemplate.Text.Colour

/-!
# Formatting

A formatter is a code table. Formatting scans a template, binds its placeholders to the arguments,
and renders them from left to right; the first failure ends it. A verbose run prints a line for each
placeholder that is rendered, and every run that succeeds counts its placeholders.
-/

namespace BraceTemplate

/-! ## Rendering a value -/

/-- What a specification asks for: its last character is the code and the rest the padding, but if
it ends in an ASCII digit, all of it is padding for the default code. -/
def renderValue (table : CodeTable) (v : Value) (spec : Option Text) : Except Failure Text :=
  match spec with
  | none => .ok v.stringify
  | some spec =>
    match spec.getLast? with
    | none => .ok v.stringify
    | some last => do
      if last.isDigit then
        let code ← table.defaultCode v
        let r ← table.renderer code (some spec)
        r v spec
      else
        let r ← table.renderer (.text [last]) (some spec)
        r v spec.dropLast

/-! ## Rendering a template -/

/-- A placeholder that was rendered. -/
structure Step where
  index : Int
  raw : Text
  rendered : Text
deriving DecidableEq

namespace Step

/-- Number, placeholder and text of a step. -/
def report (s : Step) : Text :=
  Text.coloured "90" ((Text.ofInt s.index).leftpad 3 (' ' : CodePoint) ++ " :") ++ "  " ++
    s.raw ++ " " ++ Text.coloured "36" " <=> " ++ " " ++ Text.quoted s.rendered

/-- The lines printed of a step: its report if the run is to be verbose. -/
def trace (verbosity : Int) (s : Step) : List Text :=
  if 0 < verbosity then [s.report] else []

end Step

/-- The lines that were printed, the number of placeholders that were rendered, and the text or the
failure that ended it. -/
structure Rendering where
  trace : List Text
  steps : Nat
  result : Except Failure Text

/-- Renders bound segments; `index` placeholders come before. -/
def renderFrom (table : CodeTable) (verbosity : Int) : Nat → List BoundSegment → Rendering
  | index, [] => ⟨[], index, .ok []⟩
  | index, .literal t :: rest =>
    let others := renderFrom table verbosity index rest
    ⟨others.trace, others.steps, others.result.map (t ++ ·)⟩
  | index, .bound p v :: rest =>
    match renderValue table v p.spec with
    | .error failure => ⟨[], index, .error (failure.locate p.site)⟩
    | .ok t =>
      let others := renderFrom table verbosity (index + 1) rest
      ⟨Step.trace verbosity ⟨index, p.raw, t⟩ ++ others.trace, others.steps,
        others.result.map (t ++ ·)⟩

/-! ## Runs -/

/-- What a run prints and results in, and the count of placeholders after it. Runs share the count,
and before the first one there is none. -/
structure Run where
  trace : List Text
  result : Except Failure Text
  count : Option Nat

namespace Run

/-- A run that ends before anything is rendered. -/
def failed (failure : Failure) (count : Option Nat) : Run :=
  ⟨[], .error failure, count⟩

/-- The lines that a run prints, one after the other. -/
def printed (r : Run) : Text :=
  r.trace.flatMap (· ++ (['\n'] : Text))

end Run

/-- Renders bound segments, and counts their placeholders if all of them succeed. -/
def interpret (table : CodeTable) (segments : List BoundSegment) (verbosity : Int)
    (count : Option Nat) : Run :=
  let rendering := renderFrom table verbosity 0 segments
  match rendering.result with
  | .ok t => ⟨rendering.trace, .ok t, some (count.getD 0 + rendering.steps)⟩
  | .error failure => ⟨rendering.trace, .error failure, count⟩

/-- Formats a text template. A template without placeholders, given no arguments, is the result, and
nothing is counted. -/
def runText (table : CodeTable) (template : Text) (args : List Value)
    (named : List (Text × Value)) (verbosity : Int) (count : Option Nat) : Run :=
  let segments := scan template
  if args.isEmpty && named.isEmpty && (placeholders segments).isEmpty then
    ⟨[], .ok template, count⟩
  else
    match link segments args named with
    | .error fault => .failed (.fault fault) count
    | .ok bound => interpret table bound verbosity count

/-- Formats a template, which has to be a text. -/
def run (table : CodeTable) (template : Value) (args : List Value)
    (named : List (Text × Value)) (verbosity : Int) (count : Option Nat) : Run :=
  match template with
  | .text t => runText table t args named verbosity count
  | v => .failed (.templateNotText v.typeName) count

/-- The text of a template with its arguments. -/
def format (table : CodeTable) (template : Value) (args : List Value)
    (named : List (Text × Value)) : Except Failure Text :=
  (run table template args named 0 none).result

/-- The mode in which a template addresses its arguments. -/
def addressing (template : Text) : Except Fault (Option AddressMode) :=
  commonMode (placeholders (scan template))

end BraceTemplate
