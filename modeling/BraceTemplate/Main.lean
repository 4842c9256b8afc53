import BraceTemplate.CommandLine.Run

/-!
# The command line program
-/

namespace BraceTemplate.CommandLine

/-- All that is left of a stream. -/
partial def readAll (stream : IO.FS.Stream) (before : String) : IO String := do
  let line ← stream.getLine
  if line.isEmpty then return before else readAll stream (before ++ line)

/-- The template is read from the standard input. -/
def needsInput (words : List Text) : Bool :=
  match Options.initial.takeWords words with
  | .ok (o, ['-'] :: _) => !o.help
  | _ => false

/-- A string, code point by code point. -/
def textOf (s : String) : Text := s

/-- Formats the template that the arguments give and returns the exit code. -/
def runProgram (args : List String) : IO UInt32 := do
  let words := args.map textOf
  let stdin ← if needsInput words then readAll (← IO.getStdin) "" else pure ""
  let noColor ← IO.getEnv "NO_COLOR"
  let outcome := run Crash.report words (textOf stdin) (noColor.map textOf)
  for w in outcome.writes do
    match w.stream with
    | .out => IO.print w.text.toEscapedString
    | .err => IO.eprint w.text.toEscapedString
  return outcome.exit.toUInt32

end BraceTemplate.CommandLine

def main (args : List String) : IO UInt32 :=
  BraceTemplate.CommandLine.runProgram args
