import BraceTemplate.Fault
import BraceTemplate.Text.Colour
import BraceTemplate.Text.Quoted

/-!
# Output and errors

A run writes texts to two streams, one after the other. What is written is encoded, but a surrogate
has no encoding: among the errors an escape stands for it, and the output refuses the whole text.
Nothing catches that, so the run does not come to its end, and the same holds for a failure of
formatting that is no fault. The runtime then reports it behind everything else.
-/

namespace BraceTemplate

namespace Text

/-- A text without surrogates. -/
def isEncodable (t : Text) : Bool :=
  t.all (!·.isSurrogate)

/-- The text with an escape for each surrogate. -/
def escapeSurrogates (t : Text) : Text :=
  t.flatMap fun c => if c.isSurrogate then codePointEscape c else [c]

/-- The string of a text, with an escape for each surrogate. -/
def toEscapedString (t : Text) : String :=
  String.ofList (t.escapeSurrogates.filterMap CodePoint.char?)

end Text

namespace CommandLine

/-! ## Writing -/

inductive Stream where
  | out
  | err
deriving DecidableEq

/-- A text that is written to a stream at once. -/
structure Write where
  stream : Stream
  text : Text
deriving DecidableEq

/-- A line is written in two steps. -/
def printLine (stream : Stream) (line : Text) : List Write :=
  [⟨stream, line⟩, ⟨stream, ['\n']⟩]

/-- What is written to a stream. -/
def textOn (stream : Stream) (writes : List Write) : Text :=
  (writes.filter (·.stream = stream)).flatMap (·.text)

namespace Write

/-- Without colours, and to the standard output. -/
def plain (w : Write) : Write :=
  ⟨.out, Text.stripColours w.text⟩

/-- The output does not take surrogates. -/
def isRefused (w : Write) : Bool :=
  w.stream = .out && !w.text.isEncodable

/-- As it stands on the stream. -/
def escaped (w : Write) : Write :=
  ⟨w.stream, w.text.escapeSurrogates⟩

end Write

/-! ## The end of a run -/

/-- Why a run does not come to its end. -/
inductive Crash where
  | uncaught (failure : Failure)
  | unencodable (t : Text)

/-- The part of a message that tells which code points have no encoding: the first run of them. -/
def surrogatesDetail (t : Text) : Text :=
  let (before, rest) := t.span (!·.isSurrogate)
  match rest.takeWhile (·.isSurrogate) with
  | [c] =>
    "character '" ++ Text.codePointEscape c ++ "' in position " ++ Text.ofNat before.length
  | run =>
    "characters in position " ++ Text.ofNat before.length ++ "-" ++
      Text.ofNat (before.length + run.length - 1)

def Crash.message : Crash → Text
  | .uncaught failure => failure.message
  | .unencodable t =>
    "'utf-8' codec can't encode " ++ surrogatesDetail t ++ ": surrogates not allowed"

/-- The message, in a form that can be encoded. -/
def Crash.report (crash : Crash) : String :=
  crash.message.toEscapedString

/-- What a run sets out to write, and how it ends if it can. -/
structure Plan where
  ending : Except Crash Nat
  writes : List Write

/-- What a run leaves behind: how it ended, with an exit code or not, and what it wrote. -/
structure Outcome where
  ending : Except Crash Nat
  writes : List Write

namespace Outcome

/-- The exit code, which is that of the runtime if the run does not come to its end. -/
def exit (o : Outcome) : Nat :=
  match o.ending with
  | .ok code => code
  | .error _ => 1

def stdout (o : Outcome) : Text := textOn .out o.writes

def stderr (o : Outcome) : Text := textOn .err o.writes

/-- The runtime writes its report on the same way as everything else. -/
def reported (route : Write → Write) (report : Crash → String) (o : Outcome) : Outcome :=
  match o.ending with
  | .ok _ => o
  | .error crash => ⟨o.ending, o.writes ++ [route ⟨.err, (report crash : Text) ++ (['\n'] : Text)⟩]⟩

end Outcome

namespace Plan

/-- Writes in turn until a text is refused. -/
def performFrom (ending : Except Crash Nat) : List Write → Outcome
  | [] => ⟨ending, []⟩
  | w :: rest =>
    if w.isRefused then ⟨.error (.unencodable w.text), []⟩
    else
      let others := performFrom ending rest
      ⟨others.ending, w.escaped :: others.writes⟩

/-- What a plan leaves behind if everything is written on this way. -/
def outcome (route : Write → Write) (report : Crash → String) (p : Plan) : Outcome :=
  (performFrom p.ending (p.writes.map route)).reported route report

end Plan

end CommandLine

end BraceTemplate
