import BraceTemplate.Text.Basic

/-!
# Options of the command line

Options are words that start with a dash. They have long names behind two dashes, or letters behind
one, where several letters may share the dash. Unknown options are arguments: of a group of letters
those that are unknown stay together as one. A lone dash is an argument, and behind two dashes all
words are.
-/

namespace BraceTemplate

inductive Switch where
  | verbose
  | json
  | ignore
  | plain
  | help
deriving DecidableEq

namespace Switch

/-- The switches by their long names. -/
def longNames : List (Text × Switch) :=
  [("--verbose", .verbose), ("--json", .json), ("--ignore", .ignore), ("--plain", .plain),
    ("--help", .help)]

/-- The switches by their letters, which all have but one. -/
def letters : List (CodePoint × Switch) :=
  [('v', .verbose), ('j', .json), ('i', .ignore), ('p', .plain)]

end Switch

structure Options where
  verbose : Nat
  json : Bool
  ignore : Bool
  plain : Bool
  help : Bool
deriving DecidableEq

namespace Options

/-- No switch is turned on. -/
def initial : Options := ⟨0, false, false, false, false⟩

/-- The options with a switch turned on. To be verbose is counted. -/
def turnOn (o : Options) : Switch → Options
  | .verbose => { o with verbose := o.verbose + 1 }
  | .json => { o with json := true }
  | .ignore => { o with ignore := true }
  | .plain => { o with plain := true }
  | .help => { o with help := true }

/-- Turns on the known letters of a group. -/
def turnOnLetters (o : Options) (group : Text) : Options :=
  (group.filterMap fun c => Switch.letters.lookup c).foldl turnOn o

/-- The argument that the unknown letters of a group make up. -/
def unknownLetters (group : Text) : Option Text :=
  let unknown := group.filter fun c => (Switch.letters.lookup c).isNone
  if unknown.isEmpty then none else some ('-' :: unknown)

/-- Takes a word: the options behind it, and the argument that is left of it. An error names a long
option that is given a value. -/
def takeWord (o : Options) (word : Text) : Except Text (Options × Option Text) :=
  match word with
  | '-' :: second :: rest =>
    let name := word.takeWhile (· != ('=' : CodePoint))
    match Switch.longNames.lookup name with
    | some switch => if ('=' : CodePoint) ∈ word then .error name else .ok (o.turnOn switch, none)
    | none =>
      if second = '-' then .ok (o, some word)
      else .ok (o.turnOnLetters (second :: rest), unknownLetters (second :: rest))
  | _ => .ok (o, some word)

/-- Takes the words of a command line: the options, and the arguments in order. -/
def takeWords (o : Options) : List Text → Except Text (Options × List Text)
  | [] => .ok (o, [])
  | word :: rest =>
    if word = "--" then .ok (o, rest)
    else do
      let (o, left) ← o.takeWord word
      let (o, arguments) ← o.takeWords rest
      return (o, left.toList ++ arguments)

end Options

end BraceTemplate
