import BraceTemplate.Json.Read

/-!
# Arguments of the command line

A word on the command line stands for a value: by itself for a number, a truth value, null or a
text, or else, where that is asked for, for what it says as JSON.
-/

namespace BraceTemplate.Argument

/-- Words that are values. -/
def literals : List (Text × Value) :=
  [("true", .bool true), ("false", .bool false), ("null", .null)]

/-- The value of a word: a literal, a whole number, a decimal, or else the word itself. -/
def coerce (t : Text) : Value :=
  match literals.lookup t with
  | some v => v
  | none =>
    match Numeral.readInt? t with
    | some i => .int i
    | none =>
      match Numeral.readFloat? t with
      | some x => .float x
      | none => .text t

/-- A word that is not valid JSON, and its defect. -/
structure BadJson where
  word : Text
  defect : Json.Defect

def BadJson.message (b : BadJson) : Text :=
  "Argument `" ++ b.word ++ "` is not valid JSON: " ++ b.defect.message ++ "."

/-- The value that a word says as JSON. -/
def parseJson (t : Text) : Except BadJson Value :=
  (Json.read t).mapError fun defect => ⟨t, defect⟩

/-- The values of the words. -/
def values (json : Bool) (words : List Text) : Except BadJson (List Value) :=
  if json then words.mapM parseJson else .ok (words.map coerce)

end BraceTemplate.Argument
