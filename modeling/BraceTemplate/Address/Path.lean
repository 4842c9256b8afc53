import BraceTemplate.Fault
import BraceTemplate.Value.Key

/-!
# Paths

A path leads from a value to one of its parts. Its steps are written with dots or in brackets, which
are two spellings of the same steps. A step goes to an entry of a mapping, an item of a sequence, or
an attribute that belongs to the value itself.
-/

namespace BraceTemplate

namespace Path

def isBracket (c : CodePoint) : Bool :=
  c == '[' || c == ']'

/-- Drops a closing bracket at the end, or right before a line feed at the end. -/
def dropLastBracket (path : Text) : Text :=
  match path.reverse with
  | ']' :: rest => rest.reverse
  | '\n' :: ']' :: rest => rest.reverse ++ (['\n'] : Text)
  | _ => path

/-- Writes a dot for each run of brackets. -/
def dotted : Text → Text
  | [] => []
  | c :: rest =>
    if isBracket c then
      if rest.head?.any isBracket then dotted rest else '.' :: dotted rest
    else c :: dotted rest

/-- The steps of a path. -/
def steps (path : Text) : List Text :=
  (dotted (dropLastBracket path)).splitOn '.'

end Path

namespace Value

/-- The part of a value that a step leads to. Digits are a key of a mapping as text first, and then
as a number. -/
def step? (v : Value) (key : Text) : Option Value :=
  match v with
  | .mapping _ entries =>
    (lookup? (.text key) entries).or
      (if Text.isNumeral key then lookup? (.int (Text.toNat key)) entries else none)
  | .list items | .tuple items =>
    if Text.isNumeral key then items[Text.toNat key]? else none
  | v => Entries.find? (· == key) v.ownAttributes

/-- The part that a sequence of steps leads to. -/
def walk? : Value → List Text → Option Value
  | v, [] => some v
  | v, key :: rest => (v.step? key).bind (·.walk? rest)

/-- The part at a path. A fault says where the path stands, if that is known. -/
def resolve (v : Value) (path : Text) (site : Option Site) : Except Fault Value :=
  match v.walk? (Path.steps path) with
  | some part => .ok part
  | none => .error (.ofCauseAt (.pathNotFound path) site)

end Value

end BraceTemplate
