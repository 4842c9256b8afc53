import BraceTemplate.Text.Colour
import BraceTemplate.Text.Lines

/-!
# Excerpts

The lines of a template around a place, numbered and coloured, with a token marked in the current
line. A line number outside the template is moved to its nearest line.
-/

namespace BraceTemplate.Excerpt

/-- Lines shown before and behind the current one. -/
def reach : Nat := 2

def bright : Text := Text.colour "97"

def dim : Text := Text.colour "90"

/-- What begins the mark on a token. -/
def markStart : Text := Text.colour "48;5;30" ++ Text.colour "1;97"

/-- The line with the token at a column marked; without such a column the line as it is. -/
def markToken (line : Text) (column : Option Int) (tokenLength : Nat) : Text :=
  match column with
  | none => line
  | some column =>
    if 0 < column ∧ column ≤ line.length then
      let before := column.toNat - 1
      line.take before ++ markStart ++ (line.drop before).take tokenLength ++ Text.plain ++
        line.drop (before + tokenLength)
    else line

/-- The lines of a template; there is always one. -/
def templateLines (template : Text) : List Text :=
  match Text.lines template with
  | [] => [[]]
  | lines => lines

/-- A line number moved into the range from one to `count`. -/
def clampLine (count : Nat) (line : Option Int) : Nat :=
  min (max (line.getD 1) 1).toNat count

/-- The number of a line, filled up to five places, and the line. -/
def row (colour : Text) (number : Nat) (line : Text) : Text :=
  colour ++ (Text.ofNat number).leftpad 5 (' ' : CodePoint) ++ " |" ++ Text.plain ++ " " ++ line

/-- The row of a line, whose token is marked if it is the current line. -/
def rowOf (current : Nat) (column : Option Int) (tokenLength : Nat) (number : Nat)
    (line : Text) : Text :=
  if number = current then row bright number (markToken line column tokenLength)
  else row dim number line

/-- The numbered lines from `first` to `last`. -/
def window (first last : Nat) (lines : List Text) : List (Nat × Text) :=
  (lines.mapIdx fun index line => (index + 1, line)).filter fun (number, _) =>
    decide (first ≤ number) && decide (number ≤ last)

def header (current : Nat) : Text :=
  bright ++ "  Template, line " ++ Text.ofNat current ++ Text.plain

/-- An empty line, the header, and a row for each line in reach of the current one. -/
def render (template : Text) (line column : Option Int) (token : Text) : Text :=
  let lines := templateLines template
  let current := clampLine lines.length line
  let rows := (window (current - reach) (current + reach) lines).map fun (number, text) =>
    rowOf current column token.length number text
  '\n' :: (header current :: rows).flatMap (· ++ (['\n'] : Text))

end BraceTemplate.Excerpt
