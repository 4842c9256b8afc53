import BraceTemplate.Text.Basic

/-!
# Lines

A text is cut at every line boundary of Unicode: line feed, carriage return (with a line feed that
follows it), vertical tab, form feed, the three information separators, next line, and the line and
paragraph separators. A boundary at the end opens no further line.
-/

namespace BraceTemplate.Text

def isLineBoundary (c : CodePoint) : Bool :=
  c ∈ (['\n', '\r', '\x0b', '\x0c', '\x1c', '\x1d', '\x1e', '\u0085', '\u2028', '\u2029'] : Text)

/-- Puts a character in front of the first line. -/
def consFirst (c : CodePoint) : List Text → List Text
  | [] => [[c]]
  | line :: rest => (c :: line) :: rest

/-- The lines of a text, without their boundaries; the empty text has none. -/
def lines : Text → List Text
  | [] => []
  | '\r' :: '\n' :: rest => [] :: lines rest
  | c :: rest => if isLineBoundary c then [] :: lines rest else consFirst c (lines rest)

end BraceTemplate.Text
