import BraceTemplate.Render.Fixed
import BraceTemplate.Render.Text

/-!
# Builtin codes

Each builtin code is one character. `s` and `c` show texts and characters, `d`, `o`, `x`, `X` and
`b` integers, `f` fixed-point numbers, and `%` percentages.
-/

namespace BraceTemplate.Render

/-- Hexadecimal digits in upper case, and with them all letters. -/
def upperHexadecimal (v : Value) (padding : Text) : Except Failure Text := do
  let t ← integer v padding 16 (some "X")
  return t.map CodePoint.toUpper

/-- The builtin renderers by their codes, in the order in which codes are checked. -/
def builtins : List (Text × Renderer) :=
  [("s", string),
   ("c", char),
   ("d", fun v padding => integer v padding 10 (some "d")),
   ("o", fun v padding => integer v padding 8 (some "o")),
   ("x", fun v padding => integer v padding 16 (some "x")),
   ("X", upperHexadecimal),
   ("b", fun v padding => integer v padding 2 (some "b")),
   ("f", fun v padding => fixed v padding false),
   ("%", percentage)]

/-- What the name of a renderer starts with. -/
def nameStart : Text := "code_"

/-- The code that a renderer's name stands for: the rest of the name, or `%` for `percent`. -/
def codeOfName (name : Text) : Except Failure Text :=
  if nameStart.isPrefixOf name then
    let code := name.drop nameStart.length
    .ok (if code = "percent" then ['%'] else code)
  else
    .error (.inconsistent
      ("Renderer function `" ++ name ++ "` requires prefix `code_` by convention."))

end BraceTemplate.Render
