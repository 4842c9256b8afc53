import BraceTemplate.Text.Printable

/-!
# Quoted text

A text between quotes, on one line: quotes and backslashes are escaped, line ends and tabs have
short escapes, and every other character that is not printable is written by its code point.
-/

namespace BraceTemplate.Text

def singleQuote : CodePoint := '\x27'

def doubleQuote : CodePoint := '\x22'

/-- A code point in base sixteen, filled up with zeros to `width` digits. -/
def hexPadded (width n : Nat) : Text :=
  (digits 16 n).leftpad width '0'

/-- Two, four or eight digits, whichever are enough. -/
def codePointEscape (c : CodePoint) : Text :=
  if c.toNat < 0x100 then "\\x" ++ hexPadded 2 c.toNat
  else if c.toNat < 0x10000 then "\\u" ++ hexPadded 4 c.toNat
  else "\\U" ++ hexPadded 8 c.toNat

def escapeChar (quote c : CodePoint) : Text :=
  if c = quote ∨ c = '\\' then ['\\', c]
  else if c = '\t' then "\\t"
  else if c = '\n' then "\\n"
  else if c = '\r' then "\\r"
  else if isPrintable c then [c]
  else codePointEscape c

/-- Double quotes only around a text that has single quotes and no double ones. -/
def quoteFor (t : Text) : CodePoint :=
  if singleQuote ∈ t ∧ doubleQuote ∉ t then doubleQuote else singleQuote

def quoted (t : Text) : Text :=
  let quote := quoteFor t
  quote :: t.flatMap (escapeChar quote) ++ [quote]

/-- Bytes between quotes behind a `b`; what is not printable ASCII is written in base sixteen. -/
def quotedBytes (bytes : List UInt8) : Text :=
  let chars : Text := bytes.map fun b => .ofNat b.toNat
  let quote := quoteFor chars
  let escape (c : CodePoint) : Text :=
    if c = quote ∨ c = '\\' then ['\\', c]
    else if c = '\t' then "\\t"
    else if c = '\n' then "\\n"
    else if c = '\r' then "\\r"
    else if c.toNat < 0x20 ∨ 0x7F ≤ c.toNat then "\\x" ++ hexPadded 2 c.toNat
    else [c]
  ('b' : CodePoint) :: quote :: chars.flatMap escape ++ [quote]

end BraceTemplate.Text
